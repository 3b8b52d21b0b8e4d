import Rtl8852be.Twt
import Rtl8852be.Lib.Run
import Mathlib.Order.Bounds.Basic

/-!
# Agreements on target wake time

In station mode every agreement has a config of its own, so a config is free with an empty queue, or
lists one station. Calls keep this as long as the hardware does not refuse in the middle of a call.
An element is parsed to what it was filled from.
-/

namespace Rtl8852be

open Run List TwtStaInfo TwtInfo Nat

variable {ι ρ : Type*} {wrole : ι → ρ} {x : TwtScan ι ρ} {s : TwtInfo ι ρ} {e : TwtStaInfo ι}
variable {c : TwtConfig ι ρ} {type : NegoType}

structure TwtHolds (wrole : ι → ρ) (i : ℕ) (c : TwtConfig ι ρ) (e : TwtStaInfo ι) : Prop where
  state : c.state ≠ .free
  role : c.role = some (wrole e.phlSta)
  negoType : c.negoType = .indivTwt
  twtId : c.twtId = i
  queue : c.twtStaQueue = [e]

def TwtSlot (wrole : ι → ρ) (i : ℕ) (c : TwtConfig ι ρ) : Prop :=
  c.state = .free ∧ c.twtStaQueue = [] ∨ ∃ e, TwtHolds wrole i c e

structure TwtInv (wrole : ι → ρ) (s : TwtInfo ι ρ) : Prop where
  slot : ∀ i < maxNumHwTwtConfig, TwtSlot wrole i (s.ring i)
  unique : ∀ i < maxNumHwTwtConfig, ∀ j < maxNumHwTwtConfig, ∀ e,
    (s.ring i).twtStaQueue = [e] → (s.ring j).twtStaQueue = [e] → i = j

def TwtInfo.agreed (s : TwtInfo ι ρ) (i : ℕ) : Option (TwtStaInfo ι) := (s.ring i).twtStaQueue.head?

@[local simp] def TwtConfig.freed (c : TwtConfig ι ρ) : TwtConfig ι ρ :=
  { c with state := .free, twtStaQueue := [] }

variable {i : ℕ}

section Free

variable {s' : TwtInfo ι ρ}

lemma TwtInv.of_freed (h : TwtInv wrole s) (hring : ∀ i < maxNumHwTwtConfig,
    s'.ring i = s.ring i ∨ ((s'.ring i).state = .free ∧ (s'.ring i).twtStaQueue = [])) :
    TwtInv wrole s' := by
  have hqueue : ∀ i < maxNumHwTwtConfig, ∀ e, (s'.ring i).twtStaQueue = [e] →
      (s.ring i).twtStaQueue = [e] := by
    intro i hi e hq
    rcases hring i hi with hsame | ⟨-, hnil⟩
    · rwa [hsame] at hq
    · rw [hnil] at hq
      cases hq
  refine ⟨fun i hi => ?_, fun i hi j hj e hqi hqj => ?_⟩
  · rcases hring i hi with hsame | hfree
    · rw [hsame]
      exact h.slot i hi
    · exact .inl hfree
  · exact h.unique i hi j hj e (hqueue i hi e hqi) (hqueue j hj e hqj)

lemma TwtInv.fill (h : TwtInv wrole s) (hc : TwtHolds wrole i c e)
    (hfresh : ∀ j < maxNumHwTwtConfig, (s.ring j).twtStaQueue ≠ [e]) :
    TwtInv wrole (s.setConfig i c) := by
  have hother : ∀ j, j ≠ i → (s.setConfig i c).ring j = s.ring j := fun j hj =>
    Function.update_of_ne hj ..
  have hself : (s.setConfig i c).ring i = c := Function.update_self ..
  refine ⟨fun j hj => ?_, fun j hj k hk e' hqj hqk => ?_⟩
  · by_cases hji : j = i
    · rw [hji, hself]
      exact .inr ⟨e, hc⟩
    · rw [hother j hji]
      exact h.slot j hj
  · by_cases hji : j = i
    · by_cases hki : k = i
      · rw [hji, hki]
      · rw [hji, hself, hc.queue] at hqj
        rw [hother k hki, ← hqj] at hqk
        exact absurd hqk (hfresh k hk)
    · rw [hother j hji] at hqj
      by_cases hki : k = i
      · rw [hki, hself, hc.queue] at hqk
        rw [← hqk] at hqj
        exact absurd hqj (hfresh j hj)
      · rw [hother k hki] at hqk
        exact h.unique j hj k hk e' hqj hqk

structure TwtDropped (wrole : ι → ρ) (e : TwtStaInfo ι) (s s' : TwtInfo ι ρ) : Prop where
  inv : TwtInv wrole s'
  on : (s'.sup && s'.init) = true
  gone : ∀ i < maxNumHwTwtConfig, (s'.ring i).twtStaQueue ≠ [e]
  used : ∀ i < maxNumHwTwtConfig, (s'.ring i).state ≠ .free → (s.ring i).state ≠ .free

lemma TwtInv.free_one (h : TwtInv wrole s)
    (hself : (s'.ring i).state = .free ∧ (s'.ring i).twtStaQueue = [])
    (hother : ∀ j, j ≠ i → s'.ring j = s.ring j) :
    TwtInv wrole s' ∧ ∀ j, (s'.ring j).state ≠ .free → (s.ring j).state ≠ .free := by
  refine ⟨h.of_freed fun j _ => ?_, fun j hne => ?_⟩
  · by_cases hji : j = i
    · rw [hji]
      exact .inr hself
    · exact .inl (hother j hji)
  · by_cases hji : j = i
    · rw [hji] at hne
      exact absurd hself.1 hne
    · rwa [hother j hji] at hne

lemma TwtInv.dropped (h : TwtInv wrole s) (hi : i < maxNumHwTwtConfig)
    (hq : (s.ring i).twtStaQueue = [e]) (hon : (s'.sup && s'.init) = true)
    (hself : (s'.ring i).state = .free ∧ (s'.ring i).twtStaQueue = [])
    (hother : ∀ j, j ≠ i → s'.ring j = s.ring j) : TwtDropped wrole e s s' := by
  obtain ⟨hinv, hused⟩ := h.free_one hself hother
  refine ⟨hinv, hon, fun j hj hqj => ?_, fun j _ => hused j⟩
  by_cases hji : j = i
  · rw [hji, hself.2] at hqj
    cases hqj
  · rw [hother j hji] at hqj
    exact hji (h.unique j hj i hi e hqj hq)

lemma rtwPhlTwtFreeTwtConfig_ring (hon : (s.sup && s.init) = true) (disable : Bool) (i j : ℕ) :
    (rtwPhlTwtFreeTwtConfig disable i s).2.ring j =
      if j = i ∧ i < maxNumHwTwtConfig ∧ (s.ring i).state ≠ .free then (s.ring j).freed
      else s.ring j := by
  rw [rtwPhlTwtFreeTwtConfig, if_pos hon, twtGetConfigById]
  by_cases hi : maxNumHwTwtConfig ≤ i
  · rw [if_pos hi, if_neg fun hc => absurd hc.2.1 (not_lt.2 hi)]
  by_cases hfree : (s.ring i).state = .free
  · rw [if_neg hi, if_pos hfree, if_neg fun hc => hc.2.2 hfree]
  rw [if_neg hi, if_neg hfree]
  by_cases hj : j = i
  · subst hj
    rw [if_pos ⟨rfl, not_le.1 hi, hfree⟩]
    exact Function.update_self ..
  · rw [if_neg fun hc => hj hc.1]
    exact Function.update_of_ne hj ..

lemma rtwPhlTwtFreeTwtConfig_on (disable : Bool) (i : ℕ) (s : TwtInfo ι ρ) :
    ((rtwPhlTwtFreeTwtConfig disable i s).2.sup && (rtwPhlTwtFreeTwtConfig disable i s).2.init) =
      (s.sup && s.init) := by
  unfold rtwPhlTwtFreeTwtConfig
  split_ifs
  · split <;> rfl
  · rfl

lemma twtFree_fold (io : TwtIo) (bitmap : BitVec 8) : ∀ (is : List ℕ)
    (x : PhlStatus × TwtInfo ι ρ), (x.2.sup && x.2.init) = true → ∀ j,
    (is.foldl (fun x i =>
      if bitmap.getLsbD i then rtwPhlTwtFreeTwtConfig (io.disable i) i x.2 else x) x).2.ring j =
      if j ∈ is ∧ bitmap.getLsbD j = true ∧ j < maxNumHwTwtConfig ∧ (x.2.ring j).state ≠ .free then
        (x.2.ring j).freed
      else x.2.ring j
  | [], x, _, j => by simp
  | i :: is, x, hon, j => by
    rw [foldl_cons]
    by_cases hbit : bitmap.getLsbD i = true
    · have hfree := rtwPhlTwtFreeTwtConfig_ring hon (io.disable i) i
      have hon' := (rtwPhlTwtFreeTwtConfig_on (io.disable i) i x.2).trans hon
      rw [if_pos hbit, twtFree_fold io bitmap is _ hon' j, hfree j]
      by_cases hj : j = i
      · subst hj
        by_cases hc : j < maxNumHwTwtConfig ∧ (x.2.ring j).state ≠ .free
        · simp [hbit, hc]
        · simp [hbit, hc]
      · simp [hj]
    · rw [if_neg hbit, twtFree_fold io bitmap is x hon j]
      by_cases hj : j = i
      · subst hj
        simp [hbit]
      · simp [hj]

lemma TwtInv.alloc (h : TwtInv wrole s) (hon : (s.sup && s.init) = true) (role : ρ) :
    rtwPhlTwtAllocTwtConfig true role .indivTwt true s = (.resource, none, s) ∨
      ∃ i < maxNumHwTwtConfig, (s.ring i).state = .free ∧
        rtwPhlTwtAllocTwtConfig true role .indivTwt true s =
          (.success, some i, s.setConfig i ⟨.enable, some role, .indivTwt, i, []⟩) := by
  unfold rtwPhlTwtAllocTwtConfig twtGetNewConfig
  rw [if_pos hon]
  rcases hfind : (range maxNumHwTwtConfig).find? (fun i => decide ((s.ring i).state = .free))
    with _ | i
  · exact .inl rfl
  have hi : i < maxNumHwTwtConfig := mem_range.1 (mem_of_find?_eq_some hfind)
  have hfree : (s.ring i).state = .free := by simpa using find?_some hfind
  refine .inr ⟨i, hi, hfree, ?_⟩
  have hq : (s.ring i).twtStaQueue = [] := by
    rcases h.slot i hi with ⟨-, hq⟩ | ⟨e, he⟩
    · exact hq
    · exact absurd hfree he.state
  simp [twtInfoUpdate, twtTransferConfigState, hq]

end Free

/-- The hardware removes the station everywhere or nowhere. -/
def TwtInfo.DelUniform (s : TwtInfo ι ρ) (phlSta : ι) (io : TwtIo) : Prop :=
  ∃ b, ∀ i e, s.agreed i = some e → e.phlSta = phlSta → io.delMacid i = b

variable [DecidableEq ι]

def TwtInfo.hits (s : TwtInfo ι ρ) (phlSta : ι) (id : UInt8) (i : ℕ) : Bool :=
  twtStaExist phlSta id (s.ring i).twtStaQueue

variable {phlSta : ι} {id : UInt8}

section Slot

lemma TwtSlot.holds_of_exist (h : TwtSlot wrole i c)
    (hex : twtStaExist phlSta id c.twtStaQueue = true) :
    ∃ e, TwtHolds wrole i c e ∧ e.isOf phlSta id = true := by
  rcases h with ⟨-, hq⟩ | ⟨e, he⟩
  · rw [hq] at hex
    cases hex
  · rw [he.queue] at hex
    exact ⟨e, he, by simpa [twtStaExist] using hex⟩

lemma TwtStaInfo.phlSta_of_isOf (h : e.isOf phlSta id = true) : e.phlSta = phlSta := by
  simp [isOf] at h
  exact h.1.symm

variable [DecidableEq ρ]

lemma twtSkip_eq (h : TwtSlot wrole i c) :
    twtSkip wrole phlSta false .indivTwt id c = !twtStaExist phlSta id c.twtStaQueue := by
  cases hex : twtStaExist phlSta id c.twtStaQueue with
  | false => simp [twtSkip, hex]
  | true =>
    obtain ⟨e, he, hof⟩ := h.holds_of_exist hex
    have hsta := phlSta_of_isOf hof
    simp [twtSkip, hex, he.state, he.role, he.negoType, hsta]

lemma twtSkip_of_type_ne (h : TwtSlot wrole i c) (ht : type ≠ .indivTwt) :
    twtSkip wrole phlSta false type id c = true := by
  rcases h with ⟨hfree, -⟩ | ⟨e, he⟩
  · simp [twtSkip, hfree]
  · simp [twtSkip, he.negoType, Ne.symm ht]

omit [DecidableEq ρ] in
lemma twtDeleteSta_singleton (h : e.isOf phlSta id = true) :
    twtDeleteSta phlSta id [e] = (some 0, []) := by
  simp [twtDeleteSta, twtDeleteLoop, h]

end Slot

structure ScanDone (io : TwtIo) (phlSta : ι) (id : UInt8) (is : List ℕ) (x x' : TwtScan ι ρ) :
    Prop where
  sup : x'.info.sup = x.info.sup
  init : x'.info.init = x.info.init
  ring : ∀ j, x'.info.ring j =
    if j ∈ is ∧ x.info.hits phlSta id j = true ∧ io.delMacid j = true then
      (x.info.ring j).setQueue []
    else x.info.ring j
  error : x'.deleteError = true ↔
    x.deleteError = true ∨ ∃ i ∈ is, x.info.hits phlSta id i = true ∧ io.delMacid i = false
  bitmap : ∀ j < 8, x'.bitmap.getLsbD j = true ↔
    x.bitmap.getLsbD j = true ∨ j ∈ is ∧ x.info.hits phlSta id j = true ∧ io.delMacid j = true

variable {io : TwtIo}

section Scan

variable {is : List ℕ} {x₁ x' : TwtScan ι ρ}

lemma ScanDone.none (h : ∀ i ∈ is, x.info.hits phlSta id i = false) :
    ScanDone io phlSta id is x x := by
  have hno : ∀ j ∈ is, ¬ x.info.hits phlSta id j = true := fun j hj => Bool.eq_false_iff.1 (h j hj)
  refine ⟨rfl, rfl, fun j => ?_, ?_, fun j _ => ?_⟩
  · rw [if_neg fun hc => hno j hc.1 hc.2.1]
  · exact (or_iff_left fun ⟨j, hj, hhit, _⟩ => hno j hj hhit).symm
  · exact (or_iff_left fun ⟨hj, hhit, _⟩ => hno j hj hhit).symm

lemma ScanDone.cons (hi : i ∉ is) (h₁ : ScanDone io phlSta id [i] x x₁)
    (h : ScanDone io phlSta id is x₁ x') : ScanDone io phlSta id (i :: is) x x' := by
  have hne : ∀ j ∈ is, j ≠ i := fun j hj => ne_of_mem_of_not_mem hj hi
  have hsame : ∀ j, j ≠ i → x₁.info.ring j = x.info.ring j := by
    intro j hj
    rw [h₁.ring j, if_neg fun hc => hj (mem_singleton.1 hc.1)]
  have hhits : ∀ j ∈ is, x₁.info.hits phlSta id j = x.info.hits phlSta id j := by
    intro j hj
    rw [hits, hits, hsame j (hne j hj)]
  refine ⟨h.sup.trans h₁.sup, h.init.trans h₁.init, fun j => ?_, ?_, fun j hj8 => ?_⟩
  · rw [h.ring j]
    by_cases hj : j ∈ is
    · rw [hhits j hj, hsame j (hne j hj)]
      simp [hj]
    · rw [if_neg fun hc => hj hc.1, h₁.ring j]
      simp [hj]
  · rw [h.error, h₁.error, or_assoc]
    refine or_congr_right ?_
    simp [or_and_right, exists_or]
    refine or_congr_right (exists_congr fun j => and_congr_right fun hj => ?_)
    rw [hhits j hj]
  · rw [h.bitmap j hj8, h₁.bitmap j hj8, or_assoc]
    refine or_congr_right ?_
    simp [or_and_right]
    refine or_congr_right (and_congr_right fun hj => ?_)
    rw [hhits j hj]

lemma ScanDone.refused (hhit : x.info.hits phlSta id i = true) (hdel : io.delMacid i = false) :
    ScanDone io phlSta id [i] x { x with deleteError := true } := by
  have hno : ∀ j ∈ [i], ¬ io.delMacid j = true := fun j hj => by
    rw [mem_singleton.1 hj]
    exact Bool.eq_false_iff.1 hdel
  refine ⟨rfl, rfl, fun j => ?_, iff_of_true rfl (.inr ⟨i, by simp, hhit, hdel⟩), fun j _ => ?_⟩
  · rw [if_neg fun hc => hno j hc.1 hc.2.2]
  · exact (or_iff_left fun ⟨hj, _, hdel'⟩ => hno j hj hdel').symm

lemma ScanDone.deleted (htwtId : (x.info.ring i).twtId = i)
    (hhit : x.info.hits phlSta id i = true) (hdel : io.delMacid i = true) :
    ScanDone io phlSta id [i] x ⟨x.info.setConfig i ((x.info.ring i).setQueue []), x.deleteError,
        x.bitmap ||| BitVec.twoPow 8 (x.info.ring i).twtId⟩ := by
  refine ⟨rfl, rfl, fun j => ?_, ?_, fun j hj8 => ?_⟩
  · by_cases hj : j = i
    · subst hj
      rw [if_pos ⟨mem_singleton_self j, hhit, hdel⟩]
      exact Function.update_self ..
    · rw [if_neg fun hc => hj (mem_singleton.1 hc.1)]
      exact Function.update_of_ne hj ..
  · simp [hdel]
  · simp only [htwtId, BitVec.getLsbD_or, Bool.or_eq_true, BitVec.getLsbD_twoPow, mem_singleton,
      Bool.and_eq_true, decide_eq_true_eq]
    refine or_congr_right ⟨?_, ?_⟩
    · rintro ⟨hi8, rfl⟩
      exact ⟨rfl, hhit, hdel⟩
    · rintro ⟨rfl, -⟩
      exact ⟨hj8, rfl⟩

variable [DecidableEq ρ]

lemma twtDeleteScan_done : ∀ (is : List ℕ) (x : TwtScan ι ρ), is.Nodup →
    (∀ i ∈ is, TwtSlot wrole i (x.info.ring i)) →
    (id ≠ deleteAll → ∀ i ∈ is, ∀ j ∈ is, x.info.hits phlSta id i = true →
      x.info.hits phlSta id j = true → i = j) →
    ScanDone io phlSta id is x (twtDeleteScan io wrole phlSta false .indivTwt id is x)
  | [], x, _, _, _ => .none fun _ hi => nomatch hi
  | i :: is, x, hnd, hslot, hone => by
    obtain ⟨hi, hnd⟩ := nodup_cons.1 hnd
    have hslot' : ∀ j ∈ is, TwtSlot wrole j (x.info.ring j) := fun j hj =>
      hslot j (mem_cons_of_mem i hj)
    have hone' : id ≠ deleteAll → ∀ j ∈ is, ∀ k ∈ is, x.info.hits phlSta id j = true →
        x.info.hits phlSta id k = true → j = k := fun hid j hj k hk =>
      hone hid j (mem_cons_of_mem i hj) k (mem_cons_of_mem i hk)
    simp only [twtDeleteScan, twtSkip_eq (hslot i mem_cons_self)]
    cases hhit : twtStaExist phlSta id (x.info.ring i).twtStaQueue with
    | false =>
      refine ScanDone.cons hi (.none fun j hj => ?_) (twtDeleteScan_done is x hnd hslot' hone')
      rwa [mem_singleton.1 hj]
    | true =>
      by_cases hdel : io.delMacid i = true
      · obtain ⟨e, he, hof⟩ := (hslot i mem_cons_self).holds_of_exist hhit
        have hother : ∀ j ∈ is, (x.info.setConfig i ((x.info.ring i).setQueue [])).ring j =
            x.info.ring j := fun j hj =>
          Function.update_of_ne (ne_of_mem_of_not_mem hj hi) ..
        rw [if_pos hdel, he.queue, twtDeleteSta_singleton hof]
        refine ScanDone.cons hi (.deleted he.twtId hhit hdel) ?_
        by_cases hid : id = deleteAll
        · simp [hid]
          rw [← hid]
          refine twtDeleteScan_done is _ hnd (fun j hj => ?_) (fun hne => absurd hid hne)
          rw [hother j hj]
          exact hslot' j hj
        · simp [hid]
          refine .none fun j hj => ?_
          rw [hits, hother j hj]
          by_contra hno
          exact ne_of_mem_of_not_mem hj hi (hone hid j (mem_cons_of_mem i hj) i
            mem_cons_self (Bool.not_eq_false _ ▸ hno) hhit)
      · rw [if_neg hdel]
        exact ScanDone.cons hi (.refused hhit (Bool.eq_false_iff.2 hdel))
          (twtDeleteScan_done is _ hnd hslot' hone')

end Scan

section Calls

lemma TwtStaInfo.eq_of_isOf (hid : id ≠ deleteAll) (h : e.isOf phlSta id = true) :
    e = ⟨phlSta, id⟩ := by
  simp [isOf] at h
  cases e
  simp_all

lemma TwtStaInfo.isOf_self (phlSta : ι) (id : UInt8) :
    (⟨phlSta, id⟩ : TwtStaInfo ι).isOf phlSta id = true := by
  simp [isOf]

lemma TwtInv.hits_unique (h : TwtInv wrole s) (hid : id ≠ deleteAll) {j : ℕ}
    (hi : i < maxNumHwTwtConfig) (hj : j < maxNumHwTwtConfig)
    (hhi : s.hits phlSta id i = true) (hhj : s.hits phlSta id j = true) : i = j := by
  obtain ⟨e, he, hof⟩ := (h.slot i hi).holds_of_exist hhi
  obtain ⟨e', he', hof'⟩ := (h.slot j hj).holds_of_exist hhj
  obtain rfl := eq_of_isOf hid hof
  obtain rfl := eq_of_isOf hid hof'
  exact h.unique i hi j hj _ he.queue he'.queue

lemma ScanDone.freeEmpty (hon : (s.sup && s.init) = true)
    (h : ScanDone io phlSta id (range maxNumHwTwtConfig) ⟨s, false, 0⟩ x)
    (hi : i < maxNumHwTwtConfig) :
    (twtFreeEmpty io x.bitmap x.info).2.ring i = s.ring i ∨
      (((twtFreeEmpty io x.bitmap x.info).2.ring i).state = .free ∧
        ((twtFreeEmpty io x.bitmap x.info).2.ring i).twtStaQueue = []) := by
  have hi8 : i < 8 := lt_trans hi (by decide)
  have hon' : (x.info.sup && x.info.init) = true := by rw [h.sup, h.init, hon]
  have hbit := h.bitmap i hi8
  rw [twtFreeEmpty, twtFree_fold io x.bitmap (range 8) (.success, x.info) hon' i]
  by_cases hgone : s.hits phlSta id i = true ∧ io.delMacid i = true
  · have hring : x.info.ring i = (s.ring i).setQueue [] := by
      rw [h.ring i, if_pos ⟨mem_range.2 hi, hgone⟩]
    rw [hring]
    split_ifs with hc
    · exact .inr ⟨rfl, rfl⟩
    have hset : x.bitmap.getLsbD i = true := hbit.2 (.inr ⟨mem_range.2 hi, hgone⟩)
    have hfree : (s.ring i).state = .free := by
      by_contra hne
      exact hc ⟨mem_range.2 hi8, hset, hi, hne⟩
    exact .inr ⟨hfree, rfl⟩
  · have hring : x.info.ring i = s.ring i := by rw [h.ring i, if_neg fun hc => hgone hc.2]
    have hclear : ¬ x.bitmap.getLsbD i = true := fun hset =>
      (hbit.1 hset).elim (fun h0 => by simp at h0) fun hc => hgone hc.2
    rw [if_neg fun hc => hclear hc.2.1, hring]
    exact .inl rfl

lemma ScanDone.single {is : List ℕ} (h : ScanDone io phlSta id is ⟨s, false, 0⟩ x)
    (hi : i ∈ is) (hhit : s.hits phlSta id i = true) (hdel : io.delMacid i = true)
    (honly : ∀ j ∈ is, s.hits phlSta id j = true → j = i) :
    x.deleteError = false ∧ (∀ j < 8, x.bitmap.getLsbD j = true ↔ j = i) ∧
      x.info.ring i = (s.ring i).setQueue [] ∧ ∀ j, j ≠ i → x.info.ring j = s.ring j := by
  refine ⟨Bool.eq_false_iff.2 fun hx => ?_, fun j hj => ?_, ?_, fun j hj => ?_⟩
  · obtain ⟨j, hj, hhj, hdelj⟩ := (h.error.1 hx).resolve_left Bool.false_ne_true
    rw [honly j hj hhj, hdel] at hdelj
    cases hdelj
  · rw [h.bitmap j hj]
    refine ⟨fun hc => ?_, fun hji => .inr ?_⟩
    · obtain ⟨hmem, hhj, -⟩ := hc.resolve_left (by simp)
      exact honly j hmem hhj
    · rw [hji]
      exact ⟨hi, hhit, hdel⟩
  · exact (h.ring i).trans (if_pos ⟨hi, hhit, hdel⟩)
  · exact (h.ring j).trans (if_neg fun hc => hj (honly j hc.1 hc.2.1))

lemma TwtInv.agreed_of_hits (h : TwtInv wrole s) (hi : i < maxNumHwTwtConfig)
    (hhit : s.hits phlSta id i = true) : ∃ e, s.agreed i = some e ∧ e.phlSta = phlSta := by
  obtain ⟨e, he, hof⟩ := (h.slot i hi).holds_of_exist hhit
  refine ⟨e, ?_, phlSta_of_isOf hof⟩
  rw [agreed, he.queue]
  rfl

/-- A scan that has met an error has removed nothing, by the condition on teardowns. -/
lemma TwtInv.not_gone (h : TwtInv wrole s) {j : ℕ}
    (hok : id ≠ deleteAll ∨ s.DelUniform phlSta io) (hi : i < maxNumHwTwtConfig)
    (hhit : s.hits phlSta id i = true) (hdel : io.delMacid i = false)
    (hj : j < maxNumHwTwtConfig) :
    ¬ (s.hits phlSta id j = true ∧ io.delMacid j = true) := by
  rintro ⟨hhit', hdel'⟩
  rcases hok with hid | ⟨b, hall⟩
  · rw [h.hits_unique hid hj hi hhit' hhit, hdel] at hdel'
    cases hdel'
  · obtain ⟨e, he, hsta⟩ := h.agreed_of_hits hi hhit
    obtain ⟨e', he', hsta'⟩ := h.agreed_of_hits hj hhit'
    rw [hall j e' he' hsta', ← hall i e he hsta, hdel] at hdel'
    cases hdel'

lemma rtwPhlTwtAddStaInfo_cases (io : TwtIo) (hon : (s.sup && s.init) = true)
    (hi : i < maxNumHwTwtConfig) (hc : s.ring i = c) (hstate : c.state ≠ .free)
    (hq : c.twtStaQueue = []) (phlSta : ι) (id : UInt8) :
    rtwPhlTwtAddStaInfo io phlSta i id s = (.success, s.setConfig i (c.setQueue [⟨phlSta, id⟩])) ∨
      rtwPhlTwtAddStaInfo io phlSta i id s = (.failure, s) := by
  have hget : twtGetConfigById s i = some c := by
    rw [twtGetConfigById, if_neg (not_le.2 hi), hc, if_neg hstate]
  have hself : c.setQueue [] = s.ring i := by
    rw [hc, ← hq]
    rfl
  simp only [rtwPhlTwtAddStaInfo, if_pos hon, hget, hq, nil_append]
  split_ifs
  · exact .inl rfl
  · refine .inr ?_
    rw [twtDeleteSta_singleton (isOf_self phlSta id), hself]
    simp [setConfig]
  · exact .inr rfl

lemma TwtDropped.add {s₁ : TwtInfo ι ρ} (h : TwtDropped wrole ⟨phlSta, id⟩ s s₁) (io : TwtIo)
    (hi : i < maxNumHwTwtConfig) (hc : TwtHolds wrole i (c.setQueue [⟨phlSta, id⟩]) ⟨phlSta, id⟩)
    (hq : c.twtStaQueue = []) :
    (∃ s', rtwPhlTwtAddStaInfo io phlSta i id (s₁.setConfig i c) = (.success, s') ∧
      TwtInv wrole s') ∨
    ∃ s', rtwPhlTwtAddStaInfo io phlSta i id (s₁.setConfig i c) = (.failure, s') ∧
      TwtInv wrole (rtwPhlTwtFreeTwtConfig io.disableNew i s').2 ∧
      ∀ j < maxNumHwTwtConfig,
        ((rtwPhlTwtFreeTwtConfig io.disableNew i s').2.ring j).state ≠ .free →
        (s.ring j).state ≠ .free := by
  have hself : (s₁.setConfig i c).ring i = c := Function.update_self ..
  have hstate : c.state ≠ .free := hc.state
  have hon : ((s₁.setConfig i c).sup && (s₁.setConfig i c).init) = true := h.on
  rcases rtwPhlTwtAddStaInfo_cases io hon hi hself hstate hq phlSta id with hadd | hadd
  · refine .inl ⟨_, hadd, ?_⟩
    have hset : (s₁.setConfig i c).setConfig i (c.setQueue [⟨phlSta, id⟩]) =
        s₁.setConfig i (c.setQueue [⟨phlSta, id⟩]) := by simp [setConfig]
    rw [hset]
    exact h.inv.fill hc h.gone
  · refine .inr ⟨_, hadd, ?_⟩
    have hfree := rtwPhlTwtFreeTwtConfig_ring hon io.disableNew i
    refine (h.inv.free_one (i := i) ?_ fun j hj => ?_).imp_right
      fun hused j hj hne => h.used j hj (hused j hne)
    · rw [hfree i, hself, if_pos ⟨rfl, hi, hstate⟩]
      exact ⟨rfl, rfl⟩
    · rw [hfree j, if_neg fun hc => hj hc.1]
      exact Function.update_of_ne hj ..

variable [DecidableEq ρ]

lemma TwtInv.scan (h : TwtInv wrole s) (io : TwtIo) (phlSta : ι) (id : UInt8) :
    ScanDone io phlSta id (range maxNumHwTwtConfig) ⟨s, false, 0⟩
      (twtDeleteScan io wrole phlSta false .indivTwt id (range maxNumHwTwtConfig)
        ⟨s, false, 0⟩) := by
  refine twtDeleteScan_done _ _ nodup_range (fun i hi => ?_) (fun hid i hi j hj hhi hhj => ?_)
  · exact h.slot i (mem_range.1 hi)
  · exact h.hits_unique hid (mem_range.1 hi) (mem_range.1 hj) hhi hhj

lemma TwtInv.scan_of_type_ne (h : TwtInv wrole s) (ht : type ≠ .indivTwt) :
    ∀ is : List ℕ, (∀ i ∈ is, i < maxNumHwTwtConfig) →
      twtDeleteScan io wrole phlSta false type id is ⟨s, false, 0⟩ = ⟨s, false, 0⟩
  | [], _ => rfl
  | i :: is, hlt => by
    have hskip : twtSkip wrole phlSta false type id (s.ring i) = true :=
      twtSkip_of_type_ne (h.slot i (hlt i mem_cons_self)) ht
    simp [twtDeleteScan, hskip]
    exact h.scan_of_type_ne ht is fun j hj => hlt j (mem_cons_of_mem i hj)

section

variable (h : TwtInv wrole s)
include h

lemma twtDeleteStaInfo_of_ne {negoType : NegoType} (hne : negoType ≠ .indivTwt) :
    twtDeleteStaInfo io wrole phlSta false negoType id s = (.success, 0, s) := by
  have htype : (if negoType = .manageBcastTwt then .bcastTwt else negoType) ≠
      NegoType.indivTwt := by
    split_ifs
    · exact NegoType.noConfusion
    · exact hne
  simp only [twtDeleteStaInfo]
  rw [h.scan_of_type_ne htype _ fun i hi => mem_range.1 hi]
  rfl

lemma TwtInv.deleteStaInfo (hon : (s.sup && s.init) = true)
    (hok : id ≠ deleteAll ∨ s.DelUniform phlSta io) :
    TwtInv wrole (match twtDeleteStaInfo io wrole phlSta false .indivTwt id s with
      | (.success, bitmap, s) => if bitmap = 0 then (PhlStatus.success, s)
        else twtFreeEmpty io bitmap s
      | (sts, _, s) => (sts, s)).2 := by
  have hscan := h.scan io phlSta id
  simp [twtDeleteStaInfo, reduceCtorEq]
  generalize twtDeleteScan io wrole phlSta false .indivTwt id (range maxNumHwTwtConfig)
    ⟨s, false, 0⟩ = x at hscan ⊢
  cases hx : x.deleteError with
  | true =>
    obtain ⟨i, hi, hhit, hdel⟩ := (hscan.error.1 hx).resolve_left Bool.false_ne_true
    refine h.of_freed fun j hj => .inl ?_
    have hno := h.not_gone hok (mem_range.1 hi) hhit hdel hj
    exact (hscan.ring j).trans (if_neg fun hc => hno hc.2)
  | false =>
    simp
    split_ifs with hzero
    · refine h.of_freed fun j hj => .inl ((hscan.ring j).trans (if_neg fun hc => ?_))
      have hset := (hscan.bitmap j (lt_trans hj (by decide))).2 (.inr hc)
      rw [hzero] at hset
      simp at hset
    · exact h.of_freed fun j hj => hscan.freeEmpty hon hj

lemma TwtInv.teardown (flow : TwtFlowField) (io : TwtIo) (phlSta : ι)
    (hok : flow.teardownAll = false ∧ flow.id ≠ deleteAll ∨ s.DelUniform phlSta io) :
    TwtInv wrole (rtwPhlTwtTeardownForStaMode io wrole phlSta flow s).2 := by
  unfold rtwPhlTwtTeardownForStaMode
  split_ifs with hon
  · rw [rtwPhlTwtTeardownSta, if_pos hon]
    cases hneg : flow.negoType with
    | indivTwt =>
      refine h.deleteStaInfo hon (hok.imp_left fun ⟨hall, hid⟩ => ?_)
      rwa [hall]
    | bcastTwt => exact h
    | wakeTbttInr | manageBcastTwt =>
      rwa [twtDeleteStaInfo_of_ne h NegoType.noConfusion]
  · exact h

lemma TwtInv.flowIdExist_iff : twtFlowIdExist wrole phlSta id s = true ↔
      ∃ i < maxNumHwTwtConfig, (s.ring i).twtStaQueue = [⟨phlSta, id⟩] := by
  simp [twtFlowIdExist]
  refine exists_congr fun i => and_congr_right fun hi => ?_
  rcases h.slot i hi with ⟨hfree, hq⟩ | ⟨e, he⟩
  · simp [hfree, hq]
  rw [he.queue]
  obtain ⟨sta, flow⟩ := e
  by_cases hsta : phlSta = sta
  · subst hsta
    simp [he.state, he.role, he.negoType, twtGetStaInfo]
  · simp [he.state, he.negoType, twtGetStaInfo, hsta, Ne.symm hsta]

end

lemma lowestBit_eq {bitmap : BitVec 8} {i : ℕ} (hi : i < 8)
    (hbit : ∀ j < 8, bitmap.getLsbD j = true ↔ j = i) : lowestBit bitmap = i := by
  unfold lowestBit
  rcases hfind : (range 8).find? bitmap.getLsbD with _ | j
  · exact absurd ((hbit i hi).2 rfl) (find?_eq_none.1 hfind i (mem_range.2 hi))
  · have hj : j < 8 := mem_range.1 (mem_of_find?_eq_some hfind)
    exact (hbit j hj).1 (find?_some hfind)

lemma TwtInv.dropOld (h : TwtInv wrole s) (hon : (s.sup && s.init) = true)
    (hid : id ≠ deleteAll) (hdel : ∀ i, s.agreed i = some ⟨phlSta, id⟩ → io.delMacid i = true) :
    TwtDropped wrole ⟨phlSta, id⟩ s (twtDropOld io wrole phlSta ⟨.indivTwt, id⟩ s) := by
  unfold twtDropOld
  split_ifs with hex
  · obtain ⟨i, hi, hq⟩ := h.flowIdExist_iff.1 hex
    have hi8 : i < 8 := lt_trans hi (by decide)
    have hhit : s.hits phlSta id i = true := by
      rw [hits, hq]
      simp [twtStaExist, isOf_self]
    have hdeli : io.delMacid i = true := hdel i (by rw [agreed, hq]; rfl)
    have honly : ∀ j ∈ range maxNumHwTwtConfig, s.hits phlSta id j = true → j = i :=
      fun j hj hhj => h.hits_unique hid (mem_range.1 hj) hi hhj hhit
    have hscan := h.scan io phlSta id
    simp only [twtDeleteStaInfo, reduceCtorEq, if_false, Bool.false_eq_true]
    generalize twtDeleteScan io wrole phlSta false .indivTwt id (range maxNumHwTwtConfig)
      ⟨s, false, 0⟩ = x at hscan ⊢
    obtain ⟨herr, hbit, hself, hother⟩ := hscan.single (mem_range.2 hi) hhit hdeli honly
    have hne : x.bitmap ≠ 0 := fun hzero => by
      have := (hbit i hi8).2 rfl
      rw [hzero] at this
      simp at this
    have hon' : (x.info.sup && x.info.init) = true := by rw [hscan.sup, hscan.init, hon]
    have hstate : (x.info.ring i).state ≠ .free := by
      obtain ⟨e, he, -⟩ := (h.slot i hi).holds_of_exist hhit
      rw [hself]
      exact he.state
    rw [if_pos ⟨by rw [herr]; rfl, hne⟩, lowestBit_eq hi8 hbit]
    have hfree := rtwPhlTwtFreeTwtConfig_ring hon' (io.disable i) i
    refine h.dropped hi hq ((rtwPhlTwtFreeTwtConfig_on ..).trans hon') ?_ fun j hj => ?_
    · rw [hfree i, if_pos ⟨rfl, hi, hstate⟩]
      exact ⟨rfl, rfl⟩
    · rw [hfree j, if_neg fun hc => hj hc.1, hother j hj]
  · exact ⟨h, hon, fun i hi hq => hex (h.flowIdExist_iff.2 ⟨i, hi, hq⟩), fun _ _ hne => hne⟩

lemma TwtInv.accept (h : TwtInv wrole s) (setup : TwtSetupInfo) (henable : io.enable = true)
    (hid : setup.twtFlowId ≠ deleteAll)
    (hdel : ∀ i, s.agreed i = some ⟨phlSta, setup.twtFlowId⟩ → io.delMacid i = true) :
    TwtInv wrole (rtwPhlTwtAcceptForStaMode io wrole phlSta setup s).2.2 ∧
      ((rtwPhlTwtAcceptForStaMode io wrole phlSta setup s).1 ≠ .success → ∀ i < maxNumHwTwtConfig,
          ((rtwPhlTwtAcceptForStaMode io wrole phlSta setup s).2.2.ring i).state ≠ .free →
          (s.ring i).state ≠ .free) := by
  obtain ⟨negoType, id⟩ := setup
  unfold rtwPhlTwtAcceptForStaMode
  by_cases hon : (s.sup && s.init) = true
  · rw [if_pos hon]
    by_cases hneg : negoType = .indivTwt
    · subst hneg
      have hdrop := h.dropOld hon hid hdel
      simp only [twtAcceptIndivBySta, henable]
      generalize twtDropOld io wrole phlSta ⟨.indivTwt, id⟩ s = s₁ at hdrop
      rcases hdrop.inv.alloc hdrop.on (wrole phlSta) with hres | ⟨i, hi, hfree, hres⟩
      · rw [hres]
        exact ⟨hdrop.inv, fun _ => hdrop.used⟩
      rw [hres]
      have hc : TwtHolds wrole i
          (TwtConfig.setQueue ⟨.enable, some (wrole phlSta), .indivTwt, i, []⟩ [⟨phlSta, id⟩])
          ⟨phlSta, id⟩ := ⟨TwtConfigState.noConfusion, rfl, rfl, rfl, rfl⟩
      rcases hdrop.add io hi hc rfl with ⟨s', hadd, hinv⟩ | ⟨s', hadd, hinv, hused⟩
      · simp only [hadd]
        exact ⟨hinv, fun hne => absurd rfl hne⟩
      · simp only [hadd]
        exact ⟨hinv, fun _ => hused⟩
    · rw [if_neg hneg]
      exact ⟨h, fun _ _ _ hne => hne⟩
  · rw [if_neg hon]
    exact ⟨h, fun _ _ _ hne => hne⟩

end Calls

section Run

variable [DecidableEq ρ]

/-- An agreement is listed in one config at most, and a config that is not free lists one. -/
structure TwtSound (s : TwtInfo ι ρ) : Prop where
  unique : ∀ i < maxNumHwTwtConfig, ∀ j < maxNumHwTwtConfig, (s.ring i).state ≠ .free →
    (s.ring j).state ≠ .free → ∀ e, e ∈ (s.ring i).twtStaQueue → e ∈ (s.ring j).twtStaQueue → i = j
  used : ∀ i < maxNumHwTwtConfig, (s.ring i).state ≠ .free → (s.ring i).twtStaQueue ≠ []

def TwtInfo.nonFree (s : TwtInfo ι ρ) : ℕ :=
  (range maxNumHwTwtConfig).countP fun i => decide ((s.ring i).state ≠ .free)

/-- The hardware enables the config of an accept and removes the older agreement with that flow, and
does not remove some agreements and refuse others where all are torn down. -/
def TwtStepOK (s : TwtInfo ι ρ) : TwtCall ι → Prop
  | .accept phlSta setup io => io.enable = true ∧ setup.twtFlowId ≠ deleteAll ∧
      ∀ i, s.agreed i = some ⟨phlSta, setup.twtFlowId⟩ → io.delMacid i = true
  | .teardown phlSta flow io =>
    flow.teardownAll = false ∧ flow.id ≠ deleteAll ∨ s.DelUniform phlSta io

omit [DecidableEq ι] [DecidableEq ρ] in
lemma TwtInv.sound (h : TwtInv wrole s) : TwtSound s := by
  have hholds : ∀ i < maxNumHwTwtConfig, (s.ring i).state ≠ .free →
      ∃ e, (s.ring i).twtStaQueue = [e] := by
    intro i hi hne
    rcases h.slot i hi with ⟨hfree, -⟩ | ⟨e, he⟩
    · exact absurd hfree hne
    · exact ⟨e, he.queue⟩
  refine ⟨fun i hi j hj hnei hnej e hei hej => ?_, fun i hi hne hnil => ?_⟩
  · obtain ⟨ei, hqi⟩ := hholds i hi hnei
    obtain ⟨ej, hqj⟩ := hholds j hj hnej
    rw [hqi, mem_singleton] at hei
    rw [hqj, mem_singleton] at hej
    rw [← hei] at hqi
    rw [← hej] at hqj
    exact h.unique i hi j hj e hqi hqj
  · obtain ⟨e, hq⟩ := hholds i hi hne
    rw [hq] at hnil
    cases hnil

lemma TwtInv.step (h : TwtInv wrole s) :
    ∀ e : TwtCall ι, TwtStepOK s e → TwtInv wrole (twtStep wrole s e)
  | .accept _ setup _, ⟨henable, hid, hdel⟩ => (h.accept setup henable hid hdel).1
  | .teardown phlSta flow io, hok => h.teardown flow io phlSta hok

lemma TwtInv.run (wrole : ι → ρ) (sup init : Bool) (es : List (TwtCall ι))
    (hok : RunOK (twtStep wrole) TwtStepOK (phlTwtInit sup init) es) :
    TwtInv wrole (run (twtStep wrole) (phlTwtInit sup init) es) := by
  refine run_inv (twtStep wrole) TwtStepOK (fun s e h hs => h.step e hs) es _ ?_ hok
  exact ⟨fun i _ => .inl ⟨rfl, rfl⟩, fun i _ j _ e hq => nomatch hq⟩

theorem twt_run_sound (wrole : ι → ρ) (sup init : Bool) (es : List (TwtCall ι))
    (hok : RunOK (twtStep wrole) TwtStepOK (phlTwtInit sup init) es) :
    (∀ es', es' <+: es → TwtSound (run (twtStep wrole) (phlTwtInit sup init) es')) ∧
      ∀ es' phlSta setup io, es' ++ [.accept phlSta setup io] <+: es →
        (twtCall wrole (run (twtStep wrole) (phlTwtInit sup init) es')
          (.accept phlSta setup io)).1 ≠ .success →
        (run (twtStep wrole) (phlTwtInit sup init) (es' ++ [.accept phlSta setup io])).nonFree ≤
          (run (twtStep wrole) (phlTwtInit sup init) es').nonFree := by
  refine ⟨fun es' hp => (TwtInv.run wrole sup init es' (hok.of_prefix hp)).sound, ?_⟩
  intro es' phlSta setup io hp hfail
  have hok' := hok.of_prefix hp
  have hinv := TwtInv.run wrole sup init es' (hok'.of_prefix (prefix_append es' _))
  obtain ⟨henable, hid, hdel⟩ := hok'.last
  rw [run_append_singleton]
  refine countP_mono_left fun i hi hne => ?_
  have hused := (hinv.accept setup henable hid hdel).2 hfail i (mem_range.1 hi)
  exact decide_eq_true (hused (of_decide_eq_true hne))

def sampleTwtIo : TwtIo := ⟨fun _ => true, fun _ => true, true, true, true, true⟩

def acceptFlow (id : UInt8) (io : TwtIo) : TwtCall ℕ := .accept 1 ⟨.indivTwt, id⟩ io

def teardownFlows (io : TwtIo) : TwtCall ℕ := .teardown 1 ⟨.indivTwt, true, 0⟩ io

def sampleTwtRun (es : List (TwtCall ℕ)) : TwtInfo ℕ ℕ :=
  run (twtStep fun _ => 0) (phlTwtInit true true) es

/-- A flow is agreed upon twice, and then another, for whose entry there is no memory. -/
theorem twt_run_sound_sample :
    let two := [acceptFlow 0 sampleTwtIo, acceptFlow 0 sampleTwtIo]
    let three := two ++ [acceptFlow 1 { sampleTwtIo with memAlloc := false }]
    TwtSound (sampleTwtRun three) ∧ (sampleTwtRun three).nonFree ≤ (sampleTwtRun two).nonFree := by
  intro two three
  have hsound := twt_run_sound (fun _ : ℕ => 0) true true three
    ⟨⟨rfl, by decide, fun _ _ => rfl⟩, ⟨rfl, by decide, fun _ _ => rfl⟩,
      ⟨rfl, by decide, fun _ _ => rfl⟩, trivial⟩
  refine ⟨hsound.1 _ (prefix_refl _), ?_⟩
  exact hsound.2 two 1 ⟨.indivTwt, 1⟩ { sampleTwtIo with memAlloc := false } (prefix_refl _)
    (by decide)

def sampleTwice : TwtInfo ℕ ℕ :=
  sampleTwtRun [acceptFlow 0 sampleTwtIo,
    acceptFlow 0 { sampleTwtIo with delMacid := fun _ => false }]

def sampleNotEnabled : TwtInfo ℕ ℕ :=
  sampleTwtRun [acceptFlow 0 { sampleTwtIo with enable := false }]

def sampleHalf : TwtInfo ℕ ℕ :=
  sampleTwtRun [acceptFlow 0 sampleTwtIo, acceptFlow 1 sampleTwtIo,
    teardownFlows { sampleTwtIo with delMacid := fun i => i == 0 }]

def sampleAllFlows : TwtInfo ℕ ℕ :=
  sampleTwtRun [acceptFlow 1 sampleTwtIo, acceptFlow deleteAll sampleTwtIo,
    acceptFlow deleteAll sampleTwtIo]

/-- A flow is listed twice; a failed accept has taken a config; and so it is with a teardown that
failed half-way, and with one of two emptied at once. -/
theorem twt_run_sound_fails : ¬ TwtSound sampleTwice ∧
      (¬ TwtSound sampleNotEnabled ∧ sampleNotEnabled.nonFree = 1) ∧
      ¬ TwtSound sampleHalf ∧ ¬ TwtSound sampleAllFlows := by
  refine ⟨fun h => ?_, ⟨fun h => ?_, by decide⟩, fun h => ?_, fun h => ?_⟩
  · have hmem : ∀ i < 2, ⟨1, 0⟩ ∈ (sampleTwice.ring i).twtStaQueue := by decide
    exact absurd (h.unique 0 (by decide) 1 (by decide) (by decide) (by decide) ⟨1, 0⟩
      (hmem 0 (by decide)) (hmem 1 (by decide))) (by decide)
  · exact h.used 0 (by decide) (by decide) (by decide)
  · exact h.used 0 (by decide) (by decide) (by decide)
  · exact h.used 1 (by decide) (by decide) (by decide)

end Run

def TwtWakeInfo.period (w : TwtWakeInfo) : ℕ := w.twtWakeIntMantissa.toNat * 2 ^ w.twtWakeIntExp.val

/-- The next period begins at most what 32 bits keep of the interval after `t`, and this divides
its distance from the start of the agreement, which wraps before the start. -/
def TwtWakeInfo.Met (w : TwtWakeInfo) (t : ℕ) : Prop :=
  ∃ e, 0 < e ∧ e ≤ w.period % 2 ^ 32 ∧ t + e ≡ w.targetWakeTime.toNat [MOD w.period] ∧
    ((w.period % 2 ^ 32 : ℕ) : ℤ) ∣
      (t + e : ℕ) - w.targetWakeTime.toNat + if t < w.targetWakeTime.toNat then 2 ^ 64 else 0

/-- An interval that 32 bits can hold is kept, and only the wrap is left. -/
lemma TwtWakeInfo.met_iff_of_lt {w : TwtWakeInfo} {t : ℕ} (hpos : 0 < w.period)
    (hlt : w.period < 2 ^ 32) : w.Met t ↔ w.targetWakeTime.toNat ≤ t ∨ w.period ∣ 2 ^ 64 := by
  simp only [Met, mod_eq_of_lt hlt]
  generalize w.period = m, w.targetWakeTime.toNat = ref at *
  have hcong (e : ℕ) : t + e ≡ ref [MOD m] ↔ (m : ℤ) ∣ (t + e : ℕ) - ref :=
    ⟨fun h => modEq_iff_dvd.1 h.symm, fun h => (modEq_iff_dvd.2 h).symm⟩
  simp only [hcong]
  obtain ⟨e, he, hem, hdvd⟩ : ∃ e, 0 < e ∧ e ≤ m ∧ (m : ℤ) ∣ (t + e : ℕ) - ref := by
    have hmod := Int.emod_add_mul_ediv (t - ref : ℤ) m
    have hlt := Int.emod_lt_of_pos (t - ref : ℤ) (by omega : 0 < (m : ℤ))
    have hnn := Int.emod_nonneg (t - ref : ℤ) (by omega : (m : ℤ) ≠ 0)
    refine ⟨m - ((t - ref : ℤ) % m).toNat, by omega, by omega, (t - ref : ℤ) / m + 1, ?_⟩
    rw [Int.mul_add]
    omega
  split_ifs with hbefore
  · have hpow : (m : ℤ) ∣ 2 ^ 64 ↔ m ∣ 2 ^ 64 := by exact_mod_cast Int.natCast_dvd_natCast
    rw [or_iff_right (not_le.2 hbefore), ← hpow]
    exact ⟨fun ⟨e', _, _, hmod, hd⟩ => (Int.dvd_add_right hmod).1 hd,
      fun hp => ⟨e, he, hem, hdvd, Int.dvd_add hdvd hp⟩⟩
  · exact iff_of_true ⟨e, he, hem, hdvd, by simpa using hdvd⟩ (.inl (not_lt.1 hbefore))

lemma isLeast_modEq {t x ref m : ℕ} (hlt : t < x) (hle : x ≤ t + m) (hmod : x ≡ ref [MOD m]) :
    IsLeast {x | t < x ∧ x ≡ ref [MOD m]} x := by
  refine ⟨⟨hlt, hmod⟩, fun y ⟨hy, hymod⟩ => ?_⟩
  by_contra hyx
  have hdvd := (Nat.modEq_iff_dvd' (by omega)).mp (hymod.trans hmod.symm)
  have := Nat.le_of_dvd (by omega) hdvd
  omega

lemma toNat_wake (ref : UInt64) {tgt intvl : UInt64} (htgt : tgt.toNat < 2 ^ 63)
    (hintvl : intvl.toNat < 2 ^ 32) (hpos : 0 < intvl.toNat) : ∃ e, 0 < e ∧ e ≤ intvl.toNat ∧
      (tgt - (tgt - ref) % intvl + intvl).toNat = tgt.toNat + e ∧ (intvl.toNat : ℤ) ∣
        (tgt.toNat + e : ℕ) - ref.toNat + if tgt.toNat < ref.toNat then 2 ^ 64 else 0 := by
  have hlt := mod_lt (tgt - ref).toNat hpos
  have hdiv := mod_add_div (tgt - ref).toNat intvl.toNat
  have hsub := UInt64.toNat_sub tgt ref
  refine ⟨intvl.toNat - (tgt - ref).toNat % intvl.toNat, by omega, by omega, ?_,
    ((tgt - ref).toNat / intvl.toNat : ℕ) + 1, ?_⟩
  · rw [UInt64.toNat_add, UInt64.toNat_sub, UInt64.toNat_mod]
    omega
  · have := ref.toNat_lt
    rw [Int.mul_add]
    split <;> omega

lemma TwtWakeInfo.next_iff {w : TwtWakeInfo} {tgt : UInt64} (htgt : tgt.toNat < 2 ^ 63) :
    (∃ x, w.next tgt = some x ∧ IsLeast {x | tgt.toNat < x ∧
      x ≡ w.targetWakeTime.toNat [MOD w.period]} x.toNat) ↔ w.Met tgt.toNat := by
  have hintvl : (twtCalcIntvl w).toUInt64.toNat = w.period % 2 ^ 32 := by
    rw [UInt32.toNat_toUInt64, twtCalcIntvl, UInt32.toNat_ofNat', period]
  have hle := mod_le w.period (2 ^ 32)
  simp only [next, Met, ← hintvl] at hle ⊢
  by_cases hzero : (twtCalcIntvl w).toUInt64 = 0
  · simp [hzero]
  obtain ⟨e, he, hei, hwake, hdvd⟩ := toNat_wake w.targetWakeTime htgt (by omega)
    (Nat.pos_of_ne_zero fun h => hzero (UInt64.toNat_inj.mp h))
  simp only [if_neg hzero, Option.some.injEq, exists_eq_left', hwake]
  refine ⟨fun h => ⟨e, he, hei, h.1.2, hdvd⟩, fun ⟨e', he', hei', hmod, hdvd'⟩ => ?_⟩
  have heq : (e : ℤ) - e' = 0 := Int.eq_zero_of_abs_lt_dvd
    (by simpa using Int.dvd_sub hdvd hdvd') (by rw [abs_lt, ← UInt32.toNat_toUInt64]; omega)
  rw [show e = e' by omega]
  exact isLeast_modEq (by omega) (by omega) hmod

theorem target_wake_time_iff {ι ρ : Type*} (s : TwtInfo ι ρ) (twtInfo : ℕ → TwtWakeInfo)
    (tsf : UInt64) (id : UInt8) (offset : UInt16) (hs : s.sup && s.init)
    (hc : (twtGetConfigById s id.toNat).isSome) (htsf : tsf.toNat < 2 ^ 62) :
    (∃ t, rtwPhlTwtGetTargetWakeTime s twtInfo (some tsf) id offset = some (.success, some t) ∧
      IsLeast {x | tsf.toNat + 1000 * offset.toNat < x ∧
        x ≡ (twtInfo id.toNat).targetWakeTime.toNat [MOD (twtInfo id.toNat).period]} t.toNat) ↔
    (twtInfo id.toNat).Met (tsf.toNat + 1000 * offset.toNat) := by
  have hid : id ≠ ignoreCfgId := by
    rintro rfl
    cases hc
  have hoff := offset.toNat_lt
  have htgt : (tsf + offset.toUInt64 * 1000).toNat = tsf.toNat + 1000 * offset.toNat := by
    rw [UInt64.toNat_add, UInt64.toNat_mul, UInt16.toNat_toUInt64,
      show (1000 : UInt64).toNat = 1000 from rfl]
    omega
  rw [← htgt, ← TwtWakeInfo.next_iff (by omega)]
  simp [rtwPhlTwtGetTargetWakeTime, hs, hid, Option.isSome_iff_ne_none.mp hc]

def twtOneIdle : TwtInfo ℕ ℕ := ⟨true, true, fun _ => ⟨.idle, none, .indivTwt, 0, []⟩⟩

theorem target_wake_time_past :
    ∃ t, rtwPhlTwtGetTargetWakeTime twtOneIdle (fun _ => ⟨1, 0, 3⟩) (some 5) 0 0 =
      some (.success, some t) ∧ IsLeast {x | 5 < x ∧ x ≡ 1 [MOD 3]} t.toNat :=
  (target_wake_time_iff twtOneIdle _ 5 0 0 rfl rfl (by decide)).mpr
    ((TwtWakeInfo.met_iff_of_lt (by decide) (by decide)).mpr (.inl (by decide)))

theorem target_wake_time_before_start :
    rtwPhlTwtGetTargetWakeTime twtOneIdle (fun _ => ⟨1, 0, 3⟩) (some 0) 0 0 =
      some (.success, some 3) ∧ ¬IsLeast {x | 0 < x ∧ x ≡ 1 [MOD 3]} 3 :=
  ⟨by decide +kernel, fun h => absurd h.1.2 (by decide)⟩

section Element

open Bytes

/-- Each field with its width. -/
def TwtElement.Fits (e : TwtElement) : Prop :=
  ∀ f ∈ [(e.ndpPagingIndic, 1), (e.responderPmMode, 1), (e.negoType, 2), (e.twtInfoFrameDisable, 1),
    (e.wakeDurUnit, 1), (e.twtRequest, 1), (e.twtSetupCmd, 3), (e.trigger, 1), (e.implicit, 1),
    (e.flowType, 1), (e.twtFlowId, 3), (e.twtWakeIntExp, 5), (e.twtProtection, 1),
    (e.targetWakeTL, 32), (e.targetWakeTH, 32), (e.nomMinTwtWakeDur, 8),
    (e.twtWakeIntMantissa, 16), (e.twtChannel, 8)], f.1 < 2 ^ f.2

theorem twt_element_round_trip (e e' : TwtElement) (hfit : e.Fits) (hindiv : e.negoType = 0)
    (hgroup : e.twtSetupCmd ≠ twtGrouping) (mem : ℕ → UInt8) (pos id : ℕ) :
    let r := rtwPhlTwtFillTwtElement e (pos + 2) mem
    let ele := r.2.1 |> setBits 1 pos 0 8 id |> setBits 1 (pos + 1) 0 8 r.2.2
    r.1 = true ∧ rtwPhlTwtParseElement ele pos (r.2.2 + 2) e' = (true, e) := by
  simp only [TwtElement.Fits, forall_mem_cons] at hfit
  simp only [rtwPhlTwtFillTwtElement, twtFillIndividualTwtParaSet, if_pos hindiv, if_neg hgroup]
  refine ⟨trivial, ?_⟩
  -- each field is read from the bits it was written to, and no other write reaches them
  simp (disch := omega) only [rtwPhlTwtParseElement, twtParseIndividualTwtPara, minTwtEleLen,
    getBits_set_self, getBits_set_of_disjoint, if_neg hgroup]
  rw [if_neg (by decide), if_pos hindiv]

theorem twt_element_round_trip_accept :
    let e : TwtElement := ⟨0, 1, 0, 0, 1, 0, 4, 1, 1, 0, 5, 9, 0, 7, 2 ^ 31, 255, 512, 1⟩
    let r := rtwPhlTwtFillTwtElement e 2 fun _ => 0xFF
    let ele := r.2.1 |> setBits 1 0 0 8 216 |> setBits 1 1 0 8 r.2.2
    r.1 = true ∧ rtwPhlTwtParseElement ele 0 (r.2.2 + 2) e = (true, e) :=
  twt_element_round_trip _ _ (by simp [TwtElement.Fits]) rfl (by decide) _ 0 216

end Element

end Rtl8852be

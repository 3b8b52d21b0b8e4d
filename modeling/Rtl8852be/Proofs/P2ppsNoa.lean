import Rtl8852be.P2ppsNoa
import Mathlib.Order.Bounds.Basic

/-!
# What the firmware has enabled

The firmware has a recorded descriptor while the role is not paused, except that one of the MCC
module is never enabled, and every descriptor gets the same id.
-/

namespace Rtl8852be

open List Function P2ppsTrigTag

lemma P2ppsTrigTag.mem_all (t : P2ppsTrigTag) : t ∈ all := by
  cases t <;> simp [all]

lemma P2ppsTrigTag.all_nodup : all.Nodup := by decide

def NoaEv.requested (en : P2ppsTrigTag → Bool) : NoaEv → P2ppsTrigTag → Bool
  | .update _ inDesc => Function.update en inDesc.tag inDesc.enable
  | .pauseAll _ => en
  | .resumeAll _ => en
  | .disableAll _ => fun _ => false

def lastRequests (evs : List NoaEv) : P2ppsTrigTag → Bool :=
  evs.foldl NoaEv.requested fun _ => false

/-- Recorded as requested (`en`), and in the firmware if it was told of it since the last pause
(`live`) and it is not the MCC module's. -/
structure DescInv (t : P2ppsTrigTag) (d : NoaDesc) (id : Option ℕ) (en live : Bool) : Prop where
  enable : d.enable = en
  tag : en → d.tag = t
  ids : d.noaId = 0 ∨ d.noaId = noaidNone
  fw : id = if live ∧ en ∧ t ≠ .mcc then some 0 else none
  noaId : live → en → (d.noaId = noaidNone ↔ t = .mcc)

structure NoaInv (s : NoaInfo) (en live : P2ppsTrigTag → Bool) : Prop where
  enDescNum : s.enDescNum = (Table.held P2ppsTrigTag.all s.fw).length
  desc : ∀ t, DescInv t (s.noaDesc t) (s.fw t) (en t) (live t)

structure NoaEnv.Quiet (env : NoaEnv) : Prop where
  halEnable : ∀ t, env.halEnable t = .success
  halDisable : ∀ t, env.halDisable t = true
  mccInprog : env.mccInprog = false

variable {s : NoaInfo} {env : NoaEnv} {live en : P2ppsTrigTag → Bool}

section Desc

variable {s' : NoaInfo} {t : P2ppsTrigTag} {d : NoaDesc} {id : Option ℕ} {b b' : Bool}

lemma NoaInv.change (h : NoaInv s en live) (hd : s'.noaDesc = update s.noaDesc t d)
    (hfw : s'.fw = update s.fw t id) (hdesc : DescInv t d id b b')
    (hnum : s'.enDescNum = (Table.held all s'.fw).length) :
    NoaInv s' (update en t b) (update live t b') := by
  refine ⟨hnum, fun t' => ?_⟩
  rw [hd, hfw]
  by_cases ht : t' = t
  · subst ht
    simpa using hdesc
  · simpa [ht] using h.desc t'

lemma NoaInv.fw_eq (h : NoaInv s en live) :
    s.fw t = if live t ∧ en t ∧ t ≠ .mcc then some 0 else none := (h.desc t).fw

lemma NoaInv.inFw_iff (h : NoaInv s en live) (hlive : live t) :
    (s.noaDesc t).noaId ≠ noaidNone ∧ (s.noaDesc t).enable ↔ en t ∧ t ≠ .mcc := by
  have hdesc := h.desc t
  rw [hdesc.enable, and_comm]
  exact and_congr_right fun hen => not_congr (hdesc.noaId hlive hen)

lemma noaAssignNoaid_eq_zero
    (h : ∀ t, (s.noaDesc t).noaId = 0 ∨ (s.noaDesc t).noaId = noaidNone) :
    noaAssignNoaid s = 0 := by
  have hmax : ∀ ids : List ℕ, (∀ id ∈ ids, id = 0 ∨ id = noaidNone) →
      ids.foldl (fun max id => if id = noaidNone then max else if max < id then id else max) 0
        = 0 := by
    intro ids
    induction ids with
    | nil => intro _; rfl
    | cons id ids ih =>
      intro hids
      have hrest := ih fun id' hid' => hids id' (mem_cons_of_mem id hid')
      rcases hids id mem_cons_self with rfl | rfl
      · simpa [noaidNone] using hrest
      · simpa using hrest
  unfold noaAssignNoaid
  rw [hmax _ (by simpa using fun t _ => h t)]
  simp

lemma descInv_zero (t : P2ppsTrigTag) (live : Bool) : DescInv t noaDescZero none false live :=
  ⟨rfl, nofun, .inl rfl, by simp, nofun⟩

lemma NoaInv.drop (h : NoaInv s en live) (hd : s'.noaDesc = update s.noaDesc t noaDescZero)
    (hfw : s'.fw = update s.fw t none)
    (hnum : s'.enDescNum = (Table.held all s'.fw).length) :
    NoaInv s' (update en t false) live := by
  have := h.change hd hfw (descInv_zero t (live t)) hnum
  rwa [update_eq_self] at this

lemma NoaInv.enDescNum_disable (h : NoaInv s en live) (hfw : s.fw t = some 0) :
    s.enDescNum - 1 = (Table.held all (update s.fw t none)).length := by
  have := Table.length_held_clear all_nodup t.mem_all hfw
  have := h.enDescNum
  omega

lemma update_fw_eq (hfw : s.fw t = none) : s.fw = update s.fw t none := by
  rw [← hfw, update_eq_self]

lemma NoaInv.noaDisable_clear (h : NoaInv s en live) (henv : env.Quiet)
    (hlive : live t = !s.paused) :
    NoaInv (noaDisable env t true s).2 (update en t false) live ∧
      (noaDisable env t true s).2.paused = s.paused ∧ (noaDisable env t true s).2.fw t = none := by
  unfold noaDisable
  cases hp : s.paused <;> rw [hp] at hlive
  · simp [henv.halDisable, h.inFw_iff hlive]
    split_ifs with hin
    · have hfw : s.fw t = some 0 := by rw [h.fw_eq, if_pos ⟨hlive, hin⟩]
      refine ⟨h.drop rfl rfl (h.enDescNum_disable hfw), hp, ?_⟩
      exact update_self t none s.fw
    · have hfw : s.fw t = none := by rw [h.fw_eq, if_neg fun hall => hin hall.2]
      exact ⟨h.drop rfl (update_fw_eq hfw) h.enDescNum, hp, hfw⟩
  · have hfw : s.fw t = none := by rw [h.fw_eq, hlive]; simp
    exact ⟨h.drop rfl (update_fw_eq hfw) h.enDescNum, hp, hfw⟩

lemma NoaInv.noaDisable_keep (h : NoaInv s en live) (henv : env.Quiet) (hlive : live t) :
    NoaInv (noaDisable env t false s).2 en (update live t false) ∧
      (noaDisable env t false s).2.paused = s.paused := by
  have hdesc := h.desc t
  have hoff : DescInv t (s.noaDesc t) none (en t) false :=
    ⟨hdesc.enable, hdesc.tag, hdesc.ids, by simp, nofun⟩
  have hsame : s.noaDesc = update s.noaDesc t (s.noaDesc t) := (update_eq_self t _).symm
  unfold noaDisable
  simp [henv.halDisable, h.inFw_iff hlive]
  rw [← update_eq_self t en]
  split_ifs with hin
  · have hfw : s.fw t = some 0 := by rw [h.fw_eq, if_pos ⟨hlive, by simpa using hin⟩]
    exact ⟨h.change hsame rfl hoff (h.enDescNum_disable hfw), rfl⟩
  · have hfw : s.fw t = none := by rw [h.fw_eq, if_neg fun hall => hin (by simpa using hall.2)]
    exact ⟨h.change hsame (update_fw_eq hfw) hoff h.enDescNum, rfl⟩

structure NoaDesc.Plain (d : NoaDesc) (t : P2ppsTrigTag) : Prop where
  enable : d.enable = true
  tag : d.tag = t
  noaId : d.noaId = 0 ∨ d.noaId = noaidNone

lemma noaShouldActivate_eq (henv : env.Quiet) (hd : d.Plain t) :
    noaShouldActivate env d = decide (t ≠ .mcc) := by
  unfold noaShouldActivate
  rw [hd.tag, henv.mccInprog]
  by_cases ht : t = .mcc <;> simp [ht]

lemma NoaInv.assign (h : NoaInv s en live) (hd : d.Plain t) :
    noaAssignNoaid (s.setDesc t d) = 0 := by
  refine noaAssignNoaid_eq_zero fun t' => ?_
  by_cases ht : t' = t
  · simpa [ht] using hd.noaId
  · simpa [ht] using (h.desc t').ids

lemma NoaInv.noaEnable (h : NoaInv s en live) (henv : env.Quiet) (hd : d.Plain t)
    (hfw : s.fw t = none) :
    NoaInv (noaEnable env t d s).2 (update en t true) (update live t !s.paused) ∧
      (noaEnable env t d s).2.paused = s.paused := by
  unfold Rtl8852be.noaEnable
  simp only [noaShouldActivate_eq henv hd, h.assign hd, henv.halEnable]
  cases hp : s.paused
  · rw [if_neg (by simp [hp])]
    by_cases hmcc : t = .mcc
    · rw [if_neg (by simp [hmcc])]
      have hoff : DescInv t { d with noaId := noaidNone } none true true :=
        ⟨hd.enable, fun _ => hd.tag, .inr rfl, by simp [hmcc], fun _ _ => by simp [hmcc]⟩
      exact ⟨h.change (update_idem ..) (update_fw_eq hfw) hoff h.enDescNum, hp⟩
    · rw [if_pos (by simp [hmcc])]
      have hon : DescInv t { d with noaId := 0 } (some 0) true true :=
        ⟨hd.enable, fun _ => hd.tag, .inl rfl, by simp [hmcc], fun _ _ => by simp [hmcc, noaidNone]⟩
      have hlen := Table.length_held_fill all_nodup t.mem_all hfw (x := 0)
      rw [← h.enDescNum] at hlen
      exact ⟨h.change (update_idem ..) rfl hon hlen.symm, hp⟩
  · rw [if_pos (by simp [hp])]
    have hrec : DescInv t d none true false :=
      ⟨hd.enable, fun _ => hd.tag, hd.noaId, by simp, nofun⟩
    exact ⟨h.change rfl (update_fw_eq hfw) hrec h.enDescNum, hp⟩

lemma NoaInv.skip (h : NoaInv s en live) (hen : en t = false) (b : Bool) :
    NoaInv s en (update live t b) := by
  have hdesc := h.desc t
  have hfw : s.fw t = none := by rw [h.fw_eq, hen]; simp
  have hoff : DescInv t (s.noaDesc t) none (en t) b := by
    refine ⟨hdesc.enable, hdesc.tag, hdesc.ids, by simp [hen], ?_⟩
    rw [hen]
    exact fun _ => nofun
  have hskip : NoaInv s (update en t (en t)) (update live t b) :=
    h.change (update_eq_self t _).symm (update_fw_eq hfw) hoff h.enDescNum
  rwa [update_eq_self] at hskip

end Desc

def setTags (b : Bool) (l : List P2ppsTrigTag) (f : P2ppsTrigTag → Bool) : P2ppsTrigTag → Bool :=
  l.foldl (fun f t => update f t b) f

lemma setTags_all (b : Bool) (f : P2ppsTrigTag → Bool) :
    setTags b all f = fun _ => b := by
  funext t
  cases t <;> rfl

lemma forall_tail_update {f : P2ppsTrigTag → Bool} {t : P2ppsTrigTag} {l : List P2ppsTrigTag}
    {c : Bool} (ht : t ∉ l) (h : ∀ t' ∈ t :: l, f t' = c) (b : Bool) :
    ∀ t' ∈ l, update f t b t' = c := by
  intro t' ht'
  have hne : t' ≠ t := by
    rintro rfl
    exact ht ht'
  rw [update_of_ne hne]
  exact h t' (mem_cons_of_mem t ht')

lemma NoaInv.pauseLoop (henv : env.Quiet) : ∀ (l : List P2ppsTrigTag) {s : NoaInfo}
    {live : P2ppsTrigTag → Bool}, l.Nodup → (∀ t ∈ l, live t) → NoaInv s en live →
    NoaInv (l.foldl (fun s t => (noaDisable env t false s).2) s) en (setTags false l live) ∧
      (l.foldl (fun s t => (noaDisable env t false s).2) s).paused = s.paused
  | [], _, _, _, _, h => ⟨h, rfl⟩
  | t :: l, s, live, hl, hlive, h => by
    obtain ⟨ht, hl⟩ := nodup_cons.1 hl
    obtain ⟨h', hp⟩ := h.noaDisable_keep henv (hlive t mem_cons_self)
    obtain ⟨hend, hpend⟩ := pauseLoop henv l hl (forall_tail_update ht hlive false) h'
    exact ⟨hend, hpend.trans hp⟩

lemma NoaInv.resumeLoop (henv : env.Quiet) : ∀ (l : List P2ppsTrigTag) {s : NoaInfo}
    {live : P2ppsTrigTag → Bool}, l.Nodup → (∀ t ∈ l, live t = false) → s.paused = false →
    NoaInv s en live →
    NoaInv (l.foldl (fun s t =>
        if (s.noaDesc t).enable then (Rtl8852be.noaEnable env t (s.noaDesc t) s).2 else s) s)
      en (setTags true l live) ∧
      (l.foldl (fun s t =>
        if (s.noaDesc t).enable then (Rtl8852be.noaEnable env t (s.noaDesc t) s).2 else s) s).paused
        = false
  | [], _, _, _, _, hp, h => ⟨h, hp⟩
  | t :: l, s, live, hl, hlive, hp, h => by
    obtain ⟨ht, hl⟩ := nodup_cons.1 hl
    have hlive' := forall_tail_update ht hlive true
    have hdesc := h.desc t
    simp [hdesc.enable]
    cases hen : en t
    · exact resumeLoop henv l hl hlive' hp (h.skip hen true)
    have hplain : (s.noaDesc t).Plain t := ⟨hdesc.enable.trans hen, hdesc.tag hen, hdesc.ids⟩
    have hfw : s.fw t = none := by rw [h.fw_eq, hlive t mem_cons_self]; simp
    obtain ⟨h', hp'⟩ := h.noaEnable henv hplain hfw
    rw [hp, ← hen, update_eq_self] at h'
    exact resumeLoop henv l hl hlive' (hp'.trans hp) h'

lemma NoaInv.disableLoop (henv : env.Quiet) : ∀ (l : List P2ppsTrigTag) {s : NoaInfo}
    {en : P2ppsTrigTag → Bool}, (∀ t ∈ l, live t = !s.paused) → NoaInv s en live →
    NoaInv (l.foldl (fun s t =>
        if (s.noaDesc t).enable then (noaDisable env t true s).2 else s) s)
      (setTags false l en) live ∧
      (l.foldl (fun s t =>
        if (s.noaDesc t).enable then (noaDisable env t true s).2 else s) s).paused = s.paused
  | [], _, _, _, h => ⟨h, rfl⟩
  | t :: l, s, en, hlive, h => by
    have hrest : ∀ t' ∈ l, live t' = !s.paused := fun t' ht' => hlive t' (mem_cons_of_mem t ht')
    simp [(h.desc t).enable]
    cases hen : en t
    · have hsame : update en t false = en := by rw [← hen, update_eq_self]
      have := disableLoop henv l hrest h
      unfold setTags at *
      rwa [foldl_cons, hsame]
    · obtain ⟨h', hp, -⟩ := h.noaDisable_clear henv (hlive t mem_cons_self)
      rw [← hp] at hrest
      obtain ⟨hend, hpend⟩ := disableLoop henv l hrest h'
      exact ⟨hend, hpend.trans hp⟩

/-- The calls of a step succeed, no MCC is in progress, and a request leaves its id to the
module. -/
def NoaOK : NoaEv → Prop
  | .update env inDesc => env.Quiet ∧ (inDesc.noaId = 0 ∨ inDesc.noaId = noaidNone)
  | .pauseAll env => env.Quiet
  | .resumeAll env => env.Quiet
  | .disableAll env => env.Quiet

/-- The firmware was told of everything, unless the role is paused. -/
def NoaSettled (s : NoaInfo) (en : P2ppsTrigTag → Bool) : Prop := NoaInv s en fun _ => !s.paused

section Step

section

variable (h : NoaSettled s en) (henv : env.Quiet)
include h henv

lemma NoaSettled.update {d : NoaDesc} (hid : d.noaId = 0 ∨ d.noaId = noaidNone) :
    NoaSettled (noaUpdate env d s).2 (update en d.tag d.enable) := by
  obtain ⟨hdis, hp, hfw⟩ := NoaInv.noaDisable_clear (t := d.tag) h henv rfl
  unfold noaUpdate
  cases hen : d.enable
  · rw [if_neg nofun]
    unfold NoaSettled
    rwa [hp]
  · rw [if_pos rfl]
    obtain ⟨h', hp'⟩ := hdis.noaEnable henv ⟨hen, rfl, hid⟩ hfw
    unfold NoaSettled
    rw [hp', hp]
    rw [hp, update_idem] at h'
    rwa [update_eq_self d.tag fun _ => !s.paused] at h'

lemma NoaSettled.pauseAll : NoaSettled (noaPauseAll env s) en := by
  unfold noaPauseAll
  cases hp : s.paused
  · have hstart : NoaInv { s with paused := true } en fun _ => true := by
      unfold NoaSettled at h
      rw [hp] at h
      exact ⟨h.enDescNum, h.desc⟩
    obtain ⟨hend, hpend⟩ := NoaInv.pauseLoop henv all all_nodup (fun _ _ => rfl) hstart
    rw [setTags_all] at hend
    rw [if_neg nofun]
    unfold NoaSettled
    rwa [hpend]
  · rwa [if_pos rfl]

lemma NoaSettled.resumeAll :
    NoaSettled (noaResumeAll env s) en ∧ (noaResumeAll env s).paused = false := by
  unfold noaResumeAll
  cases hp : s.paused
  · exact ⟨h, hp⟩
  have hstart : NoaInv { s with paused := false } en fun _ => false := by
    unfold NoaSettled at h
    rw [hp] at h
    exact ⟨h.enDescNum, h.desc⟩
  obtain ⟨hend, hpend⟩ := NoaInv.resumeLoop henv all all_nodup (fun _ _ => rfl) rfl hstart
  rw [setTags_all] at hend
  rw [if_neg nofun]
  refine ⟨?_, hpend⟩
  unfold NoaSettled
  rwa [hpend]

lemma NoaSettled.disableAll : NoaSettled (noaDisableAll env s) fun _ => false := by
  obtain ⟨hend, -⟩ := NoaInv.disableLoop henv all (fun _ _ => rfl) h
  rw [setTags_all] at hend
  -- nothing is enabled, so it does not matter what the firmware was told of
  refine ⟨hend.enDescNum, fun t => ?_⟩
  have hdesc := hend.desc t
  exact ⟨hdesc.enable, nofun, hdesc.ids, hdesc.fw.trans (by simp), fun _ => nofun⟩

end

lemma NoaSettled.step {ev : NoaEv} (h : NoaSettled s en) (hok : NoaOK ev) :
    NoaSettled (noaStep s ev) (ev.requested en) := by
  cases ev with
  | update env inDesc => exact h.update hok.1 hok.2
  | pauseAll env => exact h.pauseAll hok
  | resumeAll env => exact (h.resumeAll hok).1
  | disableAll env => exact h.disableAll hok

lemma NoaSettled.run : ∀ (evs : List NoaEv) {s : NoaInfo} {en : P2ppsTrigTag → Bool},
    NoaSettled s en → (∀ ev ∈ evs, NoaOK ev) →
    NoaSettled (Run.run noaStep s evs) (evs.foldl NoaEv.requested en)
  | [], _, _, h, _ => h
  | ev :: evs, _, _, h, hok =>
    run evs (h.step (hok ev mem_cons_self)) fun ev' hev' =>
      hok ev' (mem_cons_of_mem ev hev')

lemma noaSettled_init : NoaSettled noaInfoInit fun _ => false := ⟨rfl, fun t => descInv_zero t _⟩

end Step

/-- The counter is that of the descriptors in the firmware, these have an id, and a resume enables
what was last requested and `activates`. -/
structure NoaBooks (activates : P2ppsTrigTag → Prop) (s : NoaInfo) (en : P2ppsTrigTag → Bool) :
    Prop where
  enDescNum : s.enDescNum = (P2ppsTrigTag.all.filter fun t => (s.fw t).isSome).length
  noaId : ∀ t id, s.fw t = some id → (s.noaDesc t).noaId = id ∧ id ≠ noaidNone
  paused : s.paused → ∀ t, s.fw t = none
  resumed : ∀ env : NoaEnv, env.Quiet → s.paused →
    ∀ t, ((noaResumeAll env s).fw t).isSome ↔ en t ∧ activates t

lemma length_held (l : List P2ppsTrigTag) (f : P2ppsTrigTag → Option ℕ) :
    (Table.held l f).length = (l.filter fun t => (f t).isSome).length := by
  rw [Table.held, length_filterMap_eq_countP, countP_eq_length_filter]

lemma NoaSettled.books {s : NoaInfo} {en : P2ppsTrigTag → Bool} (h : NoaSettled s en) :
    NoaBooks (· ≠ .mcc) s en where
  enDescNum := by rw [← length_held, h.enDescNum]
  noaId t id hfw := by
    rw [NoaInv.fw_eq h] at hfw
    split_ifs at hfw with hin
    obtain rfl := Option.some.inj hfw
    have hdesc := NoaInv.desc h t
    have hne : (s.noaDesc t).noaId ≠ noaidNone := mt (hdesc.noaId hin.1 hin.2.1).1 hin.2.2
    exact ⟨hdesc.ids.resolve_right hne, nofun⟩
  paused hp t := by
    rw [NoaInv.fw_eq h, hp]
    simp
  resumed env henv _ t := by
    obtain ⟨h', hp'⟩ := h.resumeAll henv
    rw [NoaInv.fw_eq h', hp']
    simp

theorem noa_books_run (evs : List NoaEv) (hok : ∀ ev ∈ evs, NoaOK ev) :
    NoaBooks (· ≠ .mcc) (Run.run noaStep noaInfoInit evs) (lastRequests evs) :=
  (NoaSettled.run evs noaSettled_init hok).books

def noaEnvQuiet : NoaEnv := ⟨fun _ => .success, fun _ => true, false⟩

lemma noaEnvQuiet_quiet : noaEnvQuiet.Quiet := ⟨fun _ => rfl, fun _ => rfl, rfl⟩

/-- A request before and one during a pause, and the resume. -/
theorem noa_books_paused :
    let evs := [.update noaEnvQuiet ⟨true, .go, 255, 0⟩, .pauseAll noaEnvQuiet,
      .update noaEnvQuiet ⟨true, .gc, 1, 0⟩, .resumeAll noaEnvQuiet]
    NoaBooks (· ≠ .mcc) (Run.run noaStep noaInfoInit evs) (lastRequests evs) := by
  refine noa_books_run _ fun ev hev => ?_
  simp at hev
  rcases hev with rfl | rfl | rfl | rfl
  · exact ⟨noaEnvQuiet_quiet, .inl rfl⟩
  · exact noaEnvQuiet_quiet
  · exact ⟨noaEnvQuiet_quiet, .inl rfl⟩
  · exact noaEnvQuiet_quiet

/-- The requests of a GO and of a GC, which brings the id `id`. -/
def goThenGc (id : ℕ) : NoaInfo :=
  Run.run noaStep noaInfoInit
    [.update noaEnvQuiet ⟨true, .go, 255, 0⟩, .update noaEnvQuiet ⟨true, .gc, 255, id⟩]

/-- A resume does not enable the MCC module's request; two others are enabled under one id; and a
request that brings `0xFE` is enabled under `NOAID_NONE`. -/
theorem noa_books_fails :
    let evs := [.update noaEnvQuiet ⟨true, .mcc, 255, 0⟩, .pauseAll noaEnvQuiet]
    ¬ NoaBooks (fun _ => True) (Run.run noaStep noaInfoInit evs) (lastRequests evs) ∧
      ((goThenGc 0).fw .go = some 0 ∧ (goThenGc 0).fw .gc = some 0) ∧
      (goThenGc 0xFE).fw .gc = some noaidNone := by
  refine ⟨fun h => ?_, ⟨rfl, rfl⟩, rfl⟩
  have hresumed := (h.resumed noaEnvQuiet noaEnvQuiet_quiet rfl .mcc).2 ⟨rfl, trivial⟩
  exact nomatch hresumed

section NextStart

variable (startT tsf : UInt32 × UInt32) (interval : ℕ)

/-- The starts of the schedule after the time `tsf`. -/
def startsAfter : Set ℕ := {t | noaTime tsf < t ∧ ∃ k, t = noaTime startT + k * interval}

lemma noaTime_calcNextNoaSTime : noaTime (calcNextNoaSTime startT tsf interval) =
    (noaTime startT + ((2 ^ 64 + noaTime tsf - noaTime startT) % 2 ^ 64 / interval + 1) * interval)
      % 2 ^ 64 := by
  simp only [calcNextNoaSTime]
  generalize (_ + _ * interval) = n
  simp [noaTime]
  omega

theorem next_noa_start_iff (hs : noaTime startT < 2 ^ 63) (ht : noaTime tsf < 2 ^ 63)
    (hpos : 0 < interval) (hint : interval < 2 ^ 32) :
    IsLeast (startsAfter startT tsf interval) (noaTime (calcNextNoaSTime startT tsf interval)) ↔
      noaTime startT ≤ noaTime tsf ∨
        interval ∣ 2 ^ 64 ∧ noaTime startT ≤ noaTime tsf + interval := by
  rw [noaTime_calcNextNoaSTime, startsAfter]
  generalize noaTime startT = a at *
  generalize noaTime tsf = b at *
  by_cases hab : a ≤ b
  · refine iff_of_true ?_ (.inl hab)
    have hdelta : (2 ^ 64 + b - a) % 2 ^ 64 = b - a := by omega
    have hup := Nat.lt_mul_div_succ (b - a) hpos
    have hlo := Nat.div_mul_le_self (b - a) interval
    rw [hdelta, Nat.mod_eq_of_lt (by rw [Nat.add_mul]; omega)]
    refine ⟨⟨by rw [Nat.mul_comm]; omega, _, rfl⟩, ?_⟩
    rintro _ ⟨hlt, k, rfl⟩
    have hk : (b - a) / interval < k := (Nat.div_lt_iff_lt_mul hpos).2 (by omega)
    exact Nat.add_le_add_left (Nat.mul_le_mul_right _ hk) _
  · -- the schedule has not begun, so its first start is the next one
    have hleast : IsLeast {t | b < t ∧ ∃ k, t = a + k * interval} a :=
      ⟨⟨by omega, 0, by simp⟩, by rintro _ ⟨-, k, rfl⟩; exact Nat.le_add_right _ _⟩
    have hdelta : (2 ^ 64 + b - a) % 2 ^ 64 = 2 ^ 64 - (a - b) := by omega
    have hdiv := Nat.div_add_mod (2 ^ 64 - (a - b)) interval
    have hmod := Nat.mod_lt (2 ^ 64 - (a - b)) hpos
    have hdvd : interval ∣ interval * ((2 ^ 64 - (a - b)) / interval) := Nat.dvd_mul_right _ _
    rw [hdelta, Nat.add_mul, Nat.mul_comm, Nat.one_mul]
    generalize interval * (_ / interval) = q at *
    generalize _ % interval = r at *
    have hsum : (a + (q + interval)) % 2 ^ 64 = b + interval - r := by omega
    rw [hsum, or_iff_right hab]
    constructor
    · intro h
      have ha := h.unique hleast
      have hpow : 2 ^ 64 = q + interval := by omega
      exact ⟨hpow ▸ Nat.dvd_add hdvd (Nat.dvd_refl _), by omega⟩
    · rintro ⟨hpow, hle⟩
      have hsplit : 2 ^ 64 = q + (r + (a - b)) := by omega
      rw [hsplit, Nat.dvd_add_right hdvd] at hpow
      have hone := Nat.le_of_dvd (by omega) hpow
      have htwo := Nat.eq_zero_of_dvd_of_lt (Nat.dvd_sub hpow (Nat.dvd_refl _)) (by omega)
      rwa [show b + interval - r = a by omega]

theorem next_noa_start_running : IsLeast (startsAfter (0, 200) (0, 5000) 1000)
    (noaTime (calcNextNoaSTime (0, 200) (0, 5000) 1000)) :=
  (next_noa_start_iff _ _ _ (by decide) (by decide) (by decide) (by decide)).2 (.inl (by decide))

/-- The schedule begins a hundred microseconds after the toggle. -/
theorem next_noa_start_late : ¬ IsLeast (startsAfter (0, 200) (0, 100) 1000)
    (noaTime (calcNextNoaSTime (0, 200) (0, 100) 1000)) := by
  intro h
  have hle := h.2 ⟨by decide, 0, rfl⟩
  revert hle
  decide

end NextStart

end Rtl8852be

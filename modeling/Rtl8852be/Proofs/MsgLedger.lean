import Rtl8852be.MsgQueue
import Rtl8852be.Lib.Places

/-!
# The ledger of the messages

What the queues of the dispatcher are for: each slot is in one place, eight operations move slots
about, and the ledger keeps the tags of the messages sent, taken and completed.
-/

namespace Rtl8852be

open Places Function List Option

variable {first : Bool}

/-- Where a slot can be. The thread holds one, and calls of `dispr_send_msg` hold some. -/
inductive MsgPlace where
  | idle
  | wait
  | pend
  | held
  | sending
  deriving DecidableEq

def MsgPlace.inFlight : MsgPlace → Bool
  | .wait | .pend | .held => true
  | .idle | .sending => false

structure MsgKey where
  notify : Bool
  ctrl : Bool

variable {k : MsgKey}

@[ext]
structure Ledger where
  q : MsgPlace → CntQueue MsgSlot
  key : MsgSlot → MsgKey
  tag : MsgSlot → Option MsgTag
  sent : List MsgTag
  taken : List MsgTag
  completed : List MsgTag

/-- A slot is put into the waiting queue, before the first message that is not from a controller or
at the end. -/
def enqueue (key : MsgSlot → MsgKey) (first : Bool) (i : MsgSlot) (q : CntQueue MsgSlot) :
    CntQueue MsgSlot :=
  q.insertBefore (fun j => first && !(key j).ctrl) i

inductive LedgerOp where
  | alloc (i : MsgSlot) (k : MsgKey)
  | refuse (i : MsgSlot) (k : MsgKey)
  | accept (i : MsgSlot) (t : MsgTag)
  | take (i : MsgSlot)
  | complete (i : MsgSlot) (k : MsgKey)
  | pend (i : MsgSlot)
  | unpend (i : MsgSlot)
  | resume (i : MsgSlot) (first : Bool)

@[simp] def LedgerOp.apply (L : Ledger) : LedgerOp → Ledger
  | .alloc i k =>
    { L with
      q := shift L.q i .idle .sending (·.pushTail i)
      key := update L.key i k
      tag := update L.tag i none }
  | .refuse i k =>
    { L with
      q := shift L.q i .sending .idle (·.pushTail i)
      key := update L.key i k }
  | .accept i t =>
    let key := update L.key i ⟨t.completion, t.ctrl⟩
    { L with
      q := shift L.q i .sending .wait (enqueue key t.ctrl i)
      key := key
      tag := update L.tag i (some t)
      sent := L.sent ++ [t] }
  | .take i =>
    { L with
      q := shift L.q i .wait .held (·.pushTail i)
      taken := L.taken ++ (L.tag i).toList.filter (· ∉ L.taken) }
  | .complete i k =>
    { L with
      q := shift L.q i .held .idle (·.pushTail i)
      key := update L.key i k
      completed := if (L.key i).notify then L.completed ++ (L.tag i).toList else L.completed }
  | .pend i => { L with q := shift L.q i .held .pend (·.pushTail i) }
  | .unpend i => { L with q := shift L.q i .pend .held (·.pushTail i) }
  | .resume i first => { L with q := shift L.q i .held .wait (enqueue L.key first i) }

/-- A message is numbered when it is accepted, the first of the waiting queue is taken, and only a
controller's is put before others. -/
def LedgerOp.Enabled (L : Ledger) : LedgerOp → Prop
  | .alloc i _ => i ∈ (L.q .idle).items
  | .refuse i _ => i ∈ (L.q .sending).items
  | .accept i t => i ∈ (L.q .sending).items ∧ t.no = L.sent.length ∧ t.slot = i
  | .take i => (L.q .wait).items.head? = some i
  | .complete i _ | .pend i => i ∈ (L.q .held).items
  | .unpend i => i ∈ (L.q .pend).items
  | .resume i first => i ∈ (L.q .held).items ∧ (first = true → (L.key i).ctrl = true)

open LedgerOp

lemma puts_enqueue (key : MsgSlot → MsgKey) (first : Bool) (i : MsgSlot) :
    Puts (enqueue key first i) i where
  perm := fun q => q.insertBefore_perm _ i
  counted := fun h => h.insertBefore _ i

def InFlight (q : MsgPlace → CntQueue MsgSlot) (i : MsgSlot) : Prop :=
  ∃ k, k.inFlight = true ∧ i ∈ (q k).items

variable {put : CntQueue MsgSlot → CntQueue MsgSlot} {i : MsgSlot}

section InFlight

variable {q : MsgPlace → CntQueue MsgSlot} {j : MsgSlot} {k k' : MsgPlace} {pool : MsgSlot → Prop}

lemma inFlight_iff (h : Placed pool q) (hi : i ∈ (q k).items) :
    InFlight q i ↔ k.inFlight = true :=
  h.among_iff hi

section

variable (hput : Puts put i) (h : Placed pool q) (hi : i ∈ (q k).items) (hne : k ≠ k')
include hput h hi hne

lemma inFlight_of_ne (hj : j ≠ i) : InFlight (shift q i k k' put) j ↔ InFlight q j :=
  hput.among_of_ne h hi hne hj

lemma inFlight_same (hkind : k.inFlight = k'.inFlight) (j : MsgSlot) :
    InFlight (shift q i k k' put) j ↔ InFlight q j :=
  hput.among_same h hi hne hkind j

end

end InFlight

/-- The message is still in its slot. -/
def Ledger.Holds (L : Ledger) (t : MsgTag) : Prop := InFlight L.q t.slot ∧ L.tag t.slot = some t

/-- A slot in flight holds a message whose completion routine has not been called; for any other
message it has. -/
structure Accounts (L : Ledger) : Prop where
  numbered : ∀ (n : ℕ) (t : MsgTag), L.sent[n]? = some t → t.no = n
  tagged : ∀ i, InFlight L.q i → ∃ t ∈ L.sent, L.tag i = some t ∧ t.slot = i ∧
    L.key i = ⟨t.completion, t.ctrl⟩ ∧ L.completed.count t = 0
  done : ∀ t ∈ L.sent, ¬ L.Holds t → L.completed.count t = if t.completion then 1 else 0
  known : ∀ t ∈ L.completed, t ∈ L.sent

variable {L L' : Ledger} {t : MsgTag}

section Accounts

section

variable (h : Accounts L)
include h

lemma Accounts.notMem_of_no (ht : t.no = L.sent.length) : t ∉ L.sent := by
  intro hmem
  obtain ⟨n, hn⟩ := List.mem_iff_getElem?.1 hmem
  have hlt := (List.getElem?_eq_some_iff.1 hn).1
  have := h.numbered n t hn
  omega

lemma Accounts.of_tag (hin : InFlight L.q i) (htag : L.tag i = some t) :
    t.slot = i ∧ L.key i = ⟨t.completion, t.ctrl⟩ ∧ L.completed.count t = 0 := by
  obtain ⟨t', -, htag', hspec⟩ := h.tagged i hin
  obtain rfl : t' = t := some.inj (htag'.symm.trans htag)
  exact hspec

lemma Accounts.frame (hflight : ∀ j, InFlight L'.q j ↔ InFlight L.q j)
    (hkey : ∀ j, InFlight L.q j → L'.key j = L.key j)
    (htag : ∀ j, InFlight L.q j → L'.tag j = L.tag j) (hsent : L'.sent = L.sent)
    (hcompleted : L'.completed = L.completed) : Accounts L' where
  numbered := by rw [hsent]; exact h.numbered
  tagged := by
    intro j hj
    rw [hflight] at hj
    rw [hsent, hcompleted, hkey j hj, htag j hj]
    exact h.tagged j hj
  done := by
    rw [hsent, hcompleted]
    intro t ht hno
    refine h.done t ht fun hholds => hno ⟨(hflight _).2 hholds.1, ?_⟩
    rw [htag _ hholds.1]
    exact hholds.2
  known := by rw [hsent, hcompleted]; exact h.known

lemma Accounts.accept (hplaced : Placed (fun _ => True) L.q)
    (hen : Enabled L (.accept i t)) : Accounts (apply L (.accept i t)) := by
  obtain ⟨hi, hno, hslot⟩ := hen
  have hput := puts_enqueue (update L.key i ⟨t.completion, t.ctrl⟩) t.ctrl i
  have hnew := h.notMem_of_no hno
  have hother : ∀ j, j ≠ i → (InFlight (apply L (.accept i t)).q j ↔ InFlight L.q j) :=
    fun j hj => inFlight_of_ne hput hplaced hi (by decide) hj
  have hidle : ¬ InFlight L.q i := by simp [inFlight_iff hplaced hi, MsgPlace.inFlight]
  have hwait : InFlight (apply L (.accept i t)).q i := ⟨.wait, rfl, hput.mem_target⟩
  have hcount : L.completed.count t = 0 := count_eq_zero.2 fun hmem => hnew (h.known t hmem)
  refine ⟨fun n t' hn => ?_, fun j hj => ?_, fun t' ht' hout => ?_, fun t' ht' => ?_⟩
  · rcases lt_or_ge n L.sent.length with hlt | hge
    · exact h.numbered n t' (by simpa [List.getElem?_append_left hlt] using hn)
    · simp only [apply, List.getElem?_append_right hge] at hn
      obtain ⟨hlast, rfl⟩ := List.getElem?_eq_some_iff.1 hn
      rw [List.length_singleton] at hlast
      rw [List.getElem_singleton]
      omega
  · by_cases hji : j = i
    · subst hji
      exact ⟨t, by simp, by simp, hslot, by simp, hcount⟩
    · obtain ⟨t', ht', htag, hslot', hkey, hzero⟩ := h.tagged j ((hother j hji).1 hj)
      exact ⟨t', by simp [ht'], by simp [hji, htag], hslot', by simp [hji, hkey], hzero⟩
  · rcases mem_append.1 ht' with hold | hmem
    · refine h.done t' hold fun hholds => hout ?_
      have hne : t'.slot ≠ i := fun he => hidle (he ▸ hholds.1)
      exact ⟨(hother _ hne).2 hholds.1, by simp [hne, hholds.2]⟩
    · rw [mem_singleton.1 hmem] at hout
      refine absurd ⟨?_, ?_⟩ hout
      · rwa [hslot]
      · simp [hslot]
  · exact mem_append_left _ (h.known t' ht')

lemma Accounts.complete (hplaced : Placed (fun _ => True) L.q)
    (hi : i ∈ (L.q .held).items) : Accounts (apply L (.complete i k)) := by
  have hput := puts_pushTail i
  have hother : ∀ j, j ≠ i → (InFlight (apply L (.complete i k)).q j ↔ InFlight L.q j) :=
    fun j hj => inFlight_of_ne hput hplaced hi (by decide) hj
  have hplaced' : Placed (fun _ => True) (shift L.q i .held .idle (·.pushTail i)) :=
    hput.placed hplaced hi (by decide)
  have hgone : ¬ InFlight (apply L (.complete i k)).q i := by
    intro hin
    cases (inFlight_iff hplaced' hput.mem_target).1 hin
  obtain ⟨t, ht, htag, hslot, hkey, hzero⟩ := h.tagged i ⟨.held, rfl, hi⟩
  have hcompleted : (apply L (.complete i k)).completed =
      if t.completion then L.completed ++ [t] else L.completed := by
    simp [hkey, htag]
  have hcount : ∀ t', t' ≠ t →
      (apply L (.complete i k)).completed.count t' = L.completed.count t' := by
    intro t' hne
    rw [hcompleted]
    split_ifs
    · simp [count_append, hne.symm]
    · rfl
  refine ⟨h.numbered, fun j hj => ?_, fun t' ht' hout => ?_, fun t' ht' => ?_⟩
  · have hji : j ≠ i := fun he => hgone (he ▸ hj)
    obtain ⟨t', ht', htag', hslot', hkey', hzero'⟩ := h.tagged j ((hother j hji).1 hj)
    refine ⟨t', ht', htag', hslot', by simp [hji, hkey'], ?_⟩
    rwa [hcount t' (fun he => hji (by rw [← hslot', he, hslot]))]
  · by_cases hne : t' = t
    · subst hne
      rw [hcompleted]
      split_ifs
      · simp [count_append, hzero]
      · exact hzero
    · rw [hcount t' hne]
      refine h.done t' ht' fun hholds => hout ?_
      have hslot' : t'.slot ≠ i := by
        intro he
        have htag' := hholds.2
        rw [he, htag] at htag'
        exact hne (some.inj htag').symm
      exact ⟨(hother _ hslot').2 hholds.1, hholds.2⟩
  · rw [hcompleted] at ht'
    split_ifs at ht'
    · rcases mem_append.1 ht' with hmem | hmem
      · exact h.known t' hmem
      · rwa [mem_singleton.1 hmem]
    · exact h.known t' ht'

end

end Accounts

/-- The messages of a class in these slots that have not been taken yet. -/
def Ledger.fresh (L : Ledger) (c : Bool) (slots : List MsgSlot) : List MsgTag :=
  (slots.filterMap L.tag).filter fun t => t ∉ L.taken ∧ t.ctrl = c

/-- In each class the messages taken come first among those sent, and the rest waits in order,
controllers first. -/
structure Ordered (L : Ledger) : Prop where
  old : ∀ k, k = .pend ∨ k = .held → ∀ i ∈ (L.q k).items, ∀ t ∈ L.tag i, t ∈ L.taken
  fifo : ∀ c, L.taken.filter (·.ctrl = c) ++ L.fresh c (L.q .wait).items =
    L.sent.filter (·.ctrl = c)
  front : (L.q .wait).items.Pairwise fun i j =>
    (∀ t ∈ L.tag j, t ∉ L.taken) → (L.key j).ctrl = true → (L.key i).ctrl = true

section Order

variable {c : Bool}
variable {rest : List MsgSlot}

lemma Ordered.mem_sent (h : Ordered L) (ht : t ∈ L.taken) : t ∈ L.sent := by
  have hmem : t ∈ L.sent.filter (·.ctrl = t.ctrl) := by
    rw [← h.fifo t.ctrl]
    exact mem_append_left _ (mem_filter.2 ⟨ht, by simp⟩)
  exact mem_of_mem_filter hmem

lemma fresh_append (L : Ledger) (c : Bool) (l l' : List MsgSlot) :
    L.fresh c (l ++ l') = L.fresh c l ++ L.fresh c l' := by
  simp [Ledger.fresh, filterMap_append]

lemma fresh_congr {l : List MsgSlot} (htag : ∀ j ∈ l, L'.tag j = L.tag j)
    (htaken : L'.taken = L.taken) : L'.fresh c l = L.fresh c l := by
  have hmap : l.filterMap L'.tag = l.filterMap L.tag := filterMap_congr htag
  rw [Ledger.fresh, Ledger.fresh, hmap, htaken]

lemma Ordered.frame (h : Ordered L) (hwait : (L'.q .wait).items = (L.q .wait).items)
    (hold : ∀ k, k = .pend ∨ k = .held → ∀ j ∈ (L'.q k).items,
      ∃ k', (k' = .pend ∨ k' = .held) ∧ j ∈ (L.q k').items)
    (htag : ∀ j, InFlight L.q j → L'.tag j = L.tag j)
    (hkey : ∀ j ∈ (L.q .wait).items, L'.key j = L.key j) (hsent : L'.sent = L.sent)
    (htaken : L'.taken = L.taken) : Ordered L' := by
  have hflight : ∀ j ∈ (L.q .wait).items, InFlight L.q j := fun j hj => ⟨.wait, rfl, hj⟩
  refine ⟨fun k hk j hj t ht => ?_, fun c => ?_, ?_⟩
  · obtain ⟨k', hk', hj'⟩ := hold k hk j hj
    have hin : InFlight L.q j := by
      rcases hk' with rfl | rfl
      · exact ⟨.pend, rfl, hj'⟩
      · exact ⟨.held, rfl, hj'⟩
    rw [htag j hin] at ht
    rw [htaken]
    exact h.old k' hk' j hj' t ht
  · rw [hwait, htaken, hsent, fresh_congr (fun j hj => htag j (hflight j hj)) htaken]
    exact h.fifo c
  · rw [hwait, htaken]
    refine h.front.imp_of_mem fun {i j} hi hj hij => ?_
    rwa [htag j (hflight j hj), hkey j hj, hkey i hi]

lemma Accounts.ne_head (h : Accounts L) (hplaced : Placed (fun _ => True) L.q)
    (hwait : (L.q .wait).items = i :: rest) (htag : L.tag i = some t) :
    ∀ t' ∈ rest.filterMap L.tag, t' ≠ t := by
  rintro t' ht' rfl
  obtain ⟨j, hj, htag'⟩ := mem_filterMap.1 ht'
  have hslot := (h.of_tag ⟨.wait, rfl, by simp [hwait]⟩ htag).1
  have hslot' := (h.of_tag ⟨.wait, rfl, by simp [hwait, hj]⟩ htag').1
  have hnodup := hplaced.nodup .wait
  rw [hwait, nodup_cons] at hnodup
  exact hnodup.1 (hslot.symm.trans hslot' ▸ hj)

lemma Ordered.take (h : Ordered L) (hacc : Accounts L) (hplaced : Placed (fun _ => True) L.q)
    (hwait : (L.q .wait).items = i :: rest) : Ordered (apply L (.take i)) := by
  have hi : i ∈ (L.q .wait).items := by simp [hwait]
  obtain ⟨t, -, htag, -⟩ := hacc.tagged i ⟨.wait, rfl, hi⟩
  have hmoved := (puts_pushTail i).moved (k := .wait) hplaced (show MsgPlace.wait ≠ .held by decide)
  have hwait' : ((apply L (.take i)).q .wait).items = rest := by
    rw [show (apply L (.take i)).q .wait = (L.q .wait).erase i from hmoved.source]
    simp [hwait]
  have htaken : (apply L (.take i)).taken =
      if t ∈ L.taken then L.taken else L.taken ++ [t] := by
    by_cases hmem : t ∈ L.taken <;> simp [htag, hmem]
  have hmono : ∀ t' ∈ L.taken, t' ∈ (apply L (.take i)).taken := by
    intro t' ht'
    rw [htaken]
    split_ifs
    · exact ht'
    · exact mem_append_left _ ht'
  have hother := hacc.ne_head hplaced hwait htag
  refine ⟨fun k hk j hj t' ht' => ?_, fun c => ?_, ?_⟩
  · have hj' := (hmoved.mem_iff hplaced hi (by decide)).1 hj
    rcases hj' with ⟨rfl, -⟩ | ⟨-, hj'⟩
    · obtain rfl : t = t' := some.inj (htag.symm.trans ht')
      rw [htaken]
      split_ifs with hmem
      · exact hmem
      · simp
    · exact hmono t' (h.old k hk j hj' t' ht')
  · have hfresh : (apply L (.take i)).fresh c rest = L.fresh c rest := by
      refine filter_congr fun t' ht' => ?_
      rw [htaken]
      split_ifs
      · rfl
      · simp [hother t' ht']
    have hfifo := h.fifo c
    rw [hwait, ← singleton_append, fresh_append] at hfifo
    rw [hwait', hfresh, htaken]
    rw [show (apply L (.take i)).sent = L.sent from rfl, ← hfifo]
    by_cases hmem : t ∈ L.taken
    · simp [Ledger.fresh, htag, hmem]
    · by_cases hc : t.ctrl = c <;> simp [Ledger.fresh, htag, hmem, hc, filter_append]
  · rw [hwait']
    have hfront := h.front
    rw [hwait] at hfront
    refine (pairwise_cons.1 hfront).2.imp fun hij hfree => hij fun t' ht' hmem => ?_
    exact hfree t' ht' (hmono t' hmem)

lemma enqueue_split (key : MsgSlot → MsgKey) (first : Bool) (i : MsgSlot) (q : CntQueue MsgSlot) :
    ∃ l₁ l₂, q.items = l₁ ++ l₂ ∧ (enqueue key first i q).items = l₁ ++ i :: l₂ ∧
      (first = true → ∀ j ∈ l₁, (key j).ctrl = true) ∧
      (l₂ ≠ [] → first = true ∧ ∃ j rest, l₂ = j :: rest ∧ (key j).ctrl = false) := by
  obtain ⟨l₁, l₂, hq, hins, hbefore, hafter⟩ :=
    q.insertBefore_split (fun j => first && !(key j).ctrl) i
  refine ⟨l₁, l₂, hq, hins, fun hfirst j hj => ?_, fun hne => ?_⟩
  · simpa [hfirst] using hbefore j hj
  rcases l₂ with _ | ⟨j, rest⟩
  · exact absurd rfl hne
  · have hj := hafter j rfl
    rw [Bool.and_eq_true, Bool.not_eq_true'] at hj
    exact ⟨hj.1, j, rest, rfl, hj.2⟩

lemma Ordered.fresh_nil {j : MsgSlot} (h : Ordered L) (hacc : Accounts L)
    (hwait : (L.q .wait).items = l₁ ++ l₂) (hl₂ : l₂ = j :: rest) (hj : (L.key j).ctrl = false) :
    L.fresh true l₂ = [] := by
  have hfront := h.front
  rw [hwait, hl₂] at hfront
  have hrest := (pairwise_cons.1 (pairwise_append.1 hfront).2.1).1
  refine filter_eq_nil_iff.2 fun t ht hfresh => ?_
  obtain ⟨y, hy, htag⟩ := mem_filterMap.1 ht
  have hin : InFlight L.q y := ⟨.wait, rfl, by rw [hwait]; exact mem_append_right _ hy⟩
  simp at hfresh
  have hctrl : (L.key y).ctrl = true := by
    rw [(hacc.of_tag hin htag).2.1]
    exact hfresh.2
  rw [hl₂] at hy
  rcases mem_cons.1 hy with rfl | hy
  · rw [hj] at hctrl
    cases hctrl
  have hall : ∀ t' ∈ L.tag y, t' ∉ L.taken := by
    intro t'' ht''
    rw [mem_def, htag] at ht''
    rw [← some.inj ht'']
    exact hfresh.1
  rw [hrest y hy hall hctrl] at hj
  cases hj

lemma pairwise_insert {R : MsgSlot → MsgSlot → Prop} (h : (l₁ ++ l₂).Pairwise R)
    (hbefore : ∀ j ∈ l₁, R j i) (hafter : ∀ j ∈ l₂, R i j) : (l₁ ++ i :: l₂).Pairwise R := by
  obtain ⟨h₁, h₂, h₁₂⟩ := pairwise_append.1 h
  refine pairwise_append.2 ⟨h₁, pairwise_cons.2 ⟨hafter, h₂⟩, fun a ha => ?_⟩
  exact forall_mem_cons.2 ⟨hbefore a ha, h₁₂ a ha⟩

structure Enqueues (L L' : Ledger) (i : MsgSlot) (first : Bool) (l₁ l₂ : List MsgSlot) :
    Prop where
  wait : (L.q .wait).items = l₁ ++ l₂
  wait' : (L'.q .wait).items = l₁ ++ i :: l₂
  before : first = true → ∀ j ∈ l₁, (L.key j).ctrl = true
  after : l₂ ≠ [] → first = true ∧ ∃ j rest, l₂ = j :: rest ∧ (L.key j).ctrl = false
  others : ∀ k, k = .pend ∨ k = .held → ∀ j ∈ (L'.q k).items, j ≠ i ∧ j ∈ (L.q k).items
  ne : ∀ j ∈ (L.q .wait).items, j ≠ i
  tag : ∀ j, j ≠ i → L'.tag j = L.tag j
  key : ∀ j, j ≠ i → L'.key j = L.key j
  taken : L'.taken = L.taken

section

variable (hplaced : Placed (fun _ => True) L.q)
include hplaced

lemma enqueues_of_shift {k : MsgPlace} (hi : i ∈ (L.q k).items) (hk : k ≠ .wait)
    (hq : L'.q = shift L.q i k .wait (enqueue L'.key first i))
    (htag : ∀ j, j ≠ i → L'.tag j = L.tag j) (hkey : ∀ j, j ≠ i → L'.key j = L.key j)
    (htaken : L'.taken = L.taken) : ∃ l₁ l₂, Enqueues L L' i first l₁ l₂ := by
  have hmoved := (puts_enqueue L'.key first i).moved (k := k) hplaced hk
  obtain ⟨l₁, l₂, hwait, hwait', hbefore, hafter⟩ := enqueue_split L'.key first i (L.q .wait)
  have hne : ∀ j ∈ (L.q .wait).items, j ≠ i := by
    rintro j hj rfl
    exact hk (hplaced.unique hi hj)
  have hctrl : ∀ j ∈ l₁ ++ l₂, L'.key j = L.key j := fun j hj => hkey j (hne j (hwait ▸ hj))
  refine ⟨l₁, l₂, hwait, ?_, fun hfirst j hj => ?_, fun hl => ?_, fun k' hk' j hj => ?_, hne, htag,
    hkey, htaken⟩
  · rw [hq, shift_target, hwait']
  · rw [← hctrl j (mem_append_left _ hj)]
    exact hbefore hfirst j hj
  · obtain ⟨hfirst, j, rest, rfl, hj⟩ := hafter hl
    rw [hctrl j (by simp)] at hj
    exact ⟨hfirst, j, rest, rfl, hj⟩
  · rw [hq] at hj
    rcases (hmoved.mem_iff hplaced hi hk).1 hj with ⟨-, rfl⟩ | hj'
    · rcases hk' with hk' | hk' <;> cases hk'
    · exact hj'

lemma enqueues_accept (hi : i ∈ (L.q .sending).items)
    (t : MsgTag) : ∃ l₁ l₂, Enqueues L (apply L (.accept i t)) i t.ctrl l₁ l₂ :=
  enqueues_of_shift hplaced hi (by decide) rfl (fun j hj => update_of_ne hj _ _)
    (fun j hj => update_of_ne hj _ _) rfl

lemma enqueues_resume (hi : i ∈ (L.q .held).items)
    (first : Bool) : ∃ l₁ l₂, Enqueues L (apply L (.resume i first)) i first l₁ l₂ :=
  enqueues_of_shift hplaced hi (by decide) rfl (fun _ _ => rfl) (fun _ _ => rfl) rfl

end

lemma Enqueues.fresh (he : Enqueues L L' i first l₁ l₂) (c : Bool) : L'.fresh c (L'.q .wait).items
      = L.fresh c l₁ ++ (L'.fresh c [i] ++ L.fresh c l₂) := by
  have htag : ∀ j ∈ l₁ ++ l₂, L'.tag j = L.tag j := fun j hj => he.tag j (he.ne j (he.wait ▸ hj))
  rw [he.wait', ← singleton_append, fresh_append, fresh_append,
    fresh_congr (fun j hj => htag j (mem_append_left _ hj)) he.taken,
    fresh_congr (fun j hj => htag j (mem_append_right _ hj)) he.taken]

/-- Only a controller's goes before others, and only one not fresh or not a controller's to the end.
-/
lemma Enqueues.ordered (he : Enqueues L L' i first l₁ l₂) (h : Ordered L)
    (hfifo : ∀ c, L.taken.filter (·.ctrl = c) ++ (L.fresh c l₁ ++
      (L'.fresh c [i] ++ L.fresh c l₂)) = L'.sent.filter (·.ctrl = c))
    (hbefore : (∀ t ∈ L'.tag i, t ∉ L.taken) → (L'.key i).ctrl = true → first = true)
    (hafter : first = true → (L'.key i).ctrl = true) : Ordered L' := by
  refine ⟨fun k hk j hj t' ht' => ?_, fun c => ?_, ?_⟩
  · obtain ⟨hji, hj'⟩ := he.others k hk j hj
    rw [he.tag j hji] at ht'
    rw [he.taken]
    exact h.old k hk j hj' t' ht'
  · rw [he.taken, he.fresh, hfifo]
  · rw [he.wait', he.taken]
    have hfront : (l₁ ++ l₂).Pairwise fun a b => (∀ t' ∈ L'.tag b, t' ∉ L.taken) →
        (L'.key b).ctrl = true → (L'.key a).ctrl = true := by
      rw [← he.wait]
      refine h.front.imp_of_mem fun {a b} ha hb hab => ?_
      rwa [he.tag b (he.ne b hb), he.key b (he.ne b hb), he.key a (he.ne a ha)]
    refine pairwise_insert hfront (fun j hj hfree hctrl => ?_) fun j hj _ _ => ?_
    · rw [he.key j (he.ne j (he.wait ▸ mem_append_left _ hj))]
      exact he.before (hbefore hfree hctrl) j hj
    · exact hafter (he.after (ne_nil_of_mem hj)).1

section

variable (h : Ordered L) (hacc : Accounts L) (hplaced : Placed (fun _ => True) L.q)
include h hacc hplaced

lemma Ordered.accept (hen : Enabled L (.accept i t)) :
    Ordered (apply L (.accept i t)) := by
  obtain ⟨hi, hno, hslot⟩ := hen
  have hnew : t ∉ L.taken := fun hmem => hacc.notMem_of_no hno (h.mem_sent hmem)
  have hkey : (apply L (.accept i t)).key i = ⟨t.completion, t.ctrl⟩ := update_self _ _ _
  have hsent : (apply L (.accept i t)).sent = L.sent ++ [t] := rfl
  obtain ⟨l₁, l₂, he⟩ := enqueues_accept hplaced hi t
  refine he.ordered h (fun c => ?_) (fun _ hctrl => ?_) fun hctrl => ?_
  · have hi' : (apply L (.accept i t)).fresh c [i] = if t.ctrl = c then [t] else [] := by
      by_cases hc : t.ctrl = c <;> simp [Ledger.fresh, hnew, hc]
    have hfifo := h.fifo c
    rw [he.wait, fresh_append] at hfifo
    rw [hsent, filter_append, ← hfifo, hi']
    by_cases hc : t.ctrl = c
    · -- no fresh message of the class is behind the new one
      have hnil : L.fresh c l₂ = [] := by
        by_cases hl : l₂ = []
        · rw [hl]
          rfl
        · obtain ⟨hctrl, j, rest, hl₂, hj⟩ := he.after hl
          rw [← hc, hctrl]
          exact h.fresh_nil hacc he.wait hl₂ hj
      simp [hnil, hc]
    · simp [hc]
  · rwa [hkey] at hctrl
  · rwa [hkey]

lemma Ordered.resume (hen : Enabled L (.resume i first)) :
    Ordered (apply L (.resume i first)) := by
  obtain ⟨hi, hfirst⟩ := hen
  have hold : ∀ t ∈ L.tag i, t ∈ L.taken := h.old .held (.inr rfl) i hi
  obtain ⟨l₁, l₂, he⟩ := enqueues_resume hplaced hi first
  refine he.ordered h (fun c => ?_) (fun hfree _ => ?_) hfirst
  · have hi' : (apply L (.resume i first)).fresh c [i] = [] := by
      show L.fresh c [i] = []
      rcases htag : L.tag i with _ | t
      · simp [Ledger.fresh, htag]
      · simp [Ledger.fresh, htag, hold t htag]
    have hfifo := h.fifo c
    rw [he.wait, fresh_append] at hfifo
    rwa [hi', nil_append]
  · -- a resumed message is not fresh
    obtain ⟨t, -, htag, -, -, -⟩ := hacc.tagged i ⟨.held, rfl, hi⟩
    exact absurd (hold t htag) (hfree t htag)

end

end Order

structure LedgerInv (L : Ledger) : Prop where
  placed : Placed (fun _ => True) L.q
  accounts : Accounts L
  ordered : Ordered L
  untagged : ∀ i ∈ (L.q .sending).items, L.tag i = none

section Op

section

variable (hput : Puts put i) (h : LedgerInv L) (k k' : MsgPlace) (hi : i ∈ (L.q k).items)
  (hne : k ≠ k') (hq : L'.q = shift L.q i k k' put) (hsent : L'.sent = L.sent)
include hput h hi hne

lemma LedgerInv.shift_untagged (hk' : k' ≠ .sending) :
    ∀ j ∈ (shift L.q i k k' put .sending).items, j ≠ i ∧ L.tag j = none := by
  intro j hj
  rcases ((hput.moved h.placed hne).mem_iff h.placed hi hne).1 hj with ⟨-, hk⟩ | ⟨hji, hj⟩
  · exact absurd hk.symm hk'
  · exact ⟨hji, h.untagged j hj⟩

include hq hsent

lemma LedgerInv.shift_ordered (hwait : k ≠ .wait ∧ k' ≠ .wait)
    (hkind : k'.inFlight = true → k.inFlight = true) (hkey : ∀ j, j ≠ i → L'.key j = L.key j)
    (htag : ∀ j, InFlight L.q j → L'.tag j = L.tag j) (htaken : L'.taken = L.taken) :
    Ordered L' := by
  have hmem := fun l j => (hput.moved h.placed hne).mem_iff (y := j) h.placed hi hne (j := l)
  refine h.ordered.frame ?_ (fun l hl j hj => ?_) htag (fun j hj => hkey j ?_) hsent htaken
  · rw [hq, shift_other hwait.1.symm hwait.2.symm]
  · rw [hq, hmem] at hj
    rcases hj with ⟨rfl, rfl⟩ | ⟨-, hj⟩
    · have hin : k.inFlight = true := hkind (by rcases hl with rfl | rfl <;> rfl)
      refine ⟨k, ?_, hi⟩
      cases k with
      | pend => exact .inl rfl
      | held => exact .inr rfl
      | wait => exact absurd rfl hwait.1
      | idle | sending => cases hin
    · exact ⟨l, hl, hj⟩
  · rintro rfl
    exact hwait.1 (h.placed.unique hi hj)

lemma LedgerInv.shift_blank (hk : k.inFlight = false) (hk' : k'.inFlight = false)
    (hkey : ∀ j, j ≠ i → L'.key j = L.key j) (htag : ∀ j, j ≠ i → L'.tag j = L.tag j)
    (htaken : L'.taken = L.taken) (hcompleted : L'.completed = L.completed) :
    Placed (fun _ => True) L'.q ∧ Accounts L' ∧ Ordered L' := by
  have hidle : ∀ j, InFlight L.q j → j ≠ i := by
    rintro j hj rfl
    rw [inFlight_iff h.placed hi, hk] at hj
    cases hj
  have hwait : k ≠ .wait ∧ k' ≠ .wait := by
    constructor
    · rintro rfl
      cases hk
    · rintro rfl
      cases hk'
  have hsame := inFlight_same hput h.placed hi hne (hk.trans hk'.symm)
  refine ⟨hq ▸ hput.placed h.placed hi hne, ?_, ?_⟩
  · exact h.accounts.frame (hq ▸ hsame) (fun j hj => hkey j (hidle j hj))
      (fun j hj => htag j (hidle j hj)) hsent hcompleted
  · exact h.shift_ordered hput k k' hi hne hq hsent hwait (by simp [hk']) hkey
      (fun j hj => htag j (hidle j hj)) htaken

lemma LedgerInv.shift_accounts (hkind : k.inFlight = k'.inFlight) (hkey : L'.key = L.key)
    (htag : L'.tag = L.tag) (hcompleted : L'.completed = L.completed) : Accounts L' :=
  h.accounts.frame (hq ▸ inFlight_same hput h.placed hi hne hkind) (fun _ _ => by rw [hkey])
    (fun _ _ => by rw [htag]) hsent hcompleted

end

section

variable (h : LedgerInv L)
include h

lemma LedgerInv.alloc (hi : i ∈ (L.q .idle).items) :
    LedgerInv (apply L (.alloc i k)) := by
  have hput := puts_pushTail i
  obtain ⟨hplaced, hacc, hord⟩ :=
    h.shift_blank hput .idle .sending hi (by decide)
      (rfl : (apply L (.alloc i k)).q = _) rfl rfl rfl
      (fun j hj => update_of_ne hj _ _) (fun j hj => update_of_ne hj _ _) rfl rfl
  refine ⟨hplaced, hacc, hord, fun j hj => ?_⟩
  rcases ((hput.moved h.placed (by decide)).mem_iff h.placed hi (by decide)).1 hj with
    ⟨rfl, -⟩ | ⟨hji, hj⟩
  · exact update_self _ _ _
  · exact (update_of_ne hji _ _).trans (h.untagged j hj)

lemma LedgerInv.refuse (hi : i ∈ (L.q .sending).items) :
    LedgerInv (apply L (.refuse i k)) := by
  have hput := puts_pushTail i
  obtain ⟨hplaced, hacc, hord⟩ :=
    h.shift_blank hput .sending .idle hi (by decide)
      (rfl : (apply L (.refuse i k)).q = _) rfl rfl rfl
      (fun j hj => update_of_ne hj _ _) (fun _ _ => rfl) rfl rfl
  exact ⟨hplaced, hacc, hord,
    fun j hj => (h.shift_untagged hput .sending .idle hi (by decide) (by decide) j hj).2⟩

lemma LedgerInv.accept (hen : Enabled L (.accept i t)) :
    LedgerInv (apply L (.accept i t)) := by
  have hput := puts_enqueue (update L.key i ⟨t.completion, t.ctrl⟩) t.ctrl i
  refine ⟨hput.placed h.placed hen.1 (by decide), h.accounts.accept h.placed hen,
    h.ordered.accept h.accounts h.placed hen, fun j hj => ?_⟩
  obtain ⟨hji, htag⟩ := h.shift_untagged hput .sending .wait hen.1 (by decide) (by decide) j hj
  exact (update_of_ne hji _ _).trans htag

lemma LedgerInv.take (hen : Enabled L (.take i)) :
    LedgerInv (apply L (.take i)) := by
  obtain ⟨rest, hwait⟩ := head?_eq_some_iff.1 hen
  have hi : i ∈ (L.q .wait).items := by simp [hwait]
  have hput := puts_pushTail i
  exact ⟨hput.placed h.placed hi (by decide),
    h.shift_accounts hput .wait .held hi (by decide) rfl rfl rfl rfl rfl rfl,
    h.ordered.take h.accounts h.placed hwait,
    fun j hj => (h.shift_untagged hput .wait .held hi (by decide) (by decide) j hj).2⟩

lemma LedgerInv.complete (hi : i ∈ (L.q .held).items) :
    LedgerInv (apply L (.complete i k)) := by
  have hput := puts_pushTail i
  exact ⟨hput.placed h.placed hi (by decide), h.accounts.complete h.placed hi,
    h.shift_ordered hput .held .idle hi (by decide) rfl rfl (by decide) (fun _ => rfl)
      (fun j hj => update_of_ne hj _ _) (fun _ _ => rfl) rfl,
    fun j hj => (h.shift_untagged hput .held .idle hi (by decide) (by decide) j hj).2⟩

lemma LedgerInv.between {k k' : MsgPlace} (hi : i ∈ (L.q k).items)
    (hne : k ≠ k') (hwait : k ≠ .wait ∧ k' ≠ .wait) (hkind : k.inFlight = k'.inFlight)
    (hk' : k' ≠ .sending) : LedgerInv { L with q := shift L.q i k k' (·.pushTail i) } := by
  have hput := puts_pushTail i
  exact ⟨hput.placed h.placed hi hne, h.shift_accounts hput k k' hi hne rfl rfl hkind rfl rfl rfl,
    h.shift_ordered hput k k' hi hne rfl rfl hwait hkind.trans (fun _ _ => rfl) (fun _ _ => rfl)
      rfl,
    fun j hj => (h.shift_untagged hput k k' hi hne hk' j hj).2⟩

lemma LedgerInv.pend (hi : i ∈ (L.q .held).items) : LedgerInv (apply L (.pend i)) :=
  h.between hi (by decide) (by decide) rfl (by decide)

lemma LedgerInv.resume (hen : Enabled L (.resume i first)) :
    LedgerInv (apply L (.resume i first)) := by
  have hput := puts_enqueue L.key first i
  exact ⟨hput.placed h.placed hen.1 (by decide),
    h.shift_accounts hput .held .wait hen.1 (by decide) rfl rfl rfl rfl rfl rfl,
    h.ordered.resume h.accounts h.placed hen,
    fun j hj => (h.shift_untagged hput .held .wait hen.1 (by decide) (by decide) j hj).2⟩

lemma LedgerInv.apply {op : LedgerOp} (hen : op.Enabled L) : LedgerInv (op.apply L) := by
  cases op with
  | alloc => exact h.alloc hen
  | refuse => exact h.refuse hen
  | accept => exact h.accept hen
  | take => exact h.take hen
  | complete => exact h.complete hen
  | pend => exact h.pend hen
  | unpend => exact h.between hen (by decide) (by decide) rfl (by decide)
  | resume => exact h.resume hen

end

def CtrlFirst (L : Ledger) : Prop :=
  (L.q .wait).items.Pairwise fun i j => (L.key j).ctrl = true → (L.key i).ctrl = true

def LedgerOp.Orderly (L : Ledger) : LedgerOp → Prop
  | .resume i first =>
    first = true ∨ (L.key i).ctrl = false ∨ ∀ j ∈ (L.q .wait).items, (L.key j).ctrl = true
  | _ => True

lemma CtrlFirst.frame (h : CtrlFirst L) (hwait : (L'.q .wait).items.Sublist (L.q .wait).items)
    (hkey : ∀ j ∈ (L.q .wait).items, L'.key j = L.key j) : CtrlFirst L' := by
  refine (h.sublist hwait).imp_of_mem fun {i j} hi hj hij => ?_
  rwa [hkey i (hwait.subset hi), hkey j (hwait.subset hj)]

lemma CtrlFirst.elsewhere (h : CtrlFirst L) (hinv : LedgerInv L) (k : MsgPlace)
    (hi : i ∈ (L.q k).items) (hk : k ≠ .wait) (hq : L'.q .wait = L.q .wait)
    (hkey : ∀ j, j ≠ i → L'.key j = L.key j) : CtrlFirst L' := by
  refine h.frame ?_ fun j hj => hkey j ?_
  · rw [hq]
  · rintro rfl
    exact hk (hinv.placed.unique hi hj)

lemma Enqueues.ctrlFirst (he : Enqueues L L' i first l₁ l₂) (h : CtrlFirst L)
    (hbefore : (L'.key i).ctrl = true → first = true ∨
      ∀ j ∈ (L.q .wait).items, (L.key j).ctrl = true)
    (hafter : first = true → (L'.key i).ctrl = true) : CtrlFirst L' := by
  have hold : (l₁ ++ l₂).Pairwise fun a b =>
      (L'.key b).ctrl = true → (L'.key a).ctrl = true := by
    rw [← he.wait]
    refine h.imp_of_mem fun {a b} ha hb hab => ?_
    rwa [he.key a (he.ne a ha), he.key b (he.ne b hb)]
  rw [CtrlFirst, he.wait']
  refine pairwise_insert hold (fun j hj hctrl => ?_) fun j hj _ => ?_
  · have hmem : j ∈ (L.q .wait).items := he.wait ▸ mem_append_left _ hj
    rw [he.key j (he.ne j hmem)]
    rcases hbefore hctrl with hfirst | hall
    · exact he.before hfirst j hj
    · exact hall j hmem
  · exact hafter (he.after (ne_nil_of_mem hj)).1

section

variable (h : CtrlFirst L) (hinv : LedgerInv L)
include h hinv

lemma CtrlFirst.accept
    (hen : Enabled L (.accept i t)) : CtrlFirst (apply L (.accept i t)) := by
  have hkey : (apply L (.accept i t)).key i = ⟨t.completion, t.ctrl⟩ := update_self _ _ _
  obtain ⟨l₁, l₂, he⟩ := enqueues_accept hinv.placed hen.1 t
  refine he.ctrlFirst h (fun hctrl => .inl ?_) fun hctrl => ?_
  · rwa [hkey] at hctrl
  · rwa [hkey]

lemma CtrlFirst.resume
    (hen : Enabled L (.resume i first)) (hord : Orderly L (.resume i first)) :
    CtrlFirst (apply L (.resume i first)) := by
  obtain ⟨l₁, l₂, he⟩ := enqueues_resume hinv.placed hen.1 first
  refine he.ctrlFirst h (fun hctrl => ?_) hen.2
  rcases hord with hfirst | hmdl | hall
  · exact .inl hfirst
  · exact absurd (hmdl.symm.trans hctrl) (by simp)
  · exact .inr hall

lemma CtrlFirst.apply {op : LedgerOp}
    (hen : op.Enabled L) (hord : op.Orderly L) : CtrlFirst (op.apply L) := by
  cases op with
  | alloc i k =>
    exact h.elsewhere hinv .idle hen (by decide) rfl fun j hj => update_of_ne hj _ _
  | refuse i k =>
    exact h.elsewhere hinv .sending hen (by decide) rfl fun j hj => update_of_ne hj _ _
  | accept i t => exact h.accept hinv hen
  | take i =>
    refine h.frame ?_ fun _ _ => rfl
    exact erase_sublist
  | complete i k =>
    exact h.elsewhere hinv .held hen (by decide) rfl fun j hj => update_of_ne hj _ _
  | pend i =>
    exact h.elsewhere hinv .held hen (by decide) rfl fun _ _ => rfl
  | unpend i =>
    exact h.elsewhere hinv .pend hen (by decide) rfl fun _ _ => rfl
  | resume i first => exact h.resume hinv hen hord

end

end Op

end Rtl8852be

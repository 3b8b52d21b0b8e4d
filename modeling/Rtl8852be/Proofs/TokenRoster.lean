import Rtl8852be.TokenReq
import Rtl8852be.Lib.Places

/-!
# The roster of the requests

What the queues of requests are for: each slot is in one place, a request is numbered when it is
accepted, and it is told once that it is over before its slot is given back.
-/

namespace Rtl8852be

open Places Function List

inductive ReqPlace where
  | idle
  | wait
  | current
  | adding
  | held
  deriving DecidableEq

def ReqPlace.live : ReqPlace → Bool
  | .wait | .current | .held => true
  | .idle | .adding => false

@[ext]
structure Roster where
  q : ReqPlace → CntQueue ReqSlot
  accepted : ℕ
  inst : ReqSlot → ℕ
  told : Option ReqSlot
  ended : List (ℕ × TokenEnd)

inductive RosterOp where
  | alloc (i : ReqSlot)
  | accept (i : ReqSlot)
  | move (i : ReqSlot) (k k' : ReqPlace)
  | tell (i : ReqSlot) (e : TokenEnd)
  | close (i : ReqSlot) (k : ReqPlace)

@[simp] def RosterOp.apply (R : Roster) : RosterOp → Roster
  | .alloc i => { R with q := shift R.q i .idle .adding (·.pushTail i) }
  | .accept i =>
    { R with
      q := shift R.q i .adding .wait (·.pushTail i)
      accepted := R.accepted + 1
      inst := update R.inst i R.accepted }
  | .move i k k' => { R with q := shift R.q i k k' (·.pushTail i) }
  | .tell i e => { R with told := some i, ended := R.ended ++ [(R.inst i, e)] }
  | .close i k => { R with q := shift R.q i k .idle (·.pushTail i), told := none }

def Roster.Live (R : Roster) (i : ReqSlot) : Prop := Among ReqPlace.live R.q i

def Roster.ends (R : Roster) (n : ℕ) : ℕ := (R.ended.map Prod.fst).count n

def RosterOp.Enabled (R : Roster) : RosterOp → Prop
  | .alloc i => i ∈ (R.q .idle).items
  | .accept i => i ∈ (R.q .adding).items
  | .move i k k' => i ∈ (R.q k).items ∧ k ≠ k' ∧ k.live = true ∧ k'.live = true
  | .tell i _ => R.Live i ∧ R.told = none
  | .close i k => i ∈ (R.q k).items ∧ k.live = true ∧ R.told = some i

/-- The requests in live places have numbers of their own and have not been told that they are over,
except the one that is being closed; all others have, once. -/
structure RosterInv (R : Roster) : Prop where
  placed : Placed (fun _ => True) R.q
  told_live : ∀ i, R.told = some i → R.Live i
  known : ∀ p ∈ R.ended, p.1 < R.accepted
  inst_lt : ∀ i, R.Live i → R.inst i < R.accepted
  inst_inj : ∀ i j, R.Live i → R.Live j → R.inst i = R.inst j → i = j
  ends_live : ∀ i, R.Live i → R.ends (R.inst i) = if R.told = some i then 1 else 0
  ends_gone : ∀ n < R.accepted, (∀ i, R.Live i → R.inst i ≠ n) → R.ends n = 1

section RosterInv

variable {R R' : Roster} {i : ReqSlot} {k k' : ReqPlace}

lemma Roster.ends_eq_zero {n : ℕ} (h : ∀ p ∈ R.ended, p.1 ≠ n) : R.ends n = 0 := by
  refine count_eq_zero.2 fun hn => ?_
  obtain ⟨p, hp, rfl⟩ := mem_map.1 hn
  exact h p hp rfl

section

variable (h : RosterInv R)
include h

lemma RosterInv.move (hi : i ∈ (R.q k).items) (hne : k ≠ k') (hkind : k.live = k'.live) :
    RosterInv { R with q := shift R.q i k k' (·.pushTail i) } := by
  have hput := puts_pushTail i
  have hlive := hput.among_same (p := ReqPlace.live) h.placed hi hne hkind
  refine ⟨hput.placed h.placed hi hne, ?_, h.known, ?_, ?_, ?_, ?_⟩
  · exact fun j hj => (hlive j).2 (h.told_live j hj)
  · exact fun j hj => h.inst_lt j ((hlive j).1 hj)
  · exact fun j j' hj hj' => h.inst_inj j j' ((hlive j).1 hj) ((hlive j').1 hj')
  · exact fun j hj => h.ends_live j ((hlive j).1 hj)
  · exact fun n hn hno => h.ends_gone n hn fun j hj => hno j ((hlive j).2 hj)

lemma RosterInv.accept (hi : i ∈ (R.q .adding).items) :
    RosterInv (RosterOp.apply R (.accept i)) := by
  have hput := puts_pushTail i
  have hne : ReqPlace.adding ≠ .wait := nofun
  set R' := RosterOp.apply R (.accept i) with hR'
  have hnew : R'.Live i := (hput.among_target h.placed hi hne).2 rfl
  have hother : ∀ j, j ≠ i → (R'.Live j ↔ R.Live j) :=
    fun j hj => hput.among_of_ne h.placed hi hne hj
  have hold : ∀ j, R.Live j → j ≠ i := by
    rintro j hj rfl
    exact nomatch (h.placed.among_iff hi).1 hj
  have hself : R'.inst i = R.accepted := update_self _ _ _
  have hinst : ∀ j, j ≠ i → R'.inst j = R.inst j := fun j hj => update_of_ne hj _ _
  -- a slot is the new one, or it is live as before with its old number
  have hcases : ∀ j, R'.Live j → j = i ∨ (R.Live j ∧ R'.inst j = R.inst j) := by
    intro j hj
    by_cases hji : j = i
    · exact .inl hji
    · exact .inr ⟨(hother j hji).1 hj, hinst j hji⟩
  have htold : R'.told ≠ some i := fun ht => hold i (h.told_live i ht) rfl
  refine ⟨hput.placed h.placed hi hne, ?_, ?_, ?_, ?_, ?_, ?_⟩
  · intro j hj
    have hlive := h.told_live j hj
    exact (hother j (hold j hlive)).2 hlive
  · exact fun p hp => Nat.lt_succ_of_lt (h.known p hp)
  · intro j hj
    rcases hcases j hj with rfl | ⟨hlive, heq⟩
    · rw [hself]
      exact Nat.lt_succ_self _
    · rw [heq]
      exact Nat.lt_succ_of_lt (h.inst_lt j hlive)
  · intro j j' hj hj' heq
    rcases hcases j hj with rfl | ⟨hlive, hj⟩ <;> rcases hcases j' hj' with rfl | ⟨hlive', hj'⟩
    · rfl
    · rw [hself, hj'] at heq
      exact absurd heq.symm (h.inst_lt j' hlive').ne
    · rw [hself, hj] at heq
      exact absurd heq (h.inst_lt j hlive).ne
    · exact h.inst_inj j j' hlive hlive' (hj ▸ hj' ▸ heq)
  · intro j hj
    rcases hcases j hj with rfl | ⟨hlive, heq⟩
    · rw [hself, if_neg htold]
      exact Roster.ends_eq_zero fun p hp => (h.known p hp).ne
    · rw [heq]
      exact h.ends_live j hlive
  · intro n hn hno
    have hne : n ≠ R.accepted := fun heq => hno i hnew (hself.trans heq.symm)
    refine h.ends_gone n (by have : n < R.accepted + 1 := hn; omega) fun j hj => ?_
    have hji := hold j hj
    rw [← hinst j hji]
    exact hno j ((hother j hji).2 hj)

lemma RosterInv.tell {e : TokenEnd} (hi : R.Live i) (htold : R.told = none) :
    RosterInv (RosterOp.apply R (.tell i e)) := by
  have hends : ∀ n, (RosterOp.apply R (.tell i e)).ends n =
      R.ends n + if R.inst i = n then 1 else 0 := by
    intro n
    simp [Roster.ends, count_singleton]
  refine ⟨h.placed, ?_, ?_, h.inst_lt, h.inst_inj, ?_, ?_⟩
  · intro j hj
    cases hj
    exact hi
  · exact forall_mem_append.2 ⟨h.known, forall_mem_singleton.2 (h.inst_lt i hi)⟩
  · intro j hj
    rw [hends]
    have hold : R.ends (R.inst j) = 0 := by
      rw [h.ends_live j hj, htold]
      rfl
    by_cases hij : i = j
    · subst hij
      simp [hold]
    · have hne : R.inst i ≠ R.inst j := fun heq => hij (h.inst_inj i j hi hj heq)
      simp [hold, hij, hne]
  · intro n hn hno
    have hni : R.inst i ≠ n := hno i hi
    rw [hends, if_neg hni]
    exact h.ends_gone n hn hno

lemma RosterInv.close (hi : i ∈ (R.q k).items) (hk : k.live = true)
    (htold : R.told = some i) : RosterInv (RosterOp.apply R (.close i k)) := by
  have hput := puts_pushTail i
  have hne : k ≠ .idle := by
    rintro rfl
    cases hk
  have hgone : ¬ (RosterOp.apply R (.close i k)).Live i := by
    intro hlive
    exact nomatch (hput.among_target h.placed hi hne).1 hlive
  have hlive : ∀ j, (RosterOp.apply R (.close i k)).Live j → j ≠ i ∧ R.Live j := by
    intro j hj
    have hji : j ≠ i := by
      rintro rfl
      exact hgone hj
    exact ⟨hji, (hput.among_of_ne h.placed hi hne hji).1 hj⟩
  refine ⟨hput.placed h.placed hi hne, nofun, h.known, ?_, ?_, ?_, ?_⟩
  · exact fun j hj => h.inst_lt j (hlive j hj).2
  · exact fun j j' hj hj' => h.inst_inj j j' (hlive j hj).2 (hlive j' hj').2
  · intro j hj
    obtain ⟨hji, hj⟩ := hlive j hj
    have hends := h.ends_live j hj
    rwa [htold, if_neg fun heq => hji (Option.some.inj heq).symm] at hends
  · intro n hn hno
    by_cases hni : R.inst i = n
    · have hends := h.ends_live i (h.told_live i htold)
      rwa [if_pos htold, hni] at hends
    · refine h.ends_gone n hn fun j hj => ?_
      by_cases hji : j = i
      · rwa [hji]
      · exact hno j ((hput.among_of_ne h.placed hi hne hji).2 hj)

lemma RosterInv.apply {op : RosterOp} (hen : op.Enabled R) : RosterInv (op.apply R) := by
  cases op with
  | alloc i => exact h.move hen nofun rfl
  | accept i => exact h.accept hen
  | move i k k' =>
    obtain ⟨hi, hne, hk, hk'⟩ := hen
    exact h.move hi hne (hk.trans hk'.symm)
  | tell i e => exact h.tell hen.1 hen.2
  | close i k => exact h.close hen.1 hen.2.1 hen.2.2

end

end RosterInv

inductive RosterOps : Roster → Roster → Prop where
  | refl (R : Roster) : RosterOps R R
  | op {R R' : Roster} (o : RosterOp) (hen : o.Enabled R) (htail : RosterOps (o.apply R) R') :
    RosterOps R R'

lemma RosterOps.inv {R R' : Roster} (hops : RosterOps R R') (h : RosterInv R) : RosterInv R' := by
  induction hops with
  | refl => exact h
  | op o hen _ ih => exact ih (h.apply hen)

end Rtl8852be

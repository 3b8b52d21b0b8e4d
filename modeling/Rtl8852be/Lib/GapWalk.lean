import Rtl8852be.Lib.Slots

/-!
# Releasing items in order

A walk from the front releases the items in order and passes over the gaps, but an item right behind
a gap must be due.
-/

namespace GapWalk

open Slots List

variable {σ : Type*} {v w : ℕ → Option σ} {due : ℕ → Bool} {B n : ℕ}

def held (v : ℕ → Option σ) (B : ℕ) : List ℕ := (range B).filter fun k => (v k).isSome

def behindGap (v : ℕ → Option σ) (k : ℕ) : Bool := k != 0 && (v (k - 1)).isNone

/-- The longest prefix of the items in which each one behind a gap is due. -/
def released (v : ℕ → Option σ) (due : ℕ → Bool) (B : ℕ) : List ℕ :=
  (held v B).takeWhile fun k => !behindGap v k || due k

def upTo (l : List ℕ) : ℕ := (l.getLast?.map (· + 1)).getD 0

structure StopsAt (v : ℕ → Option σ) (due : ℕ → Bool) (B n : ℕ) : Prop where
  le : n ≤ B
  last : 0 < n → v (n - 1) ≠ none
  passed : ∀ k < n, v k ≠ none → behindGap v k = true → due k = true
  next : ∀ k, n ≤ k → k < B → v k ≠ none → (∀ j, n ≤ j → j < k → v j = none) → n < k ∧ due k = false

lemma mem_held {k : ℕ} : k ∈ held v B ↔ k < B ∧ v k ≠ none := by
  simp [held, Option.isSome_iff_ne_none]

lemma held_add (v : ℕ → Option σ) (n m : ℕ) :
    held v (n + m) = held v n ++ ((range m).map (n + ·)).filter fun k => (v k).isSome := by
  rw [held, range_add, filter_append]
  rfl

lemma filterMap_held (v : ℕ → Option σ) (B : ℕ) : (held v B).filterMap v = occupied B v := by
  rw [held, occupied, filterMap_filter]
  refine filterMap_congr fun k _ => ?_
  cases v k <;> simp

lemma upTo_held (hlast : 0 < n → v (n - 1) ≠ none) : upTo (held v n) = n := by
  cases n with
  | zero => rfl
  | succ n =>
    have hsome : (v n).isSome := Option.isSome_iff_ne_none.2 (hlast n.succ_pos)
    simp [upTo, held_add v n 1, hsome]

lemma behindGap_of_first {k : ℕ} (hlt : n < k) (hfirst : ∀ j, n ≤ j → j < k → v j = none) :
    behindGap v k = true := by
  simp [behindGap, hfirst (k - 1) (by omega) (by omega)]
  omega

section

variable (h : StopsAt v due B n)
include h

lemma StopsAt.released_eq : released v due B = held v n := by
  obtain ⟨m, rfl⟩ := Nat.exists_eq_add_of_le h.le
  rw [released, held_add, takeWhile_append_of_pos fun k hk => ?_]
  · rcases hrest : ((range m).map (n + ·)).filter fun k => (v k).isSome with _ | ⟨k, rest⟩
    · simp
    · -- `k` is the first item from `n` on
      have hsorted : (k :: rest).Pairwise (· < ·) := by
        rw [← hrest]
        refine List.Pairwise.filter _ (pairwise_map.2 ?_)
        exact pairwise_lt_range.imp fun hlt => by omega
      have hmem : ∀ j, j ∈ k :: rest ↔ (n ≤ j ∧ j < n + m) ∧ v j ≠ none := by
        intro j
        rw [← hrest, mem_filter, mem_map, Option.isSome_iff_ne_none]
        refine and_congr_left fun _ => ⟨?_, fun hj => ⟨j - n, by simp; omega, by omega⟩⟩
        rintro ⟨a, ha, rfl⟩
        have := mem_range.1 ha
        omega
      obtain ⟨⟨hle, hlt⟩, hk⟩ := (hmem k).1 mem_cons_self
      have hfirst : ∀ j, n ≤ j → j < k → v j = none := by
        intro j hj hjk
        by_contra hne
        rcases mem_cons.1 ((hmem j).2 ⟨⟨hj, by omega⟩, hne⟩) with rfl | hin
        · omega
        · have := rel_of_pairwise_cons hsorted hin
          omega
      obtain ⟨hgap, hdue⟩ := h.next k hle hlt hk hfirst
      simp [behindGap_of_first hgap hfirst, hdue]
  · obtain ⟨hlt, hne⟩ := mem_held.1 hk
    have hdue := h.passed k hlt hne
    cases hg : behindGap v k
    · rfl
    · simp [hdue hg]

lemma StopsAt.upTo_eq : upTo (released v due B) = n := by
  rw [h.released_eq, upTo_held h.last]

lemma StopsAt.unique {n' : ℕ} (h' : StopsAt v due B n') : n = n' := by
  rw [← h.upTo_eq, h'.upTo_eq]

lemma StopsAt.congr {due' : ℕ → Bool} (hv : ∀ k < B, w k = v k)
    (hdue : ∀ k < B, v k ≠ none → due' k = due k) : StopsAt w due' B n := by
  have hle := h.le
  have hgap : ∀ k < B, behindGap w k = behindGap v k := by
    intro k hk
    rw [behindGap, behindGap, hv (k - 1) (by omega)]
  refine ⟨hle, fun h0 => ?_, fun k hk hne hbehind => ?_, fun k hnk hk hne hfirst => ?_⟩
  · rw [hv (n - 1) (by omega)]
    exact h.last h0
  · rw [hv k (by omega)] at hne
    rw [hgap k (by omega)] at hbehind
    rw [hdue k (by omega) hne]
    exact h.passed k hk hne hbehind
  · rw [hv k hk] at hne
    rw [hdue k hk hne]
    refine h.next k hnk hk hne fun j hj hjk => ?_
    rw [← hv j (by omega)]
    exact hfirst j hj hjk

end

lemma length_held_lt (h0 : v 0 = none) (hn : 0 < n) : (held v n).length < n := by
  obtain ⟨m, rfl⟩ := Nat.exists_eq_add_of_le' hn
  rw [Nat.add_comm, held_add, held]
  have hle := length_filter_le (fun k => (v k).isSome) ((range m).map (1 + ·))
  rw [length_map, length_range] at hle
  simp [h0]
  omega

lemma StopsAt.items_eq (h : StopsAt v due B n) :
    (released v due B).filterMap v = occupied n v := by
  rw [h.released_eq, filterMap_held]

lemma StopsAt.succ (h : StopsAt v due B n) : ∃ n', StopsAt v due (B + 1) n' := by
  have hle := h.le
  by_cases hstays : v B = none ∨ (∃ j, n ≤ j ∧ j < B ∧ v j ≠ none) ∨ n < B ∧ due B = false
  · refine ⟨n, by omega, h.last, h.passed, fun k hnk hk hne hfirst => ?_⟩
    rcases Nat.lt_succ_iff_lt_or_eq.1 hk with hlt | rfl
    · exact h.next k hnk hlt hne hfirst
    rcases hstays with hnone | ⟨j, hj, hjk, hheld⟩ | hwait
    · exact absurd hnone hne
    · exact absurd (hfirst j hj hjk) hheld
    · exact hwait
  · push Not at hstays
    obtain ⟨hB, hgap, hdue⟩ := hstays
    refine ⟨B + 1, Nat.le_refl _, fun _ => hB, fun k hk hne hbehind => ?_, fun k hk hlt => by omega⟩
    rcases Nat.lt_or_ge k n with hlt | hge
    · exact h.passed k hlt hne hbehind
    obtain rfl : k = B := by
      by_contra hkB
      exact hne (hgap k hge (by omega))
    -- right behind a gap, so the walk had not come up to here
    by_cases hn : n < k
    · simpa using hdue hn
    · obtain rfl : n = k := by omega
      simp [behindGap] at hbehind
      exact absurd hbehind.2 (h.last (by omega))

lemma exists_stopsAt (v : ℕ → Option σ) (due : ℕ → Bool) : ∀ B, ∃ n, StopsAt v due B n
  | 0 => ⟨0, Nat.le_refl 0, fun h => absurd h (by omega), fun _ hk => absurd hk (by omega),
      fun _ _ hk => absurd hk (by omega)⟩
  | B + 1 => by
    obtain ⟨n, h⟩ := exists_stopsAt v due B
    exact h.succ

end GapWalk

import Mathlib.Data.List.Perm.Basic

/-!
# Tables of slots

A table of `n` slots, each empty or holding one value. `occupied` lists what the slots hold, in slot
order.
-/

namespace Slots

open Function List

variable {β : Type*} {n i : ℕ} {f g : ℕ → Option β} {p : β}

def occupied (n : ℕ) (f : ℕ → Option β) : List β := (range n).filterMap f

lemma occupied_succ (n : ℕ) (f : ℕ → Option β) :
    occupied (n + 1) f = occupied n f ++ (f n).toList := by
  unfold occupied
  rw [range_succ, filterMap_append]
  cases h : f n <;> simp [h]

lemma occupied_congr : ∀ {n : ℕ}, (∀ i < n, f i = g i) → occupied n f = occupied n g
  | 0, _ => rfl
  | n + 1, h => by
    rw [occupied_succ, occupied_succ, h n (by omega), occupied_congr fun i hi => h i (by omega)]

lemma mem_occupied {x : β} : x ∈ occupied n f ↔ ∃ i < n, f i = some x := by
  simp [occupied, mem_filterMap]

lemma occupied_eq_nil : occupied n f = [] ↔ ∀ i < n, f i = none := by
  rw [eq_nil_iff_forall_not_mem]
  constructor
  · intro h i hi
    rcases hf : f i with _ | x
    · rfl
    · exact absurd (mem_occupied.2 ⟨i, hi, hf⟩) (h x)
  · intro h x hx
    obtain ⟨i, hi, hf⟩ := mem_occupied.1 hx
    rw [h i hi] at hf
    cases hf

@[simp] lemma occupied_empty (n : ℕ) : occupied n (fun _ => (none : Option β)) = [] :=
  occupied_eq_nil.2 fun _ _ => rfl

lemma occupied_map {γ : Type*} (g : β → γ) (n : ℕ) (f : ℕ → Option β) :
    occupied n (fun i => (f i).map g) = (occupied n f).map g := by
  induction n with
  | zero => rfl
  | succ n ih => rw [occupied_succ, occupied_succ, ih, map_append, Option.toList_map]

lemma fill_eq_some {j : ℕ} {x : β} :
    update f i (some p) j = some x ↔ j = i ∧ p = x ∨ j ≠ i ∧ f j = some x := by
  by_cases hj : j = i <;> simp [hj]

lemma clear_eq_some {j : ℕ} {x : β} : update f i none j = some x ↔ j ≠ i ∧ f j = some x := by
  by_cases hj : j = i <;> simp [hj]

lemma occupied_fill (hi : i < n) (h : f i = none) :
    (occupied n (update f i (some p))).Perm (p :: occupied n f) := by
  induction n with
  | zero => omega
  | succ n ih =>
    rw [occupied_succ, occupied_succ]
    by_cases hin : i = n
    · subst hin
      rw [occupied_congr (g := f) fun j hj => update_of_ne (by omega) _ _]
      simp [h]
    · rw [update_of_ne (Ne.symm hin)]
      exact (ih (by omega)).append_right _

lemma occupied_clear (hi : i < n) (h : f i = some p) :
    (p :: occupied n (update f i none)).Perm (occupied n f) := by
  have := occupied_fill (f := update f i none) (p := p) hi (update_self i none f)
  rw [update_idem, ← h, update_eq_self] at this
  exact this.symm

lemma length_fill (hi : i < n) (h : f i = none) :
    (occupied n (update f i (some p))).length = (occupied n f).length + 1 := by
  simpa using (occupied_fill (p := p) hi h).length_eq

lemma length_clear (hi : i < n) (h : f i = some p) :
    (occupied n (update f i none)).length = (occupied n f).length - 1 := by
  have := (occupied_clear hi h).length_eq
  simp at this
  omega

lemma length_pos (hi : i < n) (h : f i = some p) : 0 < (occupied n f).length :=
  length_pos_of_mem (mem_occupied.2 ⟨i, hi, h⟩)

lemma length_le (n : ℕ) (f : ℕ → Option β) : (occupied n f).length ≤ n := by
  have := length_filterMap_le f (range n)
  rwa [length_range] at this

end Slots

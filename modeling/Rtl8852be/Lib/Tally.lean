import Mathlib.Data.Int.Notation
import Mathlib.Data.List.Count

/-!
# Counters kept by flags

Each member of a group has flags, and for each flag there is a counter of the members that have it
set.
-/

namespace Tally

open List

variable {ι κ : Type*}

/-- Only the flags of `i` change, and the counters with them. -/
structure Moves (i : ι) (num : κ → ℤ) (set : ι → κ → Bool) (num' : κ → ℤ)
    (set' : ι → κ → Bool) : Prop where
  other : ∀ j, j ≠ i → set' j = set j
  num : ∀ k, num' k + (set i k).toInt = num k + (set' i k).toInt

/-- The counters are right, and only members have flags set. -/
structure Counts (l : List ι) (num : κ → ℤ) (set : ι → κ → Bool) : Prop where
  nodup : l.Nodup
  num : ∀ k, num k = l.countP (set · k)
  absent : ∀ i, i ∉ l → ∀ k, set i k = false

variable {i : ι} {k : κ} {l : List ι} {num num' num'' : κ → ℤ} {set set' set'' : ι → κ → Bool}
variable {g f : ι → Bool}

lemma Moves.refl (i : ι) (num : κ → ℤ) (set : ι → κ → Bool) : Moves i num set num set :=
  ⟨fun _ _ => rfl, fun _ => rfl⟩

lemma Moves.trans (h : Moves i num set num' set') (h' : Moves i num' set' num'' set'') :
    Moves i num set num'' set'' := by
  refine ⟨fun j hj => (h'.other j hj).trans (h.other j hj), fun k => ?_⟩
  have := h.num k
  have := h'.num k
  omega

lemma countP_of_not_mem (hfg : ∀ j, j ≠ i → g j = f j) (hi : i ∉ l) : l.countP g = l.countP f :=
  countP_congr fun j hj => by rw [hfg j (ne_of_mem_of_not_mem hj hi)]

lemma countP_of_mem (hfg : ∀ j, j ≠ i → g j = f j) : ∀ {l : List ι}, l.Nodup → i ∈ l →
      (l.countP g : ℤ) + (f i).toInt = l.countP f + (g i).toInt
  | j :: l, hnd, hi => by
    obtain ⟨hj, hnd⟩ := nodup_cons.1 hnd
    by_cases hji : j = i
    · subst hji
      rw [countP_cons, countP_cons, countP_of_not_mem hfg hj]
      cases hf : f j <;> cases hg : g j <;> simp
    · have hmem : i ∈ l := (mem_cons.1 hi).resolve_left (Ne.symm hji)
      have ih := countP_of_mem hfg hnd hmem
      rw [countP_cons, countP_cons, hfg j hji]
      push_cast
      omega

section

variable (h : Counts l num set)
include h

lemma Counts.moves (hi : i ∈ l) (hm : Moves i num set num' set') : Counts l num' set' := by
  refine ⟨h.nodup, fun k => ?_, fun j hj => ?_⟩
  · have hc := countP_of_mem (f := (set · k)) (fun j hj => congrFun (hm.other j hj) k) h.nodup hi
    have hn := hm.num k
    have hk := h.num k
    omega
  · rw [hm.other j (ne_of_mem_of_not_mem hi hj).symm]
    exact h.absent j hj

lemma Counts.moves_absent (hi : i ∉ l) (hm : Moves i num set num' set')
    (hclear : ∀ k, set' i k = false) : Counts l num' set' := by
  have hset : set' = set := by
    funext j k
    by_cases hj : j = i
    · rw [hj, hclear k, h.absent i hi k]
    · rw [hm.other j hj]
  have hnum : num' = num := by
    funext k
    have := hm.num k
    rw [hset] at this
    omega
  rwa [hset, hnum]

lemma Counts.cons (hi : i ∉ l) : Counts (i :: l) num set := by
  refine ⟨nodup_cons.2 ⟨hi, h.nodup⟩, fun k => ?_, fun j hj => ?_⟩
  · rw [countP_cons, h.absent i hi k]
    simp [h.num k]
  · exact h.absent j fun hmem => hj (mem_cons_of_mem i hmem)

lemma Counts.erase [DecidableEq ι] (hi : ∀ k, set i k = false) : Counts (l.erase i) num set := by
  refine ⟨h.nodup.erase i, fun k => ?_, fun j hj k => ?_⟩
  · rw [h.num k, countP_erase]
    simp [hi k]
  · by_cases hji : j = i
    · rw [hji, hi k]
    · exact h.absent j (fun hmem => hj ((mem_erase_of_ne hji).2 hmem)) k

lemma Counts.pos (hi : set i k = true) : 0 < num k := by
  have hmem : i ∈ l := by
    by_contra hno
    rw [h.absent i hno k] at hi
    cases hi
  have : 0 < l.countP (set · k) := countP_pos_iff.2 ⟨i, hmem, hi⟩
  have := h.num k
  omega

end

lemma countP_eq_iff (hle : ∀ j ∈ l, f j = true → g j = true) :
    l.countP g = l.countP f ↔ ∀ j ∈ l, g j = f j := by
  induction l with
  | nil => simp
  | cons j l ih =>
    have hle' : ∀ j' ∈ l, f j' = true → g j' = true := fun j' hj' =>
      hle j' (mem_cons_of_mem j hj')
    have hmono : l.countP f ≤ l.countP g := countP_mono_left hle'
    have hj := hle j mem_cons_self
    rw [forall_mem_cons, ← ih hle', countP_cons, countP_cons]
    cases hf : f j <;> cases hg : g j
    · simp
    · simp; omega
    · simp [hf, hg] at hj
    · simp

end Tally

import Mathlib.Data.List.Nodup

/-!
# Tables over a list of keys

What a table holds at the keys of a list without duplicates, and how many entries that is after
one entry was filled or cleared.
-/

namespace Table

open Function

variable {κ β : Type*} [DecidableEq κ] {l : List κ} {f : κ → Option β} {k : κ} {x : β}

def held (l : List κ) (f : κ → Option β) : List β := l.filterMap f

lemma held_update_of_notMem (h : k ∉ l) (v : Option β) : held l (update f k v) = held l f := by
  refine List.filterMap_congr fun k' hk' => update_of_ne ?_ _ _
  rintro rfl
  exact h hk'

lemma length_held_fill : ∀ {l : List κ}, l.Nodup → k ∈ l → f k = none →
    (held l (update f k (some x))).length = (held l f).length + 1
  | k' :: l, hl, hk, hnone => by
    obtain ⟨hk', hl⟩ := List.nodup_cons.1 hl
    by_cases heq : k' = k
    · subst heq
      have hrest := held_update_of_notMem (f := f) hk' (some x)
      unfold held at hrest ⊢
      simp [hnone, hrest]
    · have ih := length_held_fill hl ((List.mem_cons.1 hk).resolve_left (Ne.symm heq)) hnone
      unfold held at ih ⊢
      rcases hf : f k' with _ | y <;> simp [heq, hf, ih]

lemma length_held_clear (hl : l.Nodup) (hk : k ∈ l) (h : f k = some x) :
    (held l (update f k none)).length + 1 = (held l f).length := by
  have hfill : (held l (update (update f k none) k (some x))).length
      = (held l (update f k none)).length + 1 :=
    length_held_fill hl hk (update_self ..)
  rw [← hfill, update_idem, ← h, update_eq_self]

end Table

import Mathlib.Data.List.Nodup

/-!
# Buckets

A table of `n` lists, one per hash value. An entry is put at the end of one list, and is taken out
of whichever list it stands in.
-/

namespace Buckets

open List

variable {α : Type*} {n k : ℕ} {f g : ℕ → List α} {x y : α}

def chained (n : ℕ) (f : ℕ → List α) : List α := (range n).flatMap f

@[simp] lemma mem_chained : x ∈ chained n f ↔ ∃ k < n, x ∈ f k := by simp [chained]

lemma chained_succ (n : ℕ) (f : ℕ → List α) : chained (n + 1) f = chained n f ++ f n := by
  simp [chained, range_succ]

lemma chained_congr (h : ∀ k < n, f k = g k) : chained n f = chained n g :=
  flatMap_congr fun k hk => h k (mem_range.1 hk)

lemma Nodup.bucket (h : (chained n f).Nodup) (hk : k < n) : (f k).Nodup :=
  (nodup_flatMap.1 h).1 k (mem_range.2 hk)

section Push

variable {κ : Type*} [DecidableEq κ]

def push (f : κ → List α) (k : κ) (x : α) : κ → List α := Function.update f k (f k ++ [x])

@[simp] lemma push_self (f : κ → List α) (k : κ) (x : α) : push f k x k = f k ++ [x] :=
  Function.update_self _ _ _

lemma push_of_ne {k l : κ} (hl : l ≠ k) (f : κ → List α) (x : α) : push f k x l = f l :=
  Function.update_of_ne hl _ _

lemma mem_push {f : κ → List α} {k l : κ} : y ∈ push f k x l ↔ y ∈ f l ∨ l = k ∧ y = x := by
  by_cases hl : l = k
  · subst hl
    simp
  · simp [push_of_ne hl, hl]

end Push

lemma chained_push : ∀ {n : ℕ}, k < n → (chained n (push f k x)).Perm (x :: chained n f)
  | n + 1, hk => by
    rw [chained_succ, chained_succ]
    by_cases hn : k = n
    · subst hn
      have hsame : chained k (push f k x) = chained k f :=
        chained_congr fun l hl => push_of_ne (Nat.ne_of_lt hl) f x
      rw [hsame, push_self, ← append_assoc]
      exact perm_append_singleton _ _
    · have hlt : k < n := by omega
      have hlast : push f k x n = f n := push_of_ne (Ne.symm hn) f x
      rw [hlast]
      exact (chained_push hlt).append_right _

variable [DecidableEq α]

def unlink (f : ℕ → List α) (x : α) : ℕ → List α := fun k => (f k).filter (· != x)

@[simp] lemma mem_unlink : y ∈ unlink f x k ↔ y ∈ f k ∧ y ≠ x := by simp [unlink]

lemma unlink_unlink (f : ℕ → List α) (x : α) : unlink (unlink f x) x = unlink f x := by
  funext k
  simp [unlink]

lemma unlink_of_notMem (h : ∀ k, x ∉ f k) : unlink f x = f := by
  funext k
  refine filter_eq_self.2 fun y hy => ?_
  have hne : y ≠ x := fun he => h k (he ▸ hy)
  simp [hne]

lemma chained_unlink (n : ℕ) (f : ℕ → List α) (x : α) :
    chained n (unlink f x) = (chained n f).filter (· != x) := by
  rw [chained, chained, filter_flatMap]
  rfl

lemma perm_unlink (h : (chained n f).Nodup) (hx : x ∈ chained n f) :
    (x :: chained n (unlink f x)).Perm (chained n f) := by
  rw [chained_unlink, ← h.erase_eq_filter]
  exact (perm_cons_erase hx).symm

end Buckets

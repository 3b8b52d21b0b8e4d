import Rtl8852be.Lib.Buckets

/-!
# Arrivals that wait in lanes

An arrival is passed on at once, or accepted into a lane and waits there until the lane is passed
on.
-/

namespace Lanes

open Buckets Function List

variable {κ : Type*} {lanes : List κ} {log : List ℕ} {wait acc : κ → List ℕ} {k : κ} {n : ℕ}

structure Ledger (lanes : List κ) (log : List ℕ) (wait acc : κ → List ℕ) (n : ℕ) : Prop where
  every : (log ++ lanes.flatMap wait).Perm (range n)
  order : ∀ k, acc k = log.filter (· ∈ acc k) ++ wait k
  sorted : ∀ k, (acc k).Pairwise (· < ·)
  bound : ∀ k, ∀ m ∈ acc k, m < n
  disj : ∀ k k', k ≠ k' → ∀ m ∈ acc k, m ∉ acc k'

lemma Ledger.init (lanes : List κ) : Ledger lanes [] (fun _ => []) (fun _ => []) 0 where
  every := by simp
  order := by simp
  sorted := by simp
  bound := by simp
  disj := by simp

section

variable (h : Ledger lanes log wait acc n)
include h

lemma Ledger.log_lt {m : ℕ} (hm : m ∈ log) : m < n :=
  mem_range.1 (h.every.mem_iff.1 (mem_append_left _ hm))

lemma Ledger.mem_acc {m : ℕ} (hm : m ∈ wait k) : m ∈ acc k := by
  rw [h.order k]
  exact mem_append_right _ hm

lemma Ledger.notMem_acc (k : κ) : n ∉ acc k := fun hn => Nat.lt_irrefl n (h.bound k n hn)

lemma Ledger.bypass : Ledger lanes (log ++ [n]) wait acc (n + 1) where
  every := by
    rw [range_succ, append_assoc]
    calc (log ++ ([n] ++ lanes.flatMap wait)).Perm (n :: (log ++ lanes.flatMap wait)) := perm_middle
      _ |>.Perm (n :: range n) := h.every.cons n
      _ |>.Perm (range n ++ [n]) := (perm_append_singleton n _).symm
  order := by
    intro k
    have hn := h.notMem_acc k
    rw [filter_append, filter_cons_of_neg (by simpa using hn), filter_nil, append_nil]
    exact h.order k
  sorted := h.sorted
  bound := fun k m hm => Nat.lt_succ_of_lt (h.bound k m hm)
  disj := h.disj

end

variable [DecidableEq κ]

lemma flatMap_update_notMem (hk : k ∉ lanes) (l : List ℕ) :
    lanes.flatMap (update wait k l) = lanes.flatMap wait :=
  flatMap_congr fun k' hk' =>
    have hne : k' ≠ k := fun he => hk (he ▸ hk')
    update_of_ne hne _ _

lemma flatMap_update_perm {f : κ → List ℕ} : ∀ {lanes : List κ}, lanes.Nodup → k ∈ lanes →
    ∀ l : List ℕ, (lanes.flatMap (update f k l)).Perm (l ++ lanes.flatMap (update f k []))
  | k' :: lanes, hnd, hk, l => by
    obtain ⟨hk', hnd⟩ := nodup_cons.1 hnd
    rw [flatMap_cons, flatMap_cons]
    by_cases he : k = k'
    · subst he
      simp [flatMap_update_notMem hk']
    · have hmem : k ∈ lanes := (mem_cons.1 hk).resolve_left he
      rw [update_of_ne (Ne.symm he), update_of_ne (Ne.symm he)]
      refine ((flatMap_update_perm hnd hmem l).append_left _).trans ?_
      rw [← append_assoc, ← append_assoc]
      exact perm_append_comm.append_right _

lemma flatMap_perm {f : κ → List ℕ} (hnd : lanes.Nodup) (hk : k ∈ lanes) :
    (lanes.flatMap f).Perm (f k ++ lanes.flatMap (update f k [])) := by
  have hlane := flatMap_update_perm (f := f) hnd hk (f k)
  rwa [update_eq_self] at hlane

section

variable (h : Ledger lanes log wait acc n) (hnd : lanes.Nodup) (hk : k ∈ lanes)
include h hnd hk

lemma Ledger.pass : Ledger lanes (log ++ wait k) (update wait k []) acc n where
  every := by
    have hlane := flatMap_perm (f := wait) hnd hk
    rw [append_assoc]
    exact (hlane.symm.append_left log).trans h.every
  order := by
    intro k'
    rw [filter_append]
    by_cases hk' : k' = k
    · subst hk'
      have hall : (wait k').filter (· ∈ acc k') = wait k' :=
        filter_eq_self.2 fun m hm => by simpa using h.mem_acc hm
      rw [hall, update_self, append_nil]
      exact h.order k'
    · have hnone : (wait k).filter (· ∈ acc k') = [] :=
        filter_eq_nil_iff.2 fun m hm => by
          simpa using h.disj k k' (Ne.symm hk') m (h.mem_acc hm)
      rw [hnone, update_of_ne hk', append_nil]
      exact h.order k'
  sorted := h.sorted
  bound := h.bound
  disj := h.disj

lemma Ledger.accept : Ledger lanes log (push wait k n) (push acc k n) (n + 1) := by
  refine ⟨?_, fun k' => ?_, fun k' => ?_, fun k' m hm => ?_, fun k' k'' hne m hm hm' => ?_⟩
  · have hold := flatMap_perm (f := wait) hnd hk
    rw [range_succ]
    calc (log ++ lanes.flatMap (push wait k n)).Perm
          (log ++ (wait k ++ [n] ++ lanes.flatMap (update wait k []))) :=
          (flatMap_update_perm hnd hk _).append_left log
      _ |>.Perm (log ++ (n :: (wait k ++ lanes.flatMap (update wait k [])))) := by
          rw [append_assoc]
          exact perm_middle.append_left log
      _ |>.Perm (n :: (log ++ (wait k ++ lanes.flatMap (update wait k [])))) := perm_middle
      _ |>.Perm (n :: range n) := ((hold.symm.append_left log).trans h.every).cons n
      _ |>.Perm (range n ++ [n]) := (perm_append_singleton n _).symm
  · by_cases hk' : k' = k
    · subst hk'
      -- the new arrival is not in the log
      have hsame : log.filter (· ∈ acc k' ++ [n]) = log.filter (· ∈ acc k') :=
        filter_congr fun m hm => by
          have hne : m ≠ n := Nat.ne_of_lt (h.log_lt hm)
          simp [hne]
      rw [push_self, push_self, hsame, ← append_assoc, ← h.order k']
    · rw [push_of_ne hk', push_of_ne hk']
      exact h.order k'
  · by_cases hk' : k' = k
    · subst hk'
      rw [push_self]
      refine pairwise_append.2 ⟨h.sorted k', pairwise_singleton _ _, fun m hm m' hm' => ?_⟩
      rw [mem_singleton.1 hm']
      exact h.bound k' m hm
    · rw [push_of_ne hk']
      exact h.sorted k'
  · rcases mem_push.1 hm with hm | ⟨-, rfl⟩
    · exact Nat.lt_succ_of_lt (h.bound k' m hm)
    · exact Nat.lt_succ_self m
  · rcases mem_push.1 hm with hold | ⟨hk', hn⟩
    · rcases mem_push.1 hm' with hold' | ⟨-, hn⟩
      · exact h.disj k' k'' hne m hold hold'
      · exact h.notMem_acc k' (hn ▸ hold)
    · rcases mem_push.1 hm' with hold' | ⟨hk'', -⟩
      · exact h.notMem_acc k'' (hn ▸ hold')
      · exact hne (hk'.trans hk''.symm)

end

end Lanes

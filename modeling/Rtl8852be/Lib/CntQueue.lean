import Mathlib.Data.List.TakeWhile

/-!
# Queues with a counter of their own

A list and, beside it, a counter that every operation updates separately. `Counted` says that the
counter is the length.
-/

structure CntQueue (β : Type*) where
  items : List β
  cnt : ℕ

namespace CntQueue

open List

variable {β : Type*} {q : CntQueue β}

def pushTail (q : CntQueue β) (x : β) : CntQueue β := ⟨q.items ++ [x], q.cnt + 1⟩

def pushFront (q : CntQueue β) (x : β) : CntQueue β := ⟨x :: q.items, q.cnt + 1⟩

def insertBefore (q : CntQueue β) (p : β → Bool) (x : β) : CntQueue β :=
  ⟨q.items.takeWhile (fun y => !p y) ++ x :: q.items.dropWhile (fun y => !p y), q.cnt + 1⟩

def dropFirst (q : CntQueue β) : CntQueue β :=
  match q.items with
  | [] => q
  | _ :: xs => ⟨xs, q.cnt - 1⟩

def erase [BEq β] (q : CntQueue β) (x : β) : CntQueue β := ⟨q.items.erase x, q.cnt - 1⟩

def Counted (q : CntQueue β) : Prop := q.cnt = q.items.length

@[simp] lemma pushTail_items (q : CntQueue β) (x : β) :
    (q.pushTail x).items = q.items ++ [x] := rfl

@[simp] lemma pushFront_items (q : CntQueue β) (x : β) :
    (q.pushFront x).items = x :: q.items := rfl

@[simp] lemma dropFirst_items (q : CntQueue β) : q.dropFirst.items = q.items.tail := by
  unfold dropFirst
  split <;> simp [*]

lemma dropFirst_nil (h : q.items = []) : q.dropFirst = q := by
  unfold dropFirst
  rw [h]

lemma Counted.pushTail (h : q.Counted) (x : β) : (q.pushTail x).Counted := by
  simp [Counted, CntQueue.pushTail] at *
  omega

lemma Counted.pushFront (h : q.Counted) (x : β) : (q.pushFront x).Counted := by
  simp [Counted, CntQueue.pushFront] at *
  omega

section

variable (q : CntQueue β) (p : β → Bool) (x : β)

lemma insertBefore_perm : (q.insertBefore p x).items.Perm (x :: q.items) := by
  have hsplit : (x :: q.items).Perm (x :: (q.items.takeWhile (fun y => !p y) ++
      q.items.dropWhile (fun y => !p y))) := by rw [takeWhile_append_dropWhile]
  exact perm_middle.trans hsplit.symm

lemma insertBefore_split :
    ∃ l₁ l₂, q.items = l₁ ++ l₂ ∧ (q.insertBefore p x).items = l₁ ++ x :: l₂ ∧
      (∀ y ∈ l₁, p y = false) ∧ ∀ y ∈ l₂.head?, p y = true := by
  refine ⟨_, _, takeWhile_append_dropWhile.symm, rfl, fun y hy => ?_, fun y hy => ?_⟩
  · simpa using mem_takeWhile_imp hy
  · have hnot := head?_dropWhile_not (fun y => !p y) q.items
    rw [Option.mem_def.1 hy] at hnot
    simpa using hnot

lemma insertBefore_eq_pushTail {p : β → Bool} (hp : ∀ y, p y = false) (x : β) :
    q.insertBefore p x = q.pushTail x := by
  have htake : q.items.takeWhile (fun y => !p y) = q.items :=
    takeWhile_eq_self_iff.2 fun y _ => by simp [hp y]
  have hdrop : q.items.dropWhile (fun y => !p y) = [] :=
    dropWhile_eq_nil_iff.2 fun y _ => by simp [hp y]
  rw [CntQueue.insertBefore, htake, hdrop, CntQueue.pushTail]

end

lemma Counted.insertBefore (h : q.Counted) (p : β → Bool) (x : β) :
    (q.insertBefore p x).Counted := by
  have hlen := (insertBefore_perm q p x).length_eq
  simp [Counted, CntQueue.insertBefore] at *
  omega

lemma Counted.dropFirst (h : q.Counted) : q.dropFirst.Counted := by
  unfold CntQueue.dropFirst
  split
  · exact h
  · rename_i hq
    simp [Counted, hq] at *
    omega

@[simp] lemma erase_items [BEq β] (q : CntQueue β) (x : β) :
    (q.erase x).items = q.items.erase x := rfl

lemma Counted.erase [BEq β] [LawfulBEq β] {x : β} (h : q.Counted) (hx : x ∈ q.items) :
    (q.erase x).Counted := by
  simp only [Counted, CntQueue.erase, length_erase_of_mem hx] at *
  omega

lemma dropFirst_eq_erase [BEq β] [LawfulBEq β] {x : β} {xs : List β} (h : q.items = x :: xs) :
    q.dropFirst = q.erase x := by
  unfold dropFirst erase
  rw [h]
  simp

end CntQueue

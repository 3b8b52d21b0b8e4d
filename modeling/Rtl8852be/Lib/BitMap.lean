import Mathlib.Tactic.Common

/-!
# Bit maps in words of 32 bits

A map of any number of bits, kept in 32-bit words. The three operations are the usual ones with a
mask, and the lemmas say what they do to the single bits.
-/

namespace BitMap

open Function

abbrev Words := ℕ → BitVec 32

def mask (i : ℕ) : BitVec 32 := BitVec.twoPow 32 (i % 32)

def test (map : Words) (i : ℕ) : Bool := map (i / 32) &&& mask i != 0

def set (map : Words) (i : ℕ) : Words := update map (i / 32) (map (i / 32) ||| mask i)

def clr (map : Words) (i : ℕ) : Words := update map (i / 32) (map (i / 32) &&& ~~~ mask i)

def empty : Words := fun _ => 0

variable {map : Words} {i j : ℕ}

lemma test_eq_getLsbD (map : Words) (i : ℕ) : test map i = (map (i / 32)).getLsbD (i % 32) := by
  have hi : i % 32 < 32 := Nat.mod_lt i (by decide)
  have hone : BitVec.twoPow 32 (i % 32) ≠ 0#32 := by
    intro h
    have := congrArg (·.getLsbD (i % 32)) h
    simp [hi] at this
  unfold test mask
  rw [BitVec.and_twoPow]
  split_ifs with h <;> simp [h, hone]

lemma getLsbD_mask (i k : ℕ) : (mask i).getLsbD k = decide (k = i % 32) := by
  have hi : i % 32 < 32 := Nat.mod_lt i (by decide)
  simp only [mask, BitVec.getLsbD_twoPow, hi, decide_true, Bool.true_and]
  exact decide_eq_decide.2 eq_comm

lemma eq_of_div_mod (hd : j / 32 = i / 32) (hm : j % 32 = i % 32) : j = i := by omega

@[simp] lemma test_empty (i : ℕ) : test empty i = false := by simp [test, empty]

lemma test_set : test (set map i) j = (decide (j = i) || test map j) := by
  simp only [test_eq_getLsbD, set]
  by_cases hd : j / 32 = i / 32
  · rw [hd, update_self, BitVec.getLsbD_or, getLsbD_mask, Bool.or_comm]
    congr 1
    exact decide_eq_decide.2 ⟨eq_of_div_mod hd, fun h => by rw [h]⟩
  · have hne : j ≠ i := fun h => hd (by rw [h])
    simp [update_of_ne hd, hne]

@[simp] lemma test_clr : test (clr map i) j = (decide (j ≠ i) && test map j) := by
  simp only [test_eq_getLsbD, clr]
  by_cases hd : j / 32 = i / 32
  · rw [hd, update_self, BitVec.getLsbD_and, BitVec.getLsbD_not, getLsbD_mask]
    have hj : j % 32 < 32 := Nat.mod_lt j (by decide)
    have heq : decide (j % 32 = i % 32) = decide (j = i) :=
      decide_eq_decide.2 ⟨eq_of_div_mod hd, fun h => by rw [h]⟩
    simp [hj, heq, Bool.and_comm]
  · have hne : j ≠ i := fun h => hd (by rw [h])
    simp [update_of_ne hd, hne]

@[simp] lemma test_set_iff : test (set map i) j = true ↔ j = i ∨ test map j = true := by
  simp [test_set]

@[simp] lemma test_clr_iff : test (clr map i) j = true ↔ j ≠ i ∧ test map j = true := by
  simp

lemma ext_test {map' : Words} (h : ∀ i, test map' i = test map i) : map' = map := by
  funext w
  refine BitVec.eq_of_getLsbD_eq fun k hk => ?_
  have hw := h (w * 32 + k)
  rwa [test_eq_getLsbD, test_eq_getLsbD, show (w * 32 + k) / 32 = w by omega,
    show (w * 32 + k) % 32 = k by omega] at hw

lemma clr_eq_iff : clr map i = map ↔ test map i = false := by
  refine ⟨fun h => ?_, fun h => ext_test fun j => ?_⟩
  · simpa using (congrArg (test · i) h).symm
  · by_cases hj : j = i <;> simp [hj, h]

lemma clr_set : clr (set map i) i = clr map i := by
  refine ext_test fun j => ?_
  by_cases hj : j = i <;> simp [test_set, hj]

section Field

variable {w : ℕ} {m m' : BitVec w}

lemma or_and_of_disjoint (h : m &&& m' = 0#w) (x : BitVec w) : (x ||| m) &&& m' = x &&& m' := by
  refine BitVec.eq_of_getLsbD_eq fun i hi => ?_
  have hb := congrArg (·.getLsbD i) h
  simp at hb
  cases hm : m.getLsbD i <;> simp_all

lemma andNot_and_of_disjoint (h : m &&& m' = 0#w) (x : BitVec w) :
    x &&& ~~~ m &&& m' = x &&& m' := by
  refine BitVec.eq_of_getLsbD_eq fun i hi => ?_
  have hb := congrArg (·.getLsbD i) h
  simp at hb
  cases hm : m.getLsbD i <;> simp_all

lemma andNot_and_self (x : BitVec w) : x &&& ~~~ m &&& m = 0#w := by
  simp [BitVec.and_assoc, BitVec.and_comm (~~~ m)]

lemma or_and_self (x : BitVec w) : (x ||| m) &&& m = m := by
  refine BitVec.eq_of_getLsbD_eq fun i hi => ?_
  cases hm : m.getLsbD i <;> simp [hm]

lemma andNot_or_and_self {n : BitVec w} (hn : n &&& m = n) (x : BitVec w) :
    (x &&& ~~~ m ||| n) &&& m = n := by
  refine BitVec.eq_of_getLsbD_eq fun i hi => ?_
  have hb := congrArg (·.getLsbD i) hn
  simp at hb
  cases hm : m.getLsbD i <;> simp_all

end Field

end BitMap

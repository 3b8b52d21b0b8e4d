import Mathlib.Data.Fintype.Pi

/-!
# Fields in a memory of bytes

A memory gives the byte at each address. `load` reads a field of fixed size from it and `store`
writes one; `getBits` and `setBits` do so with some bits of a little-endian word.
-/

namespace Bytes

abbrev Octets (n : ℕ) := Fin n → UInt8

variable {mem : ℕ → UInt8} {pos pos' n m a : ℕ}
variable (v : Octets n)

def load (mem : ℕ → UInt8) (pos n : ℕ) : Octets n := fun i => mem (pos + i)

def store (mem : ℕ → UInt8) (pos : ℕ) (v : Octets n) : ℕ → UInt8 := fun a =>
  if h : pos ≤ a ∧ a - pos < n then v ⟨a - pos, h.2⟩ else mem a

lemma store_of_lt (h : a < pos) (v : Octets n) : store mem pos v a = mem a :=
  dif_neg fun hin => absurd hin.1 (by omega)

lemma store_of_le (h : pos + n ≤ a) (v : Octets n) : store mem pos v a = mem a :=
  dif_neg fun hin => absurd hin.2 (by omega)

@[simp] lemma store_add (i : Fin n) : store mem pos v (pos + i) = v i := by
  have hin : pos ≤ pos + i ∧ pos + i - pos < n := ⟨by omega, by omega⟩
  rw [store, dif_pos hin]
  congr 1
  exact Fin.ext (by simp)

@[simp] lemma load_store_self : load (store mem pos v) pos n = v := funext fun i => store_add v i

lemma load_store_of_disjoint (h : pos' + m ≤ pos ∨ pos + n ≤ pos') :
    load (store mem pos v) pos' m = load mem pos' m := by
  funext i
  have hi := i.isLt
  rcases h with h | h
  · exact store_of_lt (by omega) v
  · exact store_of_le (by omega) v

lemma store_load (src : ℕ) : store mem pos (load mem src n) a
    = if pos ≤ a ∧ a < pos + n then mem (src + (a - pos)) else mem a := by
  split_ifs with h
  · exact dif_pos ⟨h.1, by omega⟩
  · exact dif_neg fun hin => h ⟨hin.1, by omega⟩

lemma load_congr {mem' : ℕ → UInt8} (h : ∀ i < n, mem' (pos' + i) = mem (pos + i)) :
    load mem' pos' n = load mem pos n :=
  funext fun i => h i i.isLt

section Bits

variable {off len off' n' v : ℕ}

def bit (mem : ℕ → UInt8) (a : ℕ) : Bool := (mem (a / 8)).toNat.testBit (a % 8)

/-- The word in the `n` bytes at `pos`, lowest byte first. -/
def leWord (mem : ℕ → UInt8) (pos : ℕ) : ℕ → ℕ
  | 0 => 0
  | n + 1 => 2 ^ 8 * leWord mem (pos + 1) n + (mem pos).toNat

def lenMask (w len : ℕ) : BitVec w := BitVec.allOnes w >>> (w - len)

def getBits (n : ℕ) (mem : ℕ → UInt8) (pos off len : ℕ) : ℕ :=
  (BitVec.ofNat (8 * n) (leWord mem pos n) >>> off &&& lenMask (8 * n) len).toNat

def putBits {w : ℕ} (x : BitVec w) (off len v : ℕ) : BitVec w :=
  if off = 0 ∧ len = w then BitVec.ofNat w v
  else x &&& ~~~ (lenMask w len <<< off) ||| (BitVec.ofNat w v &&& lenMask w len) <<< off

def setBits (n pos off len v : ℕ) (mem : ℕ → UInt8) : ℕ → UInt8 :=
  let word := putBits (BitVec.ofNat (8 * n) (leWord mem pos n)) off len v
  @store n mem pos fun i => ⟨word.extractLsb' (8 * i) 8⟩

lemma getLsbD_putBits {w j : ℕ} (h : off + len ≤ w) (hj : j < w) (x : BitVec w) :
    (putBits x off len v).getLsbD j =
      if off ≤ j ∧ j < off + len then v.testBit (j - off) else x.getLsbD j := by
  simp only [putBits]
  split_ifs with hfull hin hin
  · rw [BitVec.getLsbD_ofNat, decide_eq_true hj, hfull.1]
    rfl
  · omega
  all_goals simp only [lenMask, BitVec.getLsbD_or, BitVec.getLsbD_and, BitVec.getLsbD_not,
      BitVec.getLsbD_shiftLeft, BitVec.getLsbD_ofNat, BitVec.getLsbD_ushiftRight,
      BitVec.getLsbD_allOnes]
  · simp [hj, hin.1.not_gt, show j - off < w by omega, show w - len + (j - off) < w by omega]
  · by_cases hlt : j < off
    · simp [hj, hlt]
    · simp [hj, hlt, show ¬ w - len + (j - off) < w by omega]

lemma testBit_leWord (mem : ℕ → UInt8) : ∀ n pos i, i < 8 * n →
    (leWord mem pos n).testBit i = bit mem (8 * pos + i)
  | n + 1, pos, i, hi => by
    rw [leWord, Nat.testBit_two_pow_mul_add _ (mem pos).toNat_lt]
    split_ifs with h
    · rw [bit, show (8 * pos + i) / 8 = pos by omega, show (8 * pos + i) % 8 = i by omega]
    · rw [testBit_leWord mem n _ _ (by omega), show 8 * (pos + 1) + (i - 8) = 8 * pos + i by omega]

lemma testBit_getBits (h : off + len ≤ 8 * n) (mem : ℕ → UInt8) (i : ℕ) :
    (getBits n mem pos off len).testBit i = (decide (i < len) && bit mem (8 * pos + off + i)) := by
  by_cases hi : i < len
  · simp [getBits, lenMask, testBit_leWord, hi, Nat.add_assoc, show off + i < 8 * n by omega,
      show 8 * n - len + i < 8 * n by omega]
  · simp [getBits, lenMask, hi, show 8 * n ≤ 8 * n - len + i by omega]

lemma bit_setBits (h : off + len ≤ 8 * n) (v : ℕ) (mem : ℕ → UInt8) :
    bit (setBits n pos off len v mem) a =
      if 8 * pos + off ≤ a ∧ a < 8 * pos + off + len then v.testBit (a - (8 * pos + off))
      else bit mem a := by
  by_cases hin : pos ≤ a / 8 ∧ a / 8 < pos + n
  · obtain ⟨i, hi⟩ : ∃ i : Fin n, a / 8 = pos + i := ⟨⟨a / 8 - pos, by omega⟩, by simp; omega⟩
    have hlt : 8 * i + a % 8 < 8 * n := by omega
    rw [bit, hi, setBits, store_add]
    change (BitVec.extractLsb' _ _ _).toNat.testBit _ = _
    rw [BitVec.testBit_toNat, BitVec.getLsbD_extractLsb', decide_eq_true (by omega), Bool.true_and,
      getLsbD_putBits h hlt, BitVec.getLsbD_ofNat, testBit_leWord mem n pos _ hlt,
      decide_eq_true hlt, Bool.true_and, show 8 * pos + (8 * i + a % 8) = a by omega,
      show 8 * i + a % 8 - off = a - (8 * pos + off) by omega]
    exact if_congr (by omega) rfl rfl
  · rw [if_neg (by omega), bit, bit, setBits]
    rcases not_and_or.1 hin with hin | hin
    · rw [store_of_lt (by omega)]
    · rw [store_of_le (by omega)]

lemma getBits_set_of_disjoint (h : off + len ≤ 8 * n) (h' : off' + m ≤ 8 * n')
    (hd : 8 * pos' + off' + m ≤ 8 * pos + off ∨ 8 * pos + off + len ≤ 8 * pos' + off')
    (mem : ℕ → UInt8) :
    getBits n' (setBits n pos off len v mem) pos' off' m = getBits n' mem pos' off' m := by
  refine Nat.eq_of_testBit_eq fun i => ?_
  rw [testBit_getBits h', testBit_getBits h', bit_setBits h]
  by_cases hi : i < m
  · rw [if_neg (by omega)]
  · simp [hi]

lemma getBits_set_self (h : off + len ≤ 8 * n) (h' : off' + len ≤ 8 * n')
    (hp : 8 * pos' + off' = 8 * pos + off) (hv : v < 2 ^ len) (mem : ℕ → UInt8) :
    getBits n' (setBits n pos off len v mem) pos' off' len = v := by
  refine Nat.eq_of_testBit_eq fun i => ?_
  rw [testBit_getBits h', bit_setBits h, hp]
  by_cases hi : i < len
  · rw [if_pos (by omega), Nat.add_sub_cancel_left, decide_eq_true hi, Bool.true_and]
  · have hbig : v < 2 ^ i := hv.trans_le (Nat.pow_le_pow_right (by decide) (by omega))
    rw [decide_eq_false hi, Nat.testBit_lt_two_pow hbig, Bool.false_and]

end Bits

end Bytes

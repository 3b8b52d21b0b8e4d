import Rtl8852be.Lib.Circ

/-!
# Statuses and ring pointers

What the software rings between the core and the PHL layer share: the status codes, the ring size,
and the two pointer distances of `phl_tx.c`.
-/

namespace Rtl8852be

instance neZeroTwo : NeZero 2 := ⟨Nat.succ_ne_zero 1⟩

inductive PhlStatus where
  | success
  | failure
  | resource
  | frameDrop
  deriving DecidableEq

inductive MacStatus where
  | success
  | bufalloc
  | nobuf
  | noitem
  | efusesize
  | efuseparse
  | efuseread
  | efusewrite
  | samacid
  | macidfl
  | funcinput
  | addrcamfl
  | bssidcamfl
  | roleinitfl
  | wngkeytype
  | keynotext
  | seccamfl
  | addrcamkeyfl
  | norole
  | fwnonrdy
  deriving DecidableEq

def maxPhlRingEntryNum : ℕ := 4096

def phlCalcAvailRptr (rptr wptr bndy : ℕ) : ℕ :=
  if rptr ≤ wptr then wptr - rptr else wptr + (bndy - rptr)

def phlCalcAvailWptr (rptr wptr bndy : ℕ) : ℕ :=
  if wptr < rptr then rptr - wptr - 1 else rptr + (bndy - wptr) - 1

/-- Between a reader that has passed `c` entries and a writer that has passed `a`. -/
lemma phlCalcAvailRptr_eq {n a c : ℕ} (hle : c ≤ a) (hlt : a < c + n) :
    phlCalcAvailRptr (c % n) (a % n) n = a - c := by
  obtain ⟨d, rfl⟩ := Nat.exists_eq_add_of_le hle
  have hc := Nat.mod_lt c (by omega : 0 < n)
  rw [phlCalcAvailRptr, Circ.add_mod_eq c (by omega)]
  split_ifs <;> omega

lemma phlCalcAvailWptr_eq {n a c : ℕ} (hle : c ≤ a) (hlt : a < c + n) :
    phlCalcAvailWptr (c % n) (a % n) n = n - 1 - (a - c) := by
  obtain ⟨d, rfl⟩ := Nat.exists_eq_add_of_le hle
  rw [phlCalcAvailWptr, Circ.add_mod_eq c (by omega)]
  split_ifs <;> omega

end Rtl8852be

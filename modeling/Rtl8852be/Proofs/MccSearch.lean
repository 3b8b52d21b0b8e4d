import Rtl8852be.Lib.Valley
import Rtl8852be.MccClients
import Rtl8852be.Proofs.Mcc

/-!
# What the search loops find

Without limits the places that can be used form an interval, and the loops walk down a valley over
it, with the costs kept in 16 bits.
-/

namespace Rtl8852be

variable {ref ano : MccDurLimInfo}

/-- Both slots have room before and behind their beacons. -/
structure MccFeasible (gap dR dA off tobR : ℤ) : Prop where
  refEarly : earlyRxBcnT ≤ tobR
  refLate : minRxBcnT ≤ dR - tobR
  anoEarly : earlyRxBcnT ≤ off - (dR - tobR) - gap
  anoLate : minRxBcnT ≤ dA - (off - (dR - tobR) - gap)

def mccLo (gap dR off : ℤ) : ℤ := max earlyRxBcnT (earlyRxBcnT + dR + gap - off)

def mccHi (gap dR dA off : ℤ) : ℤ :=
  min (dR - minRxBcnT) (dA + dR + gap - off - minRxBcnT)

@[simp] def mccCost (gap dR dA off tobR : ℤ) : ℤ :=
  mccSum tobR (dR - tobR) (off - (dR - tobR) - gap)
    (dA - (off - (dR - tobR) - gap))

variable {gap dR dA off x : ℤ}

lemma mccFeasible_iff : MccFeasible gap dR dA off x
      ↔ mccLo gap dR off ≤ x ∧ x ≤ mccHi gap dR dA off := by
  unfold mccLo mccHi
  constructor
  · rintro ⟨h1, h2, h3, h4⟩
    omega
  · rintro ⟨h1, h2⟩
    constructor <;> omega

lemma MccFeasible.lo_le_hi (h : MccFeasible gap dR dA off x) :
    mccLo gap dR off ≤ mccHi gap dR dA off :=
  (mccFeasible_iff.1 h).1.trans (mccFeasible_iff.1 h).2

/-- One pass of a loop at `x`. -/
def mccPass (gap dR dA off x last stop skip next : ℤ) : ℤ :=
  if dR - x < minRxBcnT then stop
  else if off - (dR - x) - gap < earlyRxBcnT then skip
  else if dA - (off - (dR - x) - gap) < minRxBcnT then stop
  else if last ≠ 0 ∧ last < toS16 (mccCost gap dR dA off x) then x
  else next

structure MccBounded (gap dR dA off : ℤ) : Prop where
  ref : 0 ≤ dR ∧ dR ≤ 1000
  ano : 0 ≤ dA ∧ dA ≤ 1000
  offset : 0 ≤ off ∧ off ≤ 3000
  gap : -1000 ≤ gap ∧ gap ≤ 1000

section Loops

variable (hb : MccBounded gap dR dA off)

include hb

lemma MccBounded.exact (hx : earlyRxBcnT ≤ x) (hx' : x ≤ dR) : toS16 (dR - x) = dR - x
    ∧ toS16 (off - (dR - x) - gap) = off - (dR - x) - gap
    ∧ toS16 (dA - (off - (dR - x) - gap)) = dA - (off - (dR - x) - gap) := by
  have hT := mccRxBcnT
  obtain ⟨h1, h2, h3, h4⟩ := hb
  exact ⟨toS16_eq (by omega) (by omega), toS16_eq (by omega) (by omega),
    toS16_eq (by omega) (by omega)⟩

lemma mccExitLoop_succ (left : ℕ) (last : ℤ) (hx : earlyRxBcnT ≤ x) (hx' : x ≤ dR) :
    mccExitLoop gap dR dA off (left + 1) x last = mccPass gap dR dA off x last x
      (mccExitLoop gap dR dA off left (x + 1) last)
      (mccExitLoop gap dR dA off left (x + 1) (toS16 (mccCost gap dR dA off x))) := by
  obtain ⟨h1, h2, h3⟩ := hb.exact hx hx'
  simp only [mccExitLoop]
  rw [h1, h2, h3]
  rfl

lemma mccSearchLoop_succ {btSlot : Bool} (hr : ref.enable = false) (ha : ano.enable = false)
    (left : ℕ) (last cand : ℤ) (hx : earlyRxBcnT ≤ x) (hx' : x ≤ dR) :
    mccSearchLoop btSlot gap dR dA off ref ano (left + 1) x last cand
      = mccPass gap dR dA off x last cand
        (mccSearchLoop btSlot gap dR dA off ref ano left (x + 1) last cand)
        (mccSearchLoop btSlot gap dR dA off ref ano left (x + 1)
          (toS16 (mccCost gap dR dA off x)) x) := by
  obtain ⟨h1, h2, h3⟩ := hb.exact hx hx'
  simp [mccSearchLoop, mccRefLimit, hr, ha]
  rw [h1, h2, h3]
  rfl

end Loops

lemma le_toU16_add {refDur anoDur : ℕ} (hr : refDur ≤ 1000) (ha : anoDur ≤ 1000) :
    (refDur : ℤ) ≤ (toU16 (refDur + anoDur) - earlyRxBcnT.toNat : ℕ) + earlyRxBcnT := by
  have hT := mccRxBcnT
  unfold toU16
  omega

/-- A place where a loop is left. -/
abbrev MccExit (gap dR dA off : ℤ) : ℤ → Prop :=
  Valley.Exit (fun x => (mccCost gap dR dA off x).bmod 65536) (mccLo gap dR off)
    (mccHi gap dR dA off)

/-- Any function that makes such passes is left where the stored costs rise. -/
lemma exists_exit_of_succ (F : ℕ → ℤ → ℤ → ℤ → ℤ) (stop : ℤ → ℤ → ℤ)
    (hle : mccLo gap dR off ≤ mccHi gap dR dA off)
    (h0 : ∀ x last cand, F 0 x last cand = stop x cand)
    (hsucc : ∀ left x last cand, earlyRxBcnT ≤ x → x ≤ dR → F (left + 1) x last cand
        = mccPass gap dR dA off x last (stop x cand) (F left (x + 1) last cand)
          (F left (x + 1) (toS16 (mccCost gap dR dA off x)) x))
    (left : ℕ) (hleft : dR ≤ left + earlyRxBcnT) :
    ∃ e, MccExit gap dR dA off e ∧ F left earlyRxBcnT 0 0 = if e ≤ mccHi gap dR dA off then e
          else stop (mccHi gap dR dA off + 1) (mccHi gap dR dA off) := by
  have hT := mccRxBcnT
  unfold mccLo mccHi at *
  refine Valley.exists_exit (s := fun x => toS16 (mccCost gap dR dA off x)) ?_ ?_ ?_ hle
    left earlyRxBcnT le_rfl (le_max_left _ _) (by omega)
  · intro left last cand
    cases left with
    | zero => exact h0 _ last cand
    | succ left =>
      rw [hsucc _ _ _ _ (by omega) (by omega), mccPass]
      split_ifs <;> first | rfl | omega
  · intro left x last cand hlo hhi
    rw [hsucc _ _ _ _ (by omega) (by omega), mccPass, if_neg (by omega), if_neg (by omega),
      if_neg (by omega)]
  · intro left x last cand hx hlo
    rw [hsucc _ _ _ _ hx (by omega), mccPass, if_neg (by omega), if_pos (by omega)]

section Results

variable (hb : MccBounded gap dR dA off)
  (hle : mccLo gap dR off ≤ mccHi gap dR dA off) (btSlot : Bool)
  (hr : ref.enable = false) (ha : ano.enable = false) (left : ℕ)
  (hleft : dR ≤ left + earlyRxBcnT)

include hb hle hleft

lemma mccExitLoop_exit :
    MccExit gap dR dA off (mccExitLoop gap dR dA off left earlyRxBcnT 0) := by
  obtain ⟨e, he, heq⟩ := exists_exit_of_succ
    (fun left x last _ => mccExitLoop gap dR dA off left x last) (fun x _ => x) hle
    (fun _ _ _ => rfl)
    (fun left _ last _ hx hx' => mccExitLoop_succ hb left last hx hx') left hleft
  have hlast := he.le
  rw [heq]
  split_ifs with h
  · exact he
  · obtain rfl : e = mccHi gap dR dA off + 1 := by omega
    exact he

lemma mccExitLoop_feasible :
    MccFeasible gap dR dA off (mccExitLoop gap dR dA off left earlyRxBcnT 0 - 1) := by
  have he := mccExitLoop_exit hb hle left hleft
  have hlo := he.lt
  have hhi := he.le
  exact mccFeasible_iff.2 ⟨by omega, by omega⟩

include hr ha

lemma mccSearchLoop_exit :
    ∃ e, MccExit gap dR dA off e
      ∧ mccSearchLoop btSlot gap dR dA off ref ano left earlyRxBcnT 0 0
        = if e ≤ mccHi gap dR dA off then e else mccHi gap dR dA off :=
  exists_exit_of_succ _ (fun _ cand => cand) hle (fun _ _ _ => rfl)
    (fun left _ last cand hx hx' => mccSearchLoop_succ hb hr ha left last cand hx hx') left hleft

lemma mccSearchLoop_feasible : MccFeasible gap dR dA off
      (mccSearchLoop btSlot gap dR dA off ref ano left earlyRxBcnT 0 0) := by
  obtain ⟨e, he, heq⟩ := mccSearchLoop_exit hb hle btSlot hr ha left hleft
  have hlo := he.lt
  rw [heq]
  split_ifs <;> exact mccFeasible_iff.2 ⟨by omega, by omega⟩

end Results

def MccPattern.numbers (m : MccPattern) : ℤ × ℤ × ℤ × ℤ := (m.tobR, m.toaR, m.tobA, m.toaA)

def mccNumbers (gap dR dA off tobR : ℤ) : ℤ × ℤ × ℤ × ℤ :=
  (tobR, dR - tobR, off - (dR - tobR) - gap, dA - (off - (dR - tobR) - gap))

def toU8s (n : ℤ × ℤ × ℤ × ℤ) : ℤ × ℤ × ℤ × ℤ := (toU8 n.1, toU8 n.2.1, toU8 n.2.2.1, toU8 n.2.2.2)

@[simp]
lemma numbers_mccFillSlotInfo (btRole : Bool) (dur : ℕ) (mrole : Option ℕ) (m : MccPattern) :
    (mccFillSlotInfo btRole dur mrole m).numbers = m.numbers := by
  unfold mccFillSlotInfo
  split_ifs <;> rfl

lemma toU8s_eq_iff (hx : MccFeasible gap dR dA off x) :
    toU8s (mccNumbers gap dR dA off x) = mccNumbers gap dR dA off x
      ↔ x < 256 ∧ dR - x < 256 ∧ off - (dR - x) - gap < 256
        ∧ dA - (off - (dR - x) - gap) < 256 := by
  have hT := mccRxBcnT
  obtain ⟨h1, h2, h3, h4⟩ := hx
  simp [toU8s, mccNumbers, toU8]
  omega

lemma numbers_mccClientsPattern {refDur anoDur : ℕ} (m : MccPattern)
    (hb : MccBounded gap refDur anoDur off)
    (hle : mccLo gap refDur off ≤ mccHi gap refDur anoDur off) :
    ∃ e, MccExit gap refDur anoDur off e ∧ MccFeasible gap refDur anoDur off (e - 1)
      ∧ (mccClientsPattern gap refDur anoDur off m).numbers
        = toU8s (mccNumbers gap refDur anoDur off (e - 1)) := by
  have hr := hb.ref
  have ha := hb.ano
  have hleft : (refDur : ℤ) ≤ (toU16 (refDur + anoDur) - earlyRxBcnT.toNat : ℕ) + earlyRxBcnT :=
    le_toU16_add (by omega) (by omega)
  have he := mccExitLoop_exit hb hle _ hleft
  have hx := mccExitLoop_feasible hb hle _ hleft
  refine ⟨_, he, hx, ?_⟩
  simp (disch := omega) only [mccClientsPattern, numbers_mccFillSlotInfo, toS16_eq]
  generalize mccExitLoop gap refDur anoDur off
    (toU16 (refDur + anoDur) - earlyRxBcnT.toNat) earlyRxBcnT 0 - 1 = x at hx
  have hT := mccRxBcnT
  obtain ⟨h1, h2, h3⟩ := hb.exact hx.refEarly (by have := hx.refLate; omega)
  simp only [MccPattern.numbers, toU8s, mccNumbers, h1, h2, h3]

end Rtl8852be

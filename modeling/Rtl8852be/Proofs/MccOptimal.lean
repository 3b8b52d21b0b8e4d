import Rtl8852be.Proofs.MccSearch
import Mathlib.Tactic.Ring

/-!
# Whether the search finds the best place

The one function takes the place where the stored cost rises first, which is one too far; the other
takes the place before, and cuts its numbers to 8 bits.
-/

namespace Rtl8852be

variable {gap dR dA off x : ℤ} {ref ano : MccDurInfo} {offset : ℕ} {m : MccPattern}

@[local simp] def mccTurn (gap dR dA off : ℤ) : ℤ := 3 * dR + dA - 2 * (off - gap)

def mccBestFirst (gap dR dA off : ℤ) : ℤ :=
  max (mccLo gap dR off)
    (min (mccHi gap dR dA off) ((mccTurn gap dR dA off + 1) / 4))

def mccBestLast (gap dR dA off : ℤ) : ℤ :=
  max (mccLo gap dR off)
    (min (mccHi gap dR dA off) ((mccTurn gap dR dA off + 2) / 4))

lemma mccCost_sub (gap dR dA off x : ℤ) :
    mccCost gap dR dA off x - mccCost gap dR dA off (x - 1)
      = 8 * (4 * x - 2 - mccTurn gap dR dA off) := by
  unfold mccCost mccSum mccTurn
  ring

lemma mccCost_shape (hr : 0 ≤ dR ∧ dR ≤ 1000) (ha : 0 ≤ dA ∧ dA ≤ 1000)
    (ho : 0 ≤ off ∧ off ≤ 1000)
    (hle : mccLo 0 dR off ≤ mccHi 0 dR dA off) :
    Valley.Shape (mccCost 0 dR dA off) 65536 (mccLo 0 dR off)
      (mccHi 0 dR dA off) (mccBestFirst 0 dR dA off)
      (mccBestLast 0 dR dA off) := by
  have hslope := fun x => mccCost_sub 0 dR dA off x
  have hT := mccRxBcnT
  generalize mccCost 0 dR dA off = f at hslope
  unfold mccBestFirst mccBestLast
  have hturn : mccTurn 0 dR dA off = 3 * dR + dA - 2 * off := by
    simp
  generalize mccTurn 0 dR dA off = t at hslope hturn
  refine ⟨le_max_left _ _, by omega, by omega, ?_, ?_, ?_, ?_⟩
  · intro x hx hxp
    have := hslope x
    omega
  · intro x hx hxq
    have := hslope x
    omega
  · intro x hx hxh
    have := hslope x
    omega
  · intro x hx hxh
    have := hslope x
    unfold mccLo mccHi at *
    omega

/-- The numbers stored are those of a feasible place with the least cost. -/
def MccOptimal (dR dA off : ℤ) (m : MccPattern) : Prop :=
  ∃ x, MccFeasible 0 dR dA off x ∧ m.numbers = mccNumbers 0 dR dA off x
    ∧ ∀ y, MccFeasible 0 dR dA off y →
      mccCost 0 dR dA off x ≤ mccCost 0 dR dA off y

/-- The window of 65536 values in which the cost of a place lies. -/
def mccWindow (dR dA off x : ℤ) : ℤ := (mccCost 0 dR dA off x).bdiv 65536

/-- The cost falls up to the last place in one window, or changes it at the first of the best
places. -/
def MccWroleFinds (dR dA off : ℤ) : Prop :=
  let window := mccWindow dR dA off
  let lo := mccLo 0 dR off
  let p := mccBestFirst 0 dR dA off
  (window lo = window p ∧ mccBestLast 0 dR dA off = mccHi 0 dR dA off)
    ∨ (lo < p ∧ window lo = window (p - 1) ∧ window (p - 1) ≠ window p)

/-- The cost stays in one window up to the last of the best places. That is the last feasible one,
or its cost is not 0 and the next one lies in the window too. Its numbers fit 8 bits. -/
def MccClientsFinds (dR dA off : ℤ) : Prop :=
  let window := mccWindow dR dA off
  let q := mccBestLast 0 dR dA off
  (window (mccLo 0 dR off) = window q ∧ (q = mccHi 0 dR dA off
      ∨ ((mccCost 0 dR dA off q).bmod 65536 ≠ 0 ∧ window q = window (q + 1))))
    ∧ q < 256 ∧ dR - q < 256 ∧ off - (dR - q) < 256
    ∧ dA - (off - (dR - q)) < 256

abbrev MccLeast (dR dA off : ℤ) : ℤ → Prop :=
  Valley.Least (mccCost 0 dR dA off) (mccLo 0 dR off) (mccHi 0 dR dA off)

lemma least_iff_feasible : MccLeast dR dA off x
      ↔ MccFeasible 0 dR dA off x ∧ ∀ y, MccFeasible 0 dR dA off y →
        mccCost 0 dR dA off x ≤ mccCost 0 dR dA off y := by
  simp [Valley.Least, mccFeasible_iff]

lemma mccOptimal_iff_of_numbers (hnum : m.numbers = mccNumbers 0 dR dA off x) :
    MccOptimal dR dA off m ↔ MccLeast dR dA off x := by
  rw [least_iff_feasible]
  constructor
  · rintro ⟨y, hy, heq, hleast⟩
    obtain rfl : x = y := congrArg Prod.fst (hnum.symm.trans heq)
    exact ⟨hy, hleast⟩
  · rintro ⟨hx, hleast⟩
    exact ⟨x, hx, hnum, hleast⟩

lemma mccOptimal_iff_of_cut (hx : MccFeasible 0 dR dA off x)
    (hnum : m.numbers = toU8s (mccNumbers 0 dR dA off x)) :
    MccOptimal dR dA off m
      ↔ MccLeast dR dA off x ∧ x < 256 ∧ dR - x < 256 ∧ off - (dR - x) < 256
        ∧ dA - (off - (dR - x)) < 256 := by
  have hcut := toU8s_eq_iff hx
  simp at hcut
  by_cases hfit : toU8s (mccNumbers 0 dR dA off x) = mccNumbers 0 dR dA off x
  · rw [mccOptimal_iff_of_numbers (hnum.trans hfit)]
    exact (and_iff_left (hcut.1 hfit)).symm
  refine iff_of_false ?_ fun h => hfit (hcut.2 h.2)
  rintro ⟨y, -, heq, -⟩
  refine hfit (hcut.2 ?_)
  have hT := mccRxBcnT
  obtain ⟨h1, h2, h3, h4⟩ := hx
  rw [hnum] at heq
  simp [toU8s, mccNumbers, toU8] at heq
  omega

section Both

variable (hr : ref.dur ≤ 1000) (ha : ano.dur ≤ 1000) (ho : offset ≤ 1000)
  (hex : ∃ x, MccFeasible 0 ref.dur ano.dur offset x)

include hr ha ho hex

lemma mccOptimal_clients_iff (m : MccPattern) :
    MccOptimal ref.dur ano.dur offset (mccCalculate2ClientsPattern ref.dur ano.dur offset m)
      ↔ MccClientsFinds ref.dur ano.dur offset := by
  obtain ⟨x, hx⟩ := hex
  have hle := hx.lo_le_hi
  have hb : MccBounded 0 ref.dur ano.dur offset := ⟨by omega, by omega, by omega, by omega⟩
  have hshape := mccCost_shape hb.ref hb.ano (by omega) hle
  obtain ⟨e, he, hfeasible, hnum⟩ := numbers_mccClientsPattern m hb hle
  rw [mccCalculate2ClientsPattern, toS16_eq (by omega) (by omega),
    mccOptimal_iff_of_cut hfeasible hnum, MccLeast, hshape.least_before he (by simp),
    MccClientsFinds]
  have hiff := hshape.before_eq_iff he (by simp)
  constructor
  · rintro ⟨heq, hfit⟩
    exact ⟨hiff.1 heq, heq ▸ hfit⟩
  · rintro ⟨hw, hfit⟩
    have heq := hiff.2 hw
    exact ⟨heq, heq.symm ▸ hfit⟩

lemma mccOptimal_wrole_iff (hrl : ref.durLimit.enable = false)
    (hal : ano.durLimit.enable = false) (m : MccPattern) :
    ((mccCalculate2WrolePattern ref ano offset m).1 = .success
        ∧ MccOptimal ref.dur ano.dur offset (mccCalculate2WrolePattern ref ano offset m).2)
      ↔ MccWroleFinds ref.dur ano.dur offset := by
  obtain ⟨x, hx⟩ := hex
  have hle := hx.lo_le_hi
  have hb : MccBounded 0 ref.dur ano.dur offset := ⟨by omega, by omega, by omega, by omega⟩
  have hshape := mccCost_shape hb.ref hb.ano (by omega) hle
  obtain ⟨e, he, hcand⟩ := mccSearchLoop_exit hb hle false hrl hal _ (le_toU16_add hr ha)
  have hfeasible := mccSearchLoop_feasible hb hle false hrl hal _ (le_toU16_add hr ha)
  have hsearch : mccSearch false 0 ref ano offset
      = mccSearchLoop false 0 ref.dur ano.dur offset ref.durLimit ano.durLimit
        (toU16 (ref.dur + ano.dur) - earlyRxBcnT.toNat) earlyRxBcnT 0 0 := by
    simp (disch := omega) only [mccSearch, toS16_eq]
  rw [← hsearch] at hcand hfeasible
  have hne : mccSearch false 0 ref ano offset ≠ 0 := by
    intro h0
    rw [h0] at hfeasible
    exact absurd hfeasible.refEarly (by simp)
  have hlt := mccSearch_lt offset false 0 hr ha
  have hnum : (mccCalculate2WrolePattern ref ano offset m).2.numbers
      = mccNumbers 0 ref.dur ano.dur offset (mccSearch false 0 ref ano offset) := by
    simp [mccCalculate2WrolePattern, if_neg hne, mccFillRef, mccFillAno,
      mccSetPattern_eq hr ha ho hfeasible.refEarly hlt]
    simp [MccPattern.numbers, mccNumbers]
  have hok : (mccCalculate2WrolePattern ref ano offset m).1 = .success := by
    simp [mccCalculate2WrolePattern, hne]
  rw [and_iff_right hok, mccOptimal_iff_of_numbers hnum, hcand, MccLeast,
    hshape.least_exit_iff he (by simp)]
  rfl

/-- Where a feasible place exists, each function stores the numbers of a best one exactly under its
condition. -/
theorem mcc_search_optimal_iff (hrl : ref.durLimit.enable = false)
    (hal : ano.durLimit.enable = false) (m : MccPattern) :
    (MccOptimal ref.dur ano.dur offset (mccCalculate2ClientsPattern ref.dur ano.dur offset m)
      ↔ MccClientsFinds ref.dur ano.dur offset)
    ∧ (((mccCalculate2WrolePattern ref ano offset m).1 = .success
        ∧ MccOptimal ref.dur ano.dur offset (mccCalculate2WrolePattern ref ano offset m).2)
      ↔ MccWroleFinds ref.dur ano.dur offset) :=
  ⟨mccOptimal_clients_iff hr ha ho hex m, mccOptimal_wrole_iff hr ha ho hex hrl hal m⟩

end Both

/-- Slots of 30 and 60 TU and beacons 30 TU apart: the cost falls from 5 to 20. -/
theorem mcc_search_optimal_falling :
    let res := mccCalculate2WrolePattern ⟨30, ⟨false, 0, 0⟩⟩ ⟨60, ⟨false, 0, 0⟩⟩ 30
      (mccPatternReset 0 1)
    MccOptimal 30 60 30 (mccCalculate2ClientsPattern 30 60 30 (mccPatternReset 0 1))
    ∧ res.1 = .success ∧ MccOptimal 30 60 30 res.2 := by
  have h := @mcc_search_optimal_iff ⟨30, ⟨false, 0, 0⟩⟩ ⟨60, ⟨false, 0, 0⟩⟩ 30 (by simp) (by simp)
    (by simp) ⟨5, by constructor <;> simp⟩ rfl rfl (mccPatternReset 0 1)
  refine ⟨h.1.2 ?_, h.2.2 (.inl ?_)⟩
  · simp [MccClientsFinds, mccWindow, mccLo, mccHi, mccBestLast, Int.bdiv]
  · simp [mccWindow, mccLo, mccHi, mccBestFirst, mccBestLast, Int.bdiv]

/-- The cost 0 of 25 TU on each side is taken for none. The one function stores 26 and 24, the other
27 and 23. -/
theorem mcc_search_passes_best : MccFeasible 0 50 50 50 25 ∧ mccCost 0 50 50 50 25 = 0
    ∧ ¬ MccOptimal 50 50 50 (mccCalculate2ClientsPattern 50 50 50 (mccPatternReset 0 1))
    ∧ ¬ MccOptimal 50 50 50 (mccCalculate2WrolePattern ⟨50, ⟨false, 0, 0⟩⟩ ⟨50, ⟨false, 0, 0⟩⟩ 50
        (mccPatternReset 0 1)).2 := by
  have hbest : MccFeasible 0 50 50 50 25 := by constructor <;> simp
  have hzero : mccCost 0 50 50 50 25 = 0 := rfl
  have hclients : (mccCalculate2ClientsPattern 50 50 50 (mccPatternReset 0 1)).numbers
      = mccNumbers 0 50 50 50 26 := by decide +kernel
  have hwrole : (mccCalculate2WrolePattern ⟨50, ⟨false, 0, 0⟩⟩ ⟨50, ⟨false, 0, 0⟩⟩ 50
      (mccPatternReset 0 1)).2.numbers = mccNumbers 0 50 50 50 27 := by decide +kernel
  refine ⟨hbest, hzero, fun h => ?_, fun h => ?_⟩
  · have hleast := (least_iff_feasible.1 ((mccOptimal_iff_of_numbers hclients).1 h)).2 25 hbest
    exact absurd hleast (by simp)
  · have hleast := (least_iff_feasible.1 ((mccOptimal_iff_of_numbers hwrole).1 h)).2 25 hbest
    exact absurd hleast (by simp)

end Rtl8852be

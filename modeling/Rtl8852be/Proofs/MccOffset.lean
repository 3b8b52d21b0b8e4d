import Rtl8852be.MccDur
import Rtl8852be.Proofs.MccSearch

/-!
# Which offsets can be laid out

The range computed for a Bluetooth slot behind the Wi-Fi slots is the interval of offsets with a
feasible place; the one for a slot in between begins too late, as one of its corners is stored where
another was.
-/

namespace Rtl8852be

open MccCalc

variable {ref ano : MccDurInfo} {offset : ℕ} {gap btDur : ℤ} {m : MccPattern}

lemma exists_feasible_iff {dR dA off : ℤ} (hR : 15 ≤ dR) (hA : 15 ≤ dA) :
    (∃ tobR, MccFeasible gap dR dA off tobR)
      ↔ 15 + gap ≤ off ∧ off ≤ dR + dA + gap - 15 := by
  have hT := mccRxBcnT
  constructor
  · rintro ⟨x, h1, h2, h3, h4⟩
    omega
  · rintro ⟨h1, h2⟩
    refine ⟨mccLo gap dR off, mccFeasible_iff.2 ⟨le_rfl, ?_⟩⟩
    unfold mccLo mccHi
    omega

lemma toS16_lt (x : ℤ) : toS16 x < 32768 := by
  simp only [toS16, Int.bmod_def]
  split_ifs <;> omega

lemma toS16_sub_small {k : ℤ} (hk : 0 ≤ k) (hk' : k ≤ 2000) (ho : offset < 65536)
    (hlo : 5 ≤ toS16 (toS16 offset - k)) (hhi : toS16 (toS16 offset - k) ≤ 1000) :
    toS16 (toS16 offset - k) = offset - k := by
  simp only [toS16, Int.bmod_def] at *
  split_ifs at * <;> omega

lemma toS16_slot_small {y : ℤ} (ha : ano.dur ≤ 1000) (hy : earlyRxBcnT ≤ toS16 y)
    (h : minRxBcnT ≤ toS16 (ano.dur - toS16 y)) :
    minRxBcnT ≤ ano.dur - toS16 y ∧ toS16 y ≤ 1000 := by
  have hT := mccRxBcnT
  have hlt := toS16_lt y
  rw [toS16_eq (by omega) (by omega)] at h
  omega

lemma mccSearch_ne_zero_iff (btSlot : Bool) (hr : ref.dur ≤ 1000) (ha : ano.dur ≤ 1000)
    (hg : 0 ≤ gap) (hg' : gap ≤ 1000) (ho : offset < 65536) (hrl : ref.durLimit.enable = false)
    (hal : ano.durLimit.enable = false) :
    mccSearch btSlot gap ref ano offset ≠ 0
      ↔ ∃ tobR, MccFeasible gap ref.dur ano.dur offset tobR := by
  have hT := mccRxBcnT
  have hdR : toS16 ref.dur = ref.dur := toS16_eq (by omega) (by omega)
  have hdA : toS16 ano.dur = ano.dur := toS16_eq (by omega) (by omega)
  constructor
  · intro hne
    obtain ⟨he, hl, -, hae, hal, -⟩ := mccSearch_accepted hne
    have hlt := mccSearch_lt offset btSlot gap hr ha
    generalize mccSearch btSlot gap ref ano offset = x at hne he hl hae hal hlt
    have htoaR : toS16 (ref.dur - x) = ref.dur - x := toS16_eq (by omega) (by omega)
    rw [hdR, htoaR, sub_sub] at hae hal
    rw [hdR, htoaR] at hl
    rw [hdA] at hal
    have hk : 0 ≤ ref.dur - x + gap ∧ ref.dur - x + gap ≤ 2000 := by omega
    -- the other beacon's distance is small, as the other slot is
    have hslot := toS16_slot_small ha hae hal
    have hy := toS16_sub_small hk.1 hk.2 ho hae hslot.2
    rw [hy, ← sub_sub] at hae hslot
    exact ⟨x, he, hl, hae, hslot.1⟩
  · rintro ⟨x, hx⟩
    have ⟨h1, h2, h3, h4⟩ := hx
    have hof : toS16 offset = offset := toS16_eq (by omega) (by omega)
    have hb : MccBounded gap ref.dur ano.dur offset := ⟨by omega, by omega, by omega, by omega⟩
    have hle := hx.lo_le_hi
    rw [mccSearch, hdR, hdA, hof]
    intro h0
    have hfound := mccSearchLoop_feasible hb hle btSlot hrl hal _ (le_toU16_add hr ha)
    rw [h0] at hfound
    exact absurd hfound.refEarly (by simp)

/-! The corners. -/

section

variable {refDur anoDur : ℤ} (hr : 15 ≤ refDur) (hr' : refDur ≤ 1000) (ha : 15 ≤ anoDur)
  (ha' : anoDur ≤ 1000)
include hr hr' ha ha'

lemma mccGetOffsetRangeFor2wslot1btslotP1_eq :
    mccGetOffsetRangeFor2wslot1btslotP1 refDur anoDur = (15, refDur + anoDur - 15) := by
  simp (disch := omega) only [mccGetOffsetRangeFor2wslot1btslotP1, mccGetOffsetFor2Wslot1BtslotP1,
    earlyRxBcnT, minRxBcnT, toS16_eq]
  refine Prod.ext ?_ ?_ <;> simp only <;> split_ifs <;> omega

lemma mccGetOffsetRangeFor2wslot1btslotP2_eq (hb : 0 ≤ btDur) (hb' : btDur ≤ 1000) :
    mccGetOffsetRangeFor2wslot1btslotP2 refDur anoDur btDur
      = (min refDur anoDur + btDur, refDur + anoDur + btDur - 15) := by
  simp (disch := omega) only [mccGetOffsetRangeFor2wslot1btslotP2, mccGetOffsetFor2Wslot1BtslotP2,
    earlyRxBcnT, minRxBcnT, toS16_eq]
  refine Prod.ext ?_ ?_ <;> simp only <;> split_ifs <;> omega

end

def MccCalc.between (btDur : ℤ) : MccCalc → ℤ
  | .wrole2 | .pattern1 => 0
  | .pattern2 => btDur

/-- The range is that of the offsets with a feasible place, and in it a pattern is found. -/
def MccCalc.RangeExact (c : MccCalc) (ref ano : MccDurInfo) (btDur : ℤ) (range : ℤ × ℤ) : Prop :=
  ∀ offset : ℕ, offset < 65536 → ((range.1 ≤ offset ∧ offset ≤ range.2)
      ↔ ∃ tobR, MccFeasible (c.between btDur) ref.dur ano.dur offset tobR)
    ∧ (range.1 ≤ offset ∧ offset ≤ range.2 → ∀ m, (c.calculate ref ano offset btDur m).1 = .success)

section Ranges

variable (hr : 15 ≤ ref.dur ∧ ref.dur ≤ 1000) (ha : 15 ≤ ano.dur ∧ ano.dur ≤ 1000)
  (hrl : ref.durLimit.enable = false) (hal : ano.durLimit.enable = false)
  (hbt : 0 ≤ btDur ∧ btDur ≤ 1000)

include hr ha hrl hal hbt

lemma MccCalc.success_of_feasible (c : MccCalc) (ho : offset < 65536)
    (h : ∃ tobR, MccFeasible (c.between btDur) ref.dur ano.dur offset tobR) :
    (c.calculate ref ano offset btDur m).1 = .success := by
  cases c with
  | wrole2 =>
    have hne := (mccSearch_ne_zero_iff false hr.2 ha.2 le_rfl (by simp) ho hrl hal).2 h
    simp [mccCalculate2WrolePattern, hne]
  | pattern1 =>
    have hne := (mccSearch_ne_zero_iff true hr.2 ha.2 le_rfl (by simp) ho hrl hal).2 h
    simp [mccCalculate2wslot1btslotPattern1, hne]
  | pattern2 =>
    have hne := (mccSearch_ne_zero_iff true hr.2 ha.2 hbt.1 hbt.2 ho hrl hal).2 h
    simp [mccCalculate2wslot1btslotPattern2, hne]

/-- A beginning that comes later leaves the first offset out. -/
lemma MccCalc.rangeExact_iff (c : MccCalc) {lo hi k : ℤ} (hc : c.between btDur = k)
    (hk : 0 ≤ k ∧ k ≤ 1000) (hlo : 15 + k ≤ lo) (hhi : hi = ref.dur + ano.dur + k - 15) :
    c.RangeExact ref ano btDur (lo, hi) ↔ lo = 15 + k := by
  have hiff : ∀ offset : ℕ, (∃ tobR, MccFeasible (c.between btDur) ref.dur ano.dur offset tobR)
      ↔ 15 + k ≤ offset ∧ offset ≤ hi := fun offset => by
    rw [exists_feasible_iff (by omega) (by omega), hc, hhi]
  constructor
  · intro hex
    have h := (hex (15 + k).toNat (by omega)).1.2 ((hiff _).2 (by omega))
    omega
  · rintro rfl offset ho
    refine ⟨(hiff offset).symm, fun hin m => ?_⟩
    exact c.success_of_feasible hr ha hrl hal hbt ho ((hiff offset).2 hin)

end Ranges

/-- That of the slot in between exactly when a Wi-Fi slot is as short as a slot may be. -/
theorem mcc_offset_ranges_exact_iff (hr : minClientDur ≤ ref.dur ∧ ref.dur ≤ 1000)
    (ha : minClientDur ≤ ano.dur ∧ ano.dur ≤ 1000) (hrl : ref.durLimit.enable = false)
    (hal : ano.durLimit.enable = false) (hbt : 0 ≤ btDur ∧ btDur ≤ 1000) :
    pattern1.RangeExact ref ano btDur
      (mccGetOffsetRangeFor2wslot1btslotP1 (toS16 ref.dur) (toS16 ano.dur))
    ∧ (pattern2.RangeExact ref ano btDur
        (mccGetOffsetRangeFor2wslot1btslotP2 (toS16 ref.dur) (toS16 ano.dur) btDur)
      ↔ ref.dur = minClientDur ∨ ano.dur = minClientDur) := by
  have h15 : minClientDur = 15 := rfl
  rw [toS16_eq (by omega) (by omega), toS16_eq (by omega) (by omega),
    mccGetOffsetRangeFor2wslot1btslotP1_eq (by omega) (by omega) (by omega) (by omega),
    mccGetOffsetRangeFor2wslot1btslotP2_eq (by omega) (by omega) (by omega) (by omega) hbt.1 hbt.2]
  have hp1 : pattern1.between btDur = 0 := rfl
  have hp2 : pattern2.between btDur = btDur := rfl
  refine ⟨(pattern1.rangeExact_iff hr ha hrl hal hbt hp1 (by simp) le_rfl (by simp)).2 rfl,
    (pattern2.rangeExact_iff hr ha hrl hal hbt hp2 hbt (by omega) rfl).trans ?_⟩
  omega

/-- Two slots of 15 and 40 TU, and a Bluetooth slot of 20. -/
theorem mcc_offset_ranges_exact_short :
    pattern2.RangeExact ⟨15, ⟨false, 0, 0⟩⟩ ⟨40, ⟨false, 0, 0⟩⟩ 20
      (mccGetOffsetRangeFor2wslot1btslotP2 (toS16 15) (toS16 40) 20) :=
  (mcc_offset_ranges_exact_iff (by simp) (by simp) rfl rfl (by simp)).2.2 (.inl rfl)

/-- Slots of 40 TU and a Bluetooth slot of 20: the range begins with 60, but beacons 35 TU apart can
be laid out. -/
theorem mcc_offset_range_late :
    mccGetOffsetRangeFor2wslot1btslotP2 (toS16 40) (toS16 40) 20 = (60, 85)
    ∧ MccFeasible 20 40 40 35 30
    ∧ ¬ pattern2.RangeExact ⟨40, ⟨false, 0, 0⟩⟩ ⟨40, ⟨false, 0, 0⟩⟩ 20
      (mccGetOffsetRangeFor2wslot1btslotP2 (toS16 40) (toS16 40) 20) := by
  have hfeasible : MccFeasible 20 40 40 35 30 := by
    constructor <;> simp
  refine ⟨rfl, hfeasible, fun h => ?_⟩
  have hin := (h 35 (by simp)).1.2 ⟨30, hfeasible⟩
  exact absurd hin.1 (by decide)

/-- The beacons are apart by the two slots and what lies behind the one and before the other, up to
whole beacon intervals. -/
structure MccWorsecaseSound (refDur anoDur offset : ℕ) (m : MccPattern) : Prop where
  ref : m.tobR + m.toaR = refDur
  ano : m.tobA + m.toaA = anoDur
  early : earlyRxBcnT ≤ m.tobR ∧ earlyRxBcnT ≤ m.tobA
  late : minRxBcnT ≤ m.toaR ∧ minRxBcnT ≤ m.toaA
  distance : (refDur + anoDur + m.toaR + m.tobA) % 100 = (offset : ℤ) % 100

section Worsecase

variable {refDur anoDur : ℕ} (hsum : refDur + anoDur = 150)

include hsum

lemma mccGetOffsetRangeFor2ClientsWorsecase_eq :
    mccGetOffsetRangeFor2ClientsWorsecase refDur anoDur 100
      = (min (-35) ((refDur : ℤ) - 50), max ((anoDur : ℤ) - 50) 85) := by
  simp (disch := omega) only [mccGetOffsetRangeFor2ClientsWorsecase,
    mccGetOffsetFor2ClientsWorsecase, earlyRxBcnT, minRxBcnT, toS16_eq]
  refine Prod.ext ?_ ?_ <;> simp only <;> split_ifs <;> omega

/-- The search is always made: an offset beyond the range is taken as what it lacks to a whole
interval. -/
lemma mccWorsecaseOffset_eq {offset : ℕ} (ho : offset < 100) :
    mccWorsecaseOffset (mccGetOffsetRangeFor2ClientsWorsecase refDur anoDur 100) 100 offset
      = some (if (offset : ℤ) ≤ max ((anoDur : ℤ) - 50) 85 then (offset : ℤ)
          else 100 - offset) := by
  rw [mccGetOffsetRangeFor2ClientsWorsecase_eq hsum]
  simp only [mccWorsecaseOffset]
  by_cases hin : (offset : ℤ) ≤ max ((anoDur : ℤ) - 50) 85
  · rw [if_pos ⟨by omega, hin⟩, if_pos hin]
  · rw [if_neg (fun h => hin h.2), if_neg hin, toS16_eq (by omega) (by omega),
      if_pos ⟨by omega, by omega⟩]
    rfl

lemma mccCalc2ClientsWorsecasePattern_eq {offset : ℕ} (ho : offset < 100) (m : MccPattern) :
    mccCalc2ClientsWorsecasePattern refDur anoDur offset 100 m
      = (.success, mccClientsPattern (-50) refDur anoDur
          (if (offset : ℤ) ≤ max ((anoDur : ℤ) - 50) 85 then (offset : ℤ) else 100 - offset) m,
        false) := by
  have hgap : (toU16 (refDur + anoDur) : ℤ) - 2 * (100 : ℕ) = -50 := by
    unfold toU16
    omega
  simp (disch := omega) only [mccCalc2ClientsWorsecasePattern, toS16_eq,
    mccWorsecaseOffset_eq hsum ho, hgap]
  rfl

lemma numbers_worsecase (m : MccPattern) (hr : 15 ≤ refDur) (ha : 15 ≤ anoDur)
    (off : ℤ) (h0 : 0 ≤ off) (h85 : off ≤ 85) :
    ∃ x, MccFeasible (-50) refDur anoDur off x
      ∧ (mccClientsPattern (-50) refDur anoDur off m).numbers
        = mccNumbers (-50) refDur anoDur off x := by
  have hb : MccBounded (-50) refDur anoDur off := ⟨by omega, by omega, by omega, by omega⟩
  have hex : ∃ x, MccFeasible (-50) refDur anoDur off x :=
    (exists_feasible_iff (by omega) (by omega)).2 (by omega)
  obtain ⟨x, hx⟩ := hex
  have hle := hx.lo_le_hi
  obtain ⟨e, -, hx, hnum⟩ := numbers_mccClientsPattern m hb hle
  refine ⟨e - 1, hx, hnum.trans ((toU8s_eq_iff hx).2 ?_)⟩
  have hT := mccRxBcnT
  obtain ⟨h1, h2, h3, h4⟩ := hx
  omega

theorem mcc_worsecase_sound_iff {offset : ℕ} (ho : offset < 100) :
    ((mccCalc2ClientsWorsecasePattern refDur anoDur offset 100 m).1 = .success →
        MccWorsecaseSound refDur anoDur offset
          (mccCalc2ClientsWorsecasePattern refDur anoDur offset 100 m).2.1)
      ↔ minClientDur ≤ refDur ∧ minClientDur ≤ anoDur ∧ offset ≤ 85 := by
  have hT := mccRxBcnT
  rw [mccCalc2ClientsWorsecasePattern_eq hsum ho]
  simp
  constructor
  · rintro ⟨hr, ha, hearly, hlate, hd⟩
    have hrd : 15 ≤ refDur := by omega
    have had : 15 ≤ anoDur := by omega
    refine ⟨hrd, had, ?_⟩
    by_contra hgt
    -- the distance is then that of the rewritten offset
    rw [if_neg (by omega)] at hd
    obtain ⟨x, -, hnum⟩ := numbers_worsecase hsum m hrd had (100 - offset) (by omega) (by omega)
    simp [MccPattern.numbers, mccNumbers] at hnum
    obtain ⟨-, h2, h3, -⟩ := hnum
    omega
  · rintro ⟨hrd, had, hle⟩
    rw [if_pos (by omega)]
    obtain ⟨x, hx, hnum⟩ := numbers_worsecase hsum m hrd had offset (by omega) (by omega)
    simp [MccPattern.numbers, mccNumbers] at hnum
    obtain ⟨e1, e2, e3, e4⟩ := hnum
    obtain ⟨h1, h2, h3, h4⟩ := hx
    constructor <;> simp only [e1, e2, e3, e4] <;> omega

end Worsecase

/-- Slots of 60 and 90 TU, and beacons 10 TU apart. -/
theorem mcc_worsecase_sound_ten :
    (mccCalc2ClientsWorsecasePattern 60 90 10 100 (mccPatternReset 0 1)).1 = .success
      ∧ MccWorsecaseSound 60 90 10
        (mccCalc2ClientsWorsecasePattern 60 90 10 100 (mccPatternReset 0 1)).2.1 :=
  ⟨rfl, (mcc_worsecase_sound_iff rfl (by simp)).2 (by simp) rfl⟩

/-- Beacons 95 TU apart are laid out 205 TU apart: 150 TU, and 20 and 35 in the slots. -/
theorem mcc_worsecase_rewritten :
    (mccCalc2ClientsWorsecasePattern 60 90 95 100 (mccPatternReset 0 1)).1 = .success
    ∧ ¬ MccWorsecaseSound 60 90 95
      (mccCalc2ClientsWorsecasePattern 60 90 95 100 (mccPatternReset 0 1)).2.1 := by
  refine ⟨rfl, fun h => ?_⟩
  have hd := h.distance
  exact absurd hd (by decide +kernel)

end Rtl8852be

import Rtl8852be.MccStart
import Rtl8852be.Proofs.MccDur

/-!
# The start of a pattern and the limits of a slot

The start is found exactly when nine intervals bridge the way to the earliest time allowed and the
TSF is old enough to subtract from. The limits are right exactly when the absence begins within the
first 65536 microseconds of the interval, or is not usable either way.
-/

namespace Rtl8852be

open Nat BcnTiming

variable {x : ℕ}

lemma toU64_eq (hx : x < 2 ^ 64) : toU64 x = x := by
  unfold toU64
  omega

lemma toU32_eq (hx : x < 2 ^ 32) : toU32 x = x := by
  unfold toU32
  omega

lemma toU16_eq (hx : x < 65536) : toU16 x = x := by
  unfold toU16
  omega

lemma toU32_sub {n k : ℕ} (hn : n < 2 ^ 32) (hk : k ≤ n) : toU32 (n - k) = n - k := by
  unfold toU32
  omega

@[simp] lemma tsfOf_halves (x : ℕ) : tsfOf (tsfHalves x).1 (tsfHalves x).2 = x := by
  unfold tsfOf tsfHalves
  omega

variable {tsf bcnIntvl : ℕ}

section Start

variable {r : BcnTiming}

def BcnTiming.sinceTbtt (r : BcnTiming) (tsf : ℕ) : ℕ :=
  (tsf / tu + (r.bcnIntvl - r.bcnOffset)) % r.bcnIntvl

lemma phlCalcOffsetFromTbtt_eq (hhi : r.bcnIntvl < 65536) (hofst : r.bcnOffset < r.bcnIntvl) :
    phlCalcOffsetFromTbtt r tsf = some (r.sinceTbtt tsf) := by
  unfold phlCalcOffsetFromTbtt sinceTbtt
  rw [if_neg (by omega), mod_mul_left_div_self]
  generalize tsf / tu = q
  have hm := mod_lt q (by omega : 0 < r.bcnIntvl)
  have hq := div_add_mod q r.bcnIntvl
  generalize hmod : q % r.bcnIntvl = mod at *
  rw [← hq, add_assoc, mul_add_mod]
  simp only
  split_ifs with h
  · rw [mod_eq_of_lt (by omega), ← toU16_eq (by omega : mod + (r.bcnIntvl - r.bcnOffset) < 65536)]
    congr 2
    omega
  · rw [show mod + (r.bcnIntvl - r.bcnOffset) = mod - r.bcnOffset + r.bcnIntvl by omega,
      add_mod_right, mod_eq_of_lt (by omega), toU16_sub (by omega) (by omega)]

lemma mccStartLoop_isSome_iff (htsf : tsf + minTriggerMccTime * tu < 2 ^ 64) {left : ℕ} :
    ∀ {startTsf : ℕ}, startTsf + left * (bcnIntvl * tu) < 2 ^ 64 →
      ((mccStartLoop tsf bcnIntvl left startTsf).isSome
        ↔ ∃ k < left, tsf + minTriggerMccTime * tu ≤ startTsf + k * (bcnIntvl * tu)) := by
  induction left with
  | zero => simp [mccStartLoop]
  | succ left ih =>
    intro startTsf hlt
    rw [add_one_mul] at hlt
    unfold mccStartLoop
    rw [toU64_eq htsf]
    split_ifs with h
    · rw [toU64_eq (by omega), ih (by omega)]
      constructor
      · rintro ⟨k, hk, hle⟩
        exact ⟨k + 1, by omega, by rw [add_one_mul]; omega⟩
      · rintro ⟨k, hk, hle⟩
        obtain _ | k := k
        · omega
        · exact ⟨k, by omega, by rw [add_one_mul] at hle; omega⟩
    · simp
      exact ⟨0, by omega, by omega⟩

lemma mccStartLoop_first (htsf : tsf + minTriggerMccTime * tu < 2 ^ 64) {left s : ℕ} :
    ∀ {startTsf : ℕ}, startTsf + left * (bcnIntvl * tu) < 2 ^ 64 →
      mccStartLoop tsf bcnIntvl left startTsf = some s →
      (∃ k, s = startTsf + k * (bcnIntvl * tu)) ∧ tsf + minTriggerMccTime * tu ≤ s
        ∧ (s = startTsf ∨ s < tsf + minTriggerMccTime * tu + bcnIntvl * tu) := by
  induction left with
  | zero => simp [mccStartLoop]
  | succ left ih =>
    intro startTsf hlt h
    rw [add_one_mul] at hlt
    unfold mccStartLoop at h
    rw [toU64_eq htsf] at h
    split_ifs at h with hs
    · rw [toU64_eq (by omega)] at h
      obtain ⟨⟨k, hk⟩, hle, hor⟩ := ih (by omega) h
      refine ⟨⟨k + 1, by rw [add_one_mul]; omega⟩, hle, Or.inr ?_⟩
      rcases hor with heq | hor
      · omega
      · exact hor
    · cases h
      exact ⟨⟨0, by omega⟩, by omega, Or.inl rfl⟩

/-- A start in the window, with a beacon in the slot where the pattern has it. -/
structure MccStartOk (tsf : ℕ) (r : BcnTiming) (tobR startTsf : ℕ) : Prop where
  notBefore : tsf + minTriggerMccTime * tu ≤ startTsf
  notAfter : startTsf < tsf + minTriggerMccTime * tu + r.bcnIntvl * tu
  tbtt : ∃ t, t % (r.bcnIntvl * tu) = r.bcnOffset * tu
    ∧ t ≤ startTsf + tobR * tu + tu ∧ startTsf + tobR * tu ≤ t + tu

lemma exists_tbtt (hofst : r.bcnOffset < r.bcnIntvl) (hle : r.sinceTbtt tsf * tu ≤ tsf) (k : ℕ) :
    ∃ t, t % (r.bcnIntvl * tu) = r.bcnOffset * tu
      ∧ t + r.sinceTbtt tsf * tu ≤ tsf + k * (r.bcnIntvl * tu)
      ∧ tsf + k * (r.bcnIntvl * tu) < t + r.sinceTbtt tsf * tu + tu := by
  have hc := div_add_mod (tsf / tu + (r.bcnIntvl - r.bcnOffset)) r.bcnIntvl
  change _ + r.sinceTbtt tsf = _ at hc
  generalize r.sinceTbtt tsf = off at hc hle ⊢
  rw [show tu = 1024 from rfl] at *
  obtain ⟨c, hc'⟩ : ∃ c, (tsf / 1024 + (r.bcnIntvl - r.bcnOffset)) / r.bcnIntvl = c + 1 := by
    refine exists_eq_succ_of_ne_zero fun h0 => ?_
    rw [h0] at hc
    omega
  rw [hc', Nat.mul_add_one] at hc
  refine ⟨(r.bcnIntvl * (c + k) + r.bcnOffset) * 1024, ?_, ?_⟩
  · rw [Nat.add_mul, Nat.mul_right_comm, Nat.mul_add_mod,
      Nat.mod_eq_of_lt (Nat.mul_lt_mul_of_pos_right hofst (by omega))]
  · rw [Nat.mul_add]
    have hk : k * (r.bcnIntvl * 1024) = r.bcnIntvl * k * 1024 := by
      rw [Nat.mul_comm, Nat.mul_right_comm]
    omega

/-- A start is computed, and it is right. -/
def MccStartStored (tsfH tsfL : ℕ) (r : BcnTiming) (tobR : ℕ) : Prop :=
  ∃ start, mccCalculateStartTsf r tobR (some (tsfH, tsfL)) = some start
    ∧ MccStartOk (tsfOf tsfH tsfL) r tobR (tsfOf start.1 start.2)

lemma mccStartStored_iff_start {tsfH tsfL tobR : ℕ} (htsf : tsfOf tsfH tsfL = tsf) :
    MccStartStored tsfH tsfL r tobR
      ↔ ∃ s, mccStartTsf tsf r tobR = some s ∧ MccStartOk tsf r tobR s := by
  simp only [MccStartStored, mccCalculateStartTsf, htsf, Option.map_eq_some_iff]
  constructor
  · rintro ⟨_, ⟨s, hs, rfl⟩, hok⟩
    rw [tsfOf_halves] at hok
    exact ⟨s, hs, hok⟩
  · rintro ⟨s, hs, hok⟩
    exact ⟨_, ⟨s, hs, rfl⟩, by rwa [tsfOf_halves]⟩

lemma mccStartTsf_eq {tobR : ℕ} (hhi : r.bcnIntvl < 65536) (hofst : r.bcnOffset < r.bcnIntvl) :
    mccStartTsf tsf r tobR
      = mccStartLoop tsf r.bcnIntvl 10 (toU64 (tsf - ((r.sinceTbtt tsf + tobR) * tu : ℕ))) := by
  simp [mccStartTsf, phlCalcOffsetFromTbtt_eq hhi hofst]

theorem mccStart_aligned_iff {tsfH tsfL tobR : ℕ} (htsf : tsfOf tsfH tsfL = tsf)
    (hmax : tsf ≤ 2 ^ 63) (hlo : 40 ≤ r.bcnIntvl) (hhi : r.bcnIntvl ≤ 1000)
    (hofst : r.bcnOffset < r.bcnIntvl) (htob : tobR ≤ r.bcnIntvl) :
    MccStartStored tsfH tsfL r tobR ↔ (r.sinceTbtt tsf + tobR) * tu ≤ tsf
        ∧ minTriggerMccTime + (r.sinceTbtt tsf + tobR) ≤ 9 * r.bcnIntvl := by
  have hoff : r.sinceTbtt tsf < r.bcnIntvl := mod_lt _ (by omega)
  have hmin : minTriggerMccTime = 300 := rfl
  have htrig : minTriggerMccTime * tu = 307200 := rfl
  have hsince : r.sinceTbtt tsf * tu = r.sinceTbtt tsf * 1024 := rfl
  have htobR : tobR * tu = tobR * 1024 := rfl
  have hstep : r.bcnIntvl * tu = r.bcnIntvl * 1024 := rfl
  have hend : tsf + minTriggerMccTime * tu < 2 ^ 64 := by omega
  rw [mccStartStored_iff_start htsf, mccStartTsf_eq (by omega) hofst]
  generalize hd : r.sinceTbtt tsf + tobR = d
  have hback : d * tu = d * 1024 := rfl
  rcases lt_or_ge tsf (d * tu) with hlt | hge
  · -- the subtraction wraps, and the loop is content with what is left
    have hwrap : toU64 (tsf - (d * tu : ℕ)) = tsf + 2 ^ 64 - d * tu := by
      unfold toU64
      omega
    refine iff_of_false ?_ fun h => by omega
    rintro ⟨s, hs, hok⟩
    rw [hwrap, mccStartLoop, toU64_eq hend, if_neg (by omega)] at hs
    have := hok.notAfter
    cases hs
    omega
  · have hsub : toU64 (tsf - (d * tu : ℕ)) = tsf - d * tu := by
      unfold toU64
      omega
    have hfit : tsf - d * tu + 10 * (r.bcnIntvl * tu) < 2 ^ 64 := by omega
    have hsome := mccStartLoop_isSome_iff hend hfit
    rw [hsub, iff_comm, and_iff_right hge]
    constructor
    · intro hle
      obtain ⟨s, hs⟩ := Option.isSome_iff_exists.1 (hsome.2 ⟨9, by omega, by omega⟩)
      obtain ⟨⟨k, hk⟩, hnb, hna⟩ := mccStartLoop_first hend hfit hs
      obtain ⟨t, ht, htlo, hthi⟩ := exists_tbtt hofst (by omega : r.sinceTbtt tsf * tu ≤ tsf) k
      clear hsome
      refine ⟨s, hs, hnb, by omega, t, ht, ?_, ?_⟩ <;> omega
    · rintro ⟨s, hs, -⟩
      obtain ⟨k, hk, hle⟩ := hsome.1 (by rw [hs]; rfl)
      have : k * (r.bcnIntvl * tu) ≤ 9 * (r.bcnIntvl * tu) := mul_le_mul_right _ (by omega)
      omega

theorem mccStart_aligned_100 : MccStartStored 0 5171200 ⟨false, 0, 100, 30⟩ 20 :=
  (mccStart_aligned_iff (by simp [tsfOf] : tsfOf 0 5171200 = 5171200) (by simp)
    (by simp) (by simp) (by simp)
    (by simp)).2
    (by simp [sinceTbtt, tu, minTriggerMccTime])

/-- With an interval of 40 the nine steps do not reach; with a TSF of 5 ms the start wraps. -/
theorem mccStart_missed : ¬ MccStartStored 0 (439 * 1024) ⟨false, 0, 40, 0⟩ 40
      ∧ ¬ MccStartStored 0 (5 * 1024) ⟨false, 0, 100, 0⟩ 20 := by
  refine ⟨?_, ?_⟩
  · rintro ⟨start, hs, -⟩
    cases hs
  · rintro ⟨start, hs, hok⟩
    cases hs
    exact absurd hok.notAfter (by decide)

end Start

section Sync

variable {src tgt : BcnTiming} {client : Bool} {syncOfst tsfH tsfL diffT : ℕ}

/-- Less than a `TU` below a multiple of the interval `b`. -/
def BelowGrid (b : ℕ) (t : ℤ) : Prop := ∃ k : ℤ, t ≤ k * b * tu ∧ k * b * tu < t + tu

lemma belowGrid_diff {b : ℕ} (hb : 0 < b) (n : ℕ) : (b * tu - n % (b * tu)) / tu ≤ b ∧
      BelowGrid b (n + ((b * tu - n % (b * tu)) / tu : ℕ) * tu) := by
  have hlt := Nat.mod_lt n (Nat.mul_pos hb (by decide : 0 < tu))
  have hdiv := Nat.div_add_mod n (b * tu)
  have hk : (n / (b * tu) + 1) * b * tu = b * tu * (n / (b * tu)) + b * tu := by
    rw [Nat.mul_assoc, Nat.succ_mul, Nat.mul_comm]
  refine ⟨?_, (n / (b * tu) + 1 : ℕ), ?_⟩
  · rw [show tu = 1024 from rfl] at *
    omega
  · simp only [← Int.natCast_mul, hk]
    generalize b * tu * (n / (b * tu)) = c at hdiv ⊢
    rw [show tu = 1024 from rfl] at *
    omega

/-- 64 bits of microseconds are `2 ^ 54` units. -/
lemma belowGrid_wrap_iff {b : ℕ} {t : ℤ} (h : BelowGrid b (t + 2 ^ 64)) :
    BelowGrid b t ↔ b ∣ 2 ^ 54 := by
  obtain ⟨k, hk⟩ := h
  unfold BelowGrid
  rw [show tu = 1024 from rfl] at *
  constructor
  · rintro ⟨j, hj⟩
    refine Int.natCast_dvd_natCast.1 ⟨k - j, ?_⟩
    rw [Int.mul_sub, Int.mul_comm, Int.mul_comm _ j]
    omega
  · rintro ⟨c, hc⟩
    refine ⟨k - c, ?_⟩
    have hc' : ((2 : ℤ) ^ 54) = c * b := by
      rw [Int.mul_comm]
      exact_mod_cast hc
    rw [Int.sub_mul]
    omega

lemma sinceTbtt_le_iff (hofst : src.bcnOffset < src.bcnIntvl) :
    src.sinceTbtt tsf * tu ≤ tsf + syncOfst * tu ↔
      src.bcnOffset ≤ tsf / tu ∨ src.bcnIntvl ≤ syncOfst + src.bcnOffset := by
  unfold sinceTbtt
  rw [show tu = 1024 from rfl]
  rcases lt_or_ge (tsf / 1024) src.bcnOffset with h | h
  · rw [mod_eq_of_lt (by omega)]
    omega
  · have hle := mod_le (tsf / 1024 - src.bcnOffset) src.bcnIntvl
    rw [show tsf / 1024 + (src.bcnIntvl - src.bcnOffset) =
      tsf / 1024 - src.bcnOffset + src.bcnIntvl by omega, add_mod_right]
    omega

/-- The offset, and where the target's beacons come to lie. -/
structure TbttSynced (src : BcnTiming) (bcnIntvl syncOfst tsf diffT : ℕ) : Prop where
  ofst_lt : ∃ ofst < src.bcnIntvl, phlCalcOffsetFromTbtt src tsf = some ofst
  grid : ∀ ofst, phlCalcOffsetFromTbtt src tsf = some ofst →
    BelowGrid bcnIntvl (tsf - ofst * tu + syncOfst * tu + diffT * tu)

/-- The TSF less the offset must not go below zero, or a whole number of intervals must fit into
64 bits. -/
theorem tbtt_synced_iff (htsf : tsfOf tsfH tsfL = tsf) (hsrc : src.bcnIntvl ≤ 1000)
    (hofst : src.bcnOffset < src.bcnIntvl) (htgt : phlRoleGetBcnIntvl client tgt ≤ 1000)
    (hmax : tsf < 2 ^ 63) (hsync : syncOfst < 1000)
    (h : rtwPhlTbttSync src tgt client syncOfst true (some (tsfH, tsfL)) = some diffT) :
    TbttSynced src (phlRoleGetBcnIntvl client tgt) syncOfst tsf diffT ↔
      src.bcnOffset ≤ tsf / tu ∨ src.bcnIntvl ≤ syncOfst + src.bcnOffset ∨
        phlRoleGetBcnIntvl client tgt ∣ 2 ^ 54 := by
  have hcalc : phlCalcOffsetFromTbtt src tsf = some (src.sinceTbtt tsf) :=
    phlCalcOffsetFromTbtt_eq (by omega) hofst
  have hlt : src.sinceTbtt tsf < src.bcnIntvl := mod_lt _ (by omega)
  rw [← or_assoc, ← sinceTbtt_le_iff hofst]
  simp only [rtwPhlTbttSync, htsf, hcalc, Option.getD_some, if_true] at h
  split_ifs at h with hb
  generalize phlRoleGetBcnIntvl client tgt = b at *
  generalize hn : toU64 ((tsf + syncOfst * tu : ℕ) - (src.sinceTbtt tsf * tu : ℕ)) = n at h
  obtain ⟨hd, hgrid⟩ := belowGrid_diff (Nat.pos_of_ne_zero hb) n
  generalize (b * tu - n % (b * tu)) / tu = d at h hd hgrid
  rw [toU16_eq (by omega)] at h
  obtain rfl := Option.some.inj h
  have hiff : TbttSynced src b syncOfst tsf d ↔
      BelowGrid b (tsf - src.sinceTbtt tsf * tu + syncOfst * tu + d * tu) := by
    refine ⟨fun hs => hs.grid _ hcalc, fun hg => ⟨⟨_, hlt, hcalc⟩, fun ofst ho => ?_⟩⟩
    obtain rfl := Option.some.inj (hcalc.symm.trans ho)
    exact hg
  rw [hiff]
  unfold toU64 at hn
  rw [show tu = 1024 from rfl] at *
  rcases lt_or_ge (tsf + syncOfst * 1024) (src.sinceTbtt tsf * 1024) with hwrap | hge
  · rw [or_iff_right (by omega)]
    refine belowGrid_wrap_iff ?_
    convert hgrid using 1
    omega
  · refine iff_of_true ?_ (.inl hge)
    convert hgrid using 1
    omega

/-- Beacons 30 `TU` behind the interval's start, and a TSF of 120 `TU`. -/
theorem tbtt_synced_120 : let src : BcnTiming := ⟨true, 100, 0, 30⟩
    let tgt : BcnTiming := ⟨true, 100, 0, 0⟩
    rtwPhlTbttSync src tgt false 50 true (some (0, 122880)) = some 20 ∧
      TbttSynced src (phlRoleGetBcnIntvl false tgt) 50 122880 20 := by
  intro src tgt
  have h : rtwPhlTbttSync src tgt false 50 true (some (0, 122880)) = some 20 := by decide
  exact ⟨h, (tbtt_synced_iff rfl (by decide) (by decide) (by decide) (by decide) (by decide) h).2
    (.inl (by decide))⟩

/-- At TSF 0 the last beacon lies 50 `TU` back, and so does the difference of 66. -/
theorem tbtt_synced_wraps :
    rtwPhlTbttSync ⟨true, 100, 0, 50⟩ ⟨true, 100, 0, 0⟩ false 0 true (some (0, 0)) = some 66 ∧
      ¬ TbttSynced ⟨true, 100, 0, 50⟩ (phlRoleGetBcnIntvl false ⟨true, 100, 0, 0⟩) 0 0 66 := by
  refine ⟨by decide, fun h => ?_⟩
  obtain ⟨k, hk⟩ := h.grid 50 (by decide)
  rw [show phlRoleGetBcnIntvl false ⟨true, 100, 0, 0⟩ = 100 from rfl, show tu = 1024 from rfl] at hk
  omega

end Sync

section Limits

variable {start dur intvl : ℕ} {req : MccDurLimReq} {lim : MccDurLim}

/-- No beacon time lies in the absence or at one of its ends. -/
def ClearOfBeacon (start dur intvl : ℕ) : Prop := ∀ t, start ≤ t → t ≤ start + dur → t % intvl ≠ 0

lemma clearOfBeacon_iff (hpos : 0 < intvl) :
    ClearOfBeacon start dur intvl ↔ start % intvl ≠ 0 ∧ start % intvl + dur < intvl := by
  have hlt := mod_lt start hpos
  have hdiv := div_add_mod start intvl
  constructor
  · intro h
    refine ⟨h start le_rfl (by omega), ?_⟩
    by_contra hle
    refine h (start + (intvl - start % intvl)) (by omega) (by omega) ?_
    rw [show start + (intvl - start % intvl) = intvl * (start / intvl) + intvl by omega]
    simp
  · rintro ⟨h0, hend⟩ t hle hge
    obtain ⟨j, rfl⟩ := Nat.exists_eq_add_of_le hle
    rw [← Nat.mod_add_mod, Nat.mod_eq_of_lt (by omega)]
    omega

/-- The limits say exactly what the absence leaves of the interval. -/
structure MccDurLimExact (req : MccDurLimReq) (lim : MccDurLim) : Prop where
  enable : lim.enable ↔ req.enable ∧ ClearOfBeacon req.start req.dur req.intvl
  maxToa : lim.enable → lim.maxToa = req.start % req.intvl / tu
  maxTob : lim.enable → lim.maxToa + lim.maxTob = lim.maxDur
  maxDur : lim.enable → lim.maxDur = (req.intvl - req.dur) / tu

def MccDurLimReq.cutStart (req : MccDurLimReq) : ℕ := req.start % req.intvl % 65536

lemma mccFillDurLimInfo_eq (hhi : bcnIntvl ≤ 1000) (hintvl : req.intvl = bcnIntvl * tu)
    (hdur : req.dur ≤ req.intvl) :
    mccFillDurLimInfo bcnIntvl req lim
      = if req.enable ∧ req.cutStart ≠ 0 ∧ req.cutStart + req.dur < req.intvl then
          { enable := true, maxToa := req.cutStart / tu,
            maxTob := (req.intvl - req.dur) / tu - req.cutStart / tu,
            maxDur := (req.intvl - req.dur) / tu, tag := req.tag }
        else { lim with enable := false } := by
  have htu : tu = 1024 := rfl
  have hcut : toU16 (req.start % req.intvl : ℕ) = req.cutStart := by
    unfold toU16 MccDurLimReq.cutStart
    omega
  have hle : req.intvl ≤ 1000 * tu := by
    rw [hintvl]
    exact mul_le_mul_right tu hhi
  have hrest : toU32 (req.intvl - req.dur) = req.intvl - req.dur := toU32_sub (by omega) hdur
  unfold mccFillDurLimInfo
  rw [← hintvl, toU32_eq (by omega), if_neg (by simp : ¬ req.intvl ≠ req.intvl), hcut, hrest]
  cases hen : req.enable with
  | false => simp
  | true =>
    simp only [Bool.not_true, Bool.false_eq_true, if_false, true_and]
    split_ifs with hoff hon hon
    · omega
    · rfl
    · have hdiv : req.cutStart / tu ≤ (req.intvl - req.dur) / tu := Nat.div_le_div_right (by omega)
      have hbound : (req.intvl - req.dur) / tu ≤ 1000 := Nat.div_le_of_le_mul (by omega)
      rw [toU32_sub (by omega) hdiv, toU16_eq ((Nat.sub_le _ _).trans_lt (by omega)),
        toU16_eq (by omega), toU16_eq (by omega)]
    · omega

theorem mccDurLim_exact_iff (hlo : 1 ≤ bcnIntvl) (hhi : bcnIntvl ≤ 1000)
    (hintvl : req.intvl = bcnIntvl * tu) (hdur : req.dur ≤ req.intvl) :
    MccDurLimExact req (mccFillDurLimInfo bcnIntvl req lim)
      ↔ req.enable = false ∨ req.start % req.intvl < 65536
        ∨ req.intvl ≤ req.start % req.intvl + req.dur
          ∧ (req.cutStart = 0 ∨ req.intvl ≤ req.cutStart + req.dur) := by
  have htu : tu = 1024 := rfl
  have hpos : 0 < req.intvl := hintvl ▸ Nat.mul_pos hlo (by simp [htu])
  have hclear := @clearOfBeacon_iff req.start req.dur _ hpos
  have hcut : req.cutStart = req.start % req.intvl % 65536 := rfl
  rw [mccFillDurLimInfo_eq hhi hintvl hdur]
  obtain ⟨s, hs⟩ : ∃ s, req.start % req.intvl = s := ⟨_, rfl⟩
  rw [hs] at hclear hcut ⊢
  split_ifs with hon
  · obtain ⟨hen, hne, hlt⟩ := hon
    constructor
    · intro h
      -- the cut start is in another TU than the start
      have htoa : req.cutStart / tu = req.start % req.intvl / tu := h.maxToa rfl
      rw [hs, htu] at htoa
      exact Or.inr (Or.inl (by omega))
    · rintro (hoff | hlow | ⟨-, hcov⟩)
      · simp [hen] at hoff
      · have hcs : req.cutStart = s := by omega
        have hdiv : s / tu ≤ (req.intvl - req.dur) / tu := Nat.div_le_div_right (by omega)
        rw [hcs] at hne hlt ⊢
        refine ⟨iff_of_true rfl ⟨hen, hclear.2 ⟨hne, hlt⟩⟩, fun _ => ?_, fun _ => ?_, fun _ => rfl⟩
        · rw [hs]
        · exact Nat.add_sub_cancel' hdiv
      · omega
  · have hiff : MccDurLimExact req { lim with enable := false }
        ↔ ¬ (req.enable ∧ ClearOfBeacon req.start req.dur req.intvl) :=
      ⟨fun h hc => Bool.false_ne_true (h.enable.2 hc),
        fun h => ⟨iff_of_false Bool.false_ne_true h, nofun, nofun, nofun⟩⟩
    rw [hiff, hclear]
    cases hen : req.enable with
    | false => simp
    | true =>
      simp only [hen, true_and] at hon ⊢
      simp
      omega

theorem mccDurLim_exact_100 : MccDurLimExact ⟨.noa, true, 0, 30000, 20000, 102400⟩
      (mccFillDurLimInfo 100 ⟨.noa, true, 0, 30000, 20000, 102400⟩ ⟨⟨false, 0, 0⟩, 0, .none⟩) :=
  (mccDurLim_exact_iff (by simp) (by simp) rfl (by simp)).2
    (Or.inr (Or.inl (by simp [MccDurLimReq.start, tsfOf])))

/-- An absence from 70 ms on of an interval of 102.4 ms is taken for one from 4.464 ms on. -/
theorem mccDurLim_cut : let req : MccDurLimReq := ⟨.noa, true, 0, 70000, 10000, 102400⟩
    let d := mccFillDurLimInfo 100 req ⟨⟨false, 0, 0⟩, 0, .none⟩
    d.maxToa = 4 ∧ ¬ MccDurLimExact req d := by
  refine ⟨by decide, fun h => ?_⟩
  have htoa := h.maxToa (by decide)
  exact absurd htoa (by decide)

end Limits

end Rtl8852be

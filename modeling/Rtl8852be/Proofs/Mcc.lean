import Rtl8852be.Mcc

/-!
# The layout of a pattern

What is stored is computed from `tob_r` a second time. In two of the functions that gives the
numbers the search accepted; in the third the Bluetooth slot is left out.
-/

namespace Rtl8852be

open MccCalc

variable {ref ano : MccDurInfo} {offset : ℕ} {gap btDur tobR : ℤ} {m : MccPattern}
variable {btSlot : Bool}
variable (c : MccCalc)

lemma toS16_eq {x : ℤ} (h : -32768 ≤ x) (h' : x < 32768) : toS16 x = x := by
  simp only [toS16, Int.bmod]
  split_ifs <;> omega

lemma toS16_natCast_le (n : ℕ) : toS16 n ≤ n := by
  simp only [toS16, Int.bmod]
  split_ifs <;> omega

lemma toU16_pos {x : ℤ} (h : -32768 ≤ x) (h' : x < 32768) (h0 : x ≠ 0) : 0 < toU16 x := by
  unfold toU16
  omega

lemma mccRxBcnT : earlyRxBcnT = 5 ∧ minRxBcnT = 10 := ⟨rfl, rfl⟩

/-- The Bluetooth slots that follow the first Wi-Fi slot, up to the second. -/
def slotsBetween (slots : List MccSlotInfo) : List MccSlotInfo :=
  (slots.dropWhile (·.btRole)).tail.takeWhile (·.btRole)

/-- The slots as long as asked, the beacons as far apart as they are, and room around each of them.
-/
structure MccLayout (ref ano : MccDurInfo) (offset : ℕ) (m : MccPattern) : Prop where
  refDur : m.tobR + m.toaR = ref.dur
  anoDur : m.tobA + m.toaA = ano.dur
  distance : m.toaR + ((slotsBetween m.slotOrder).map (·.slot)).sum + m.tobA = offset
  early : earlyRxBcnT ≤ m.tobR ∧ earlyRxBcnT ≤ m.tobA
  late : minRxBcnT ≤ m.toaR ∧ minRxBcnT ≤ m.toaA
  refLimit : ref.durLimit.enable → m.tobR ≤ ref.durLimit.maxTob ∧ m.toaR ≤ ref.durLimit.maxToa
  anoLimit : ano.durLimit.enable → m.tobA ≤ ano.durLimit.maxTob ∧ m.toaA ≤ ano.durLimit.maxToa

/-- The checks of one pass of the loop that a candidate has gone through. -/
structure MccAccepted (gap dR dA off : ℤ) (ref ano : MccDurLimInfo) (tobR : ℤ) : Prop where
  refEarly : earlyRxBcnT ≤ tobR
  refLate : minRxBcnT ≤ toS16 (dR - tobR)
  refLimit : ref.enable → tobR ≤ toS16 ref.maxTob ∧ toS16 (dR - tobR) ≤ toS16 ref.maxToa
  anoEarly : earlyRxBcnT ≤ toS16 (off - toS16 (dR - tobR) - gap)
  anoLate : minRxBcnT ≤ toS16 (dA - toS16 (off - toS16 (dR - tobR) - gap))
  anoLimit : ano.enable → toS16 (off - toS16 (dR - tobR) - gap) ≤ toS16 ano.maxTob
    ∧ toS16 (dA - toS16 (off - toS16 (dR - tobR) - gap)) ≤ toS16 ano.maxToa

lemma mccRefLimit_use {lim : MccDurLimInfo} {tobR toaR : ℤ}
    (h : mccRefLimit btSlot lim tobR toaR = .use) (hen : lim.enable) :
    tobR ≤ toS16 lim.maxTob ∧ toaR ≤ toS16 lim.maxToa := by
  unfold mccRefLimit at h
  rw [if_pos hen] at h
  split at h
  · split at h <;> cases h
  split at h
  · cases h
  · omega

lemma accepted_of_pass {gap dR dA off tobR : ℤ} {ref ano : MccDurLimInfo}
    (htob : earlyRxBcnT ≤ tobR) (h1 : ¬ toS16 (dR - tobR) < minRxBcnT)
    (hlim : mccRefLimit btSlot ref tobR (toS16 (dR - tobR)) = .use)
    (h2 : ¬ toS16 (off - toS16 (dR - tobR) - gap) < earlyRxBcnT)
    (h3 : ¬ toS16 (dA - toS16 (off - toS16 (dR - tobR) - gap)) < minRxBcnT)
    (h4 : ¬ (ano.enable ∧ (toS16 ano.maxTob < toS16 (off - toS16 (dR - tobR) - gap) ∨
      toS16 ano.maxToa < toS16 (dA - toS16 (off - toS16 (dR - tobR) - gap))))) :
    MccAccepted gap dR dA off ref ano tobR where
  refEarly := htob
  refLate := not_lt.1 h1
  refLimit := mccRefLimit_use hlim
  anoEarly := not_lt.1 h2
  anoLate := not_lt.1 h3
  anoLimit hen := by
    have h := not_and.1 h4 hen
    omega

/-- The loop returns the candidate it had, or a place it came to that has passed the checks. -/
lemma mccSearchLoop_cases (btSlot : Bool) (gap dR dA off : ℤ) (ref ano : MccDurLimInfo)
    (left : ℕ) (tobR sumLast cand : ℤ) {x : ℤ}
    (hx : mccSearchLoop btSlot gap dR dA off ref ano left tobR sumLast cand = x) :
    x = cand ∨ (tobR ≤ x ∧ x < tobR + left) ∧
      (earlyRxBcnT ≤ x → MccAccepted gap dR dA off ref ano x) := by
  fun_induction mccSearchLoop btSlot gap dR dA off ref ano left tobR sumLast cand with
  | case1 | case2 | case3 | case6 => exact .inl hx.symm
  | case4 _ _ _ _ _ _ _ ih | case5 _ _ _ _ _ _ _ _ _ ih | case7 _ _ _ _ _ _ _ _ _ _ _ _ ih =>
    exact (ih hx).imp_right fun h => ⟨by omega, h.2⟩
  | case8 left tobR sumLast cand toaR h1 hlim tobA h2 toaA h3 h4 sum h5 =>
    subst hx
    exact .inr ⟨by omega, fun h => accepted_of_pass h h1 hlim h2 h3 h4⟩
  | case9 left tobR sumLast cand toaR h1 hlim tobA h2 toaA h3 h4 sum h5 ih =>
    rcases ih hx with rfl | h
    · exact .inr ⟨by omega, fun h => accepted_of_pass h h1 hlim h2 h3 h4⟩
    · exact .inr ⟨by omega, h.2⟩

lemma mccSearch_accepted (hne : mccSearch btSlot gap ref ano offset ≠ 0) :
    MccAccepted gap (toS16 ref.dur) (toS16 ano.dur) (toS16 offset) ref.durLimit ano.durLimit
      (mccSearch btSlot gap ref ano offset) := by
  obtain h0 | ⟨htob, hacc⟩ := mccSearchLoop_cases btSlot gap _ _ _ _ _ _ earlyRxBcnT 0 0 rfl
  · exact absurd h0 hne
  · exact hacc htob.1

lemma mccSearch_lt (offset : ℕ) (btSlot : Bool) (gap : ℤ) (hr : ref.dur ≤ 1000)
    (ha : ano.dur ≤ 1000) : mccSearch btSlot gap ref ano offset < 2006 := by
  have hT := mccRxBcnT
  have hu : toU16 (ref.dur + ano.dur) ≤ 2000 := by
    unfold toU16
    omega
  generalize hx : mccSearch btSlot gap ref ano offset = x
  obtain h0 | ⟨htob, -⟩ := mccSearchLoop_cases _ _ _ _ _ _ _ _ _ _ _ hx <;> omega

section

variable (hr : ref.dur ≤ 1000) (ha : ano.dur ≤ 1000) (ho : offset ≤ 1000)
include hr ha ho

lemma mccSetPattern_eq (hlo : earlyRxBcnT ≤ tobR) (hhi : tobR < 2006) :
    mccSetPattern ref ano offset tobR m
      = { m with tobR := tobR, toaR := ref.dur - tobR, tobA := offset - (ref.dur - tobR),
                 toaA := ano.dur - (offset - (ref.dur - tobR)) } := by
  have hT := mccRxBcnT
  simp (disch := omega) only [mccSetPattern, toS16_eq]

lemma mccLayout_of_accepted
    (hacc : MccAccepted 0 (toS16 ref.dur) (toS16 ano.dur) (toS16 offset) ref.durLimit
      ano.durLimit tobR)
    (hhi : tobR < 2006) {slots : List MccSlotInfo}
    (hslots : ((slotsBetween slots).map (·.slot)).sum = 0) :
    MccLayout ref ano offset
      { m with tobR := tobR, toaR := ref.dur - tobR, tobA := offset - (ref.dur - tobR),
               toaA := ano.dur - (offset - (ref.dur - tobR)), slotOrder := slots } := by
  have hset := mccSetPattern_eq (m := m) hr ha ho hacc.refEarly hhi
  obtain ⟨he, hl, hrl, hae, hal, han⟩ := hacc
  simp [mccSetPattern] at hset
  obtain ⟨htoaR, htobA, htoaA⟩ := hset
  rw [htobA] at htoaA
  rw [sub_zero, htobA] at hae hal han
  rw [htoaA] at hal han
  rw [htoaR] at hl hrl
  have hle := toS16_natCast_le
  exact
    { refDur := by simp
      anoDur := by simp
      distance := by simp only [hslots]; omega
      early := ⟨he, hae⟩
      late := ⟨hl, hal⟩
      refLimit := fun hen => ⟨(hrl hen).1.trans (hle _), (hrl hen).2.trans (hle _)⟩
      anoLimit := fun hen => ⟨(han hen).1.trans (hle _), (han hen).2.trans (hle _)⟩ }

end

def MccCalc.slots (ref ano : MccDurInfo) (btDur : ℤ) (m : MccPattern) : MccCalc → List MccSlotInfo
  | .wrole2 => [⟨ref.dur, false, some m.roleRef⟩, ⟨ano.dur, false, some m.roleAno⟩]
  | .pattern1 => [⟨ref.dur, false, some m.roleRef⟩, ⟨ano.dur, false, some m.roleAno⟩,
      ⟨toU16 btDur, true, none⟩]
  | .pattern2 => [⟨ref.dur, false, some m.roleRef⟩, ⟨toU16 btDur, true, none⟩,
      ⟨ano.dur, false, some m.roleAno⟩]

lemma MccCalc.calculate_eq (hm : m.slotOrder = []) (hfound : c.cand ref ano offset btDur ≠ 0) :
    c.calculate ref ano offset btDur m
      = (.success, { mccSetPattern ref ano offset (c.cand ref ano offset btDur) m with
          slotOrder := c.slots ref ano btDur m }) := by
  cases c <;> simp only [cand] at hfound <;>
    simp [mccCalculate2WrolePattern, mccCalculate2wslot1btslotPattern1,
      mccCalculate2wslot1btslotPattern2, cand, hfound, mccFillRef, mccFillAno, mccFillBt,
      mccFillSlotInfo, mccSetPattern, slotNum, hm, slots]

lemma MccCalc.cand_eq_search (ref ano : MccDurInfo) (offset : ℕ) (btDur : ℤ) :
    ∃ btSlot gap, c.cand ref ano offset btDur = mccSearch btSlot gap ref ano offset
    ∧ ((c = .pattern2 → btDur = 0) → gap = 0) := by
  cases c with
  | wrole2 => exact ⟨false, 0, rfl, fun _ => rfl⟩
  | pattern1 => exact ⟨true, 0, rfl, fun _ => rfl⟩
  | pattern2 => exact ⟨true, btDur, rfl, fun h => h rfl⟩

/-- What lies between the Wi-Fi slots is the Bluetooth slot of the one function, and nothing in the
others. -/
lemma MccCalc.sum_slotsBetween (ref ano : MccDurInfo) (btDur : ℤ) (m : MccPattern) :
    ((slotsBetween (c.slots ref ano btDur m)).map (·.slot)).sum
      = if c = .pattern2 then toU16 btDur else 0 := by
  cases c <;> simp [slots, slotsBetween]

/-- Exactly when the function is not the one with the Bluetooth slot in the middle or that slot is
empty. -/
theorem mcc_layout_iff (c : MccCalc) (hr : ref.dur ≤ 1000) (ha : ano.dur ≤ 1000)
    (ho : offset ≤ 1000) (hbt : -32768 ≤ btDur ∧ btDur < 32768) (hm : m.slotOrder = [])
    (hfound : c.cand ref ano offset btDur ≠ 0) :
    (c.calculate ref ano offset btDur m).1 = .success
    ∧ (MccLayout ref ano offset (c.calculate ref ano offset btDur m).2
      ↔ (c = .pattern2 → btDur = 0)) := by
  obtain ⟨btSlot, gap, hcand, hgap⟩ := c.cand_eq_search ref ano offset btDur
  have hne : mccSearch btSlot gap ref ano offset ≠ 0 := hcand ▸ hfound
  have hacc := mccSearch_accepted hne
  have hlt := mccSearch_lt offset btSlot gap hr ha
  rw [c.calculate_eq hm hfound, hcand, mccSetPattern_eq hr ha ho hacc.refEarly hlt]
  refine ⟨rfl, ?_⟩
  have hsum := c.sum_slotsBetween ref ano btDur m
  constructor
  · intro hlay hc
    by_contra h0
    have hd := hlay.distance
    rw [if_pos hc] at hsum
    simp only [hsum] at hd
    have hpos := toU16_pos hbt.1 hbt.2 h0
    omega
  · intro hc
    obtain rfl : gap = 0 := hgap hc
    refine mccLayout_of_accepted hr ha ho hacc hlt ?_
    rw [hsum]
    split_ifs with h
    · rw [hc h]
      rfl
    · rfl

/-- Two slots of 50 TU, one of them limited, and beacons 50 TU apart. -/
theorem mcc_layout_limited : MccLayout ⟨50, ⟨true, 30, 40⟩⟩ ⟨50, ⟨false, 0, 0⟩⟩ 50
      (pattern1.calculate ⟨50, ⟨true, 30, 40⟩⟩ ⟨50, ⟨false, 0, 0⟩⟩ 50 20 (mccPatternReset 0 1)).2 :=
  (mcc_layout_iff .pattern1 (by decide) (by decide) (by decide) (by decide) rfl
    (by decide +kernel)).2.2 (fun h => nomatch h)

/-- With a Bluetooth slot of 20 TU in the middle the beacons are laid out 70 TU apart. -/
theorem mcc_layout_bt_slot_dropped : let d : MccDurInfo := ⟨50, ⟨false, 0, 0⟩⟩
    let res := pattern2.calculate d d 50 20 (mccPatternReset 0 1)
    res.1 = .success ∧ ¬ MccLayout d d 50 res.2 :=
  ⟨by decide +kernel, fun h => absurd h.distance (by decide +kernel)⟩

end Rtl8852be

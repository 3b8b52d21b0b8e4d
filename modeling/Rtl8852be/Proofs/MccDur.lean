import Rtl8852be.MccDur

/-!
# What the durations add up to

The two durations add up to the interval or, when a subtraction went below 0, to 65536 more. The
bounds repair the first kind and never the second; a limit repairs both.
-/

namespace Rtl8852be

variable {mccIntvl : ℕ} {i1 i2 : MccDur} {d : ℕ × ℕ}
variable {k : ℕ}

lemma toU16_sub {n : ℕ} (hn : n < 65536) (hk : k ≤ n) : toU16 (n - k) = n - k := by
  unfold toU16
  omega

lemma toU16_sub_of_lt {n : ℕ} (hk : n < k) (hk' : k < 65536) : toU16 (n - k) = n + 65536 - k := by
  unfold toU16
  omega

lemma mccFirstDur_eq (hn : mccIntvl < 65536) (hk : k ≤ mccIntvl) :
    mccFirstDur mccIntvl k = (k, mccIntvl - k) := by
  rw [mccFirstDur, toU16_sub hn hk]

lemma mccSecondDur_eq (hn : mccIntvl < 65536) (hk : k ≤ mccIntvl) :
    mccSecondDur mccIntvl k = (mccIntvl - k, k) := by
  rw [mccSecondDur, toU16_sub hn hk]

structure MccShares (mccIntvl : ℕ) (d : ℕ × ℕ) : Prop where
  total : d.1 + d.2 = mccIntvl
  first : minClientDur ≤ d.1
  second : minClientDur ≤ d.2

/-- Shares within the limits. -/
structure MccPartition (mccIntvl : ℕ) (i1 i2 : MccDur) (d : ℕ × ℕ) : Prop
    extends MccShares mccIntvl d where
  limit1 : i1.durLimit.enable → d.1 ≤ i1.maxDur
  limit2 : i2.durLimit.enable → d.2 ≤ i2.maxDur

/-- A subtraction went below 0. -/
structure MccWrapped (mccIntvl : ℕ) (d : ℕ × ℕ) : Prop where
  total : d.1 + d.2 = mccIntvl + 65536
  first : d.1 < 65536
  second : d.2 < 65536

/-- The limit leaves a slot to each role. -/
def MccDur.Leaves (i : MccDur) (mccIntvl : ℕ) : Prop :=
  i.durLimit.enable → minClientDur ≤ i.maxDur ∧ i.maxDur + minClientDur ≤ mccIntvl

def mccAsked (i1 i2 : MccDur) : ℕ := if i1.dur = mccDurNonspecific then i2.dur else i1.dur

lemma mccRequestedDur_total (hn : mccIntvl < 65536) (h : mccAsked i1 i2 ≤ mccIntvl) :
    (mccRequestedDur mccIntvl i1.dur i2.dur).1 + (mccRequestedDur mccIntvl i1.dur i2.dur).2
      = mccIntvl := by
  unfold mccAsked at h
  unfold mccRequestedDur
  split_ifs at h ⊢
  · rw [mccSecondDur_eq hn h]
    exact Nat.sub_add_cancel h
  · rw [mccFirstDur_eq hn h]
    exact Nat.add_sub_cancel' h

lemma mccRequestedDur_wrapped (h1 : i1.dur < 65536) (h2 : i2.dur < 65536)
    (h : mccIntvl < mccAsked i1 i2) :
    MccWrapped mccIntvl (mccRequestedDur mccIntvl i1.dur i2.dur) := by
  unfold mccAsked at h
  unfold mccRequestedDur
  split_ifs at h ⊢
  · have hu := toU16_sub_of_lt h h2
    refine ⟨?_, ?_, h2⟩ <;> simp only [mccSecondDur, hu] <;> omega
  · have hu := toU16_sub_of_lt h h1
    refine ⟨?_, h1, ?_⟩ <;> simp only [mccFirstDur, hu] <;> omega

lemma mccRaiseDur_shares (hlo : 100 ≤ mccIntvl) (hhi : mccIntvl ≤ 1000)
    (hd : d.1 + d.2 = mccIntvl) : MccShares mccIntvl (mccRaiseDur mccIntvl d) := by
  have h15 : minClientDur = 15 := rfl
  unfold mccRaiseDur
  split_ifs with h1 h2
  · rw [mccFirstDur_eq (by omega) (by omega)]
    constructor <;> simp only <;> omega
  · rw [mccSecondDur_eq (by omega) (by omega)]
    constructor <;> simp only <;> omega
  · exact ⟨hd, by omega, by omega⟩

lemma MccWrapped.raise (h : MccWrapped mccIntvl d) (hlo : 100 ≤ mccIntvl) :
    mccRaiseDur mccIntvl d = d := by
  have h15 : minClientDur = 15 := rfl
  obtain ⟨ht, h1, h2⟩ := h
  rw [mccRaiseDur, if_neg (by omega), if_neg (by omega)]

lemma MccDur.cuts_iff {i : MccDur} {dur : ℕ} (hle : i.Leaves mccIntvl) :
    i.cuts dur ↔ i.durLimit.enable ∧ i.maxDur < dur := by
  have h15 : minClientDur = 15 := rfl
  simp only [MccDur.cuts, Bool.and_eq_true, decide_eq_true_eq]
  constructor
  · rintro ⟨⟨hen, -⟩, hlt⟩
    exact ⟨hen, hlt⟩
  · rintro ⟨hen, hlt⟩
    have := hle hen
    exact ⟨⟨hen, by omega⟩, hlt⟩

lemma mccLimitDur_first (hn : mccIntvl < 65536) (hle1 : i1.Leaves mccIntvl)
    (hoff : ¬ i2.durLimit.enable) :
    mccLimitDur mccIntvl i1 i2 d
      = if i1.durLimit.enable ∧ i1.maxDur < d.1 then (i1.maxDur, mccIntvl - i1.maxDur) else d := by
  have h2 : ∀ dur, i2.cuts dur = false := fun dur => by simp [MccDur.cuts, hoff]
  simp [mccLimitDur, MccDur.cuts_iff hle1, h2]
  split_ifs with h
  · have := hle1 h.1
    exact mccFirstDur_eq hn (by omega)
  · rfl

lemma mccLimitDur_second (hn : mccIntvl < 65536) (hle2 : i2.Leaves mccIntvl)
    (hoff : ¬ i1.durLimit.enable) :
    mccLimitDur mccIntvl i1 i2 d
      = if i2.durLimit.enable ∧ i2.maxDur < d.2 then (mccIntvl - i2.maxDur, i2.maxDur) else d := by
  have h1 : i1.cuts d.1 = false := by simp [MccDur.cuts, hoff]
  simp [mccLimitDur, MccDur.cuts_iff hle2, h1]
  split_ifs with h
  · have := hle2 h.1
    exact mccSecondDur_eq hn (by omega)
  · rfl

lemma MccDur.Leaves.first (hle1 : i1.Leaves mccIntvl) (hen : i1.durLimit.enable)
    (hoff : ¬ i2.durLimit.enable) :
    MccPartition mccIntvl i1 i2 (i1.maxDur, mccIntvl - i1.maxDur) := by
  have := hle1 hen
  exact ⟨⟨by simp only; omega, this.1, by simp only; omega⟩, fun _ => le_rfl,
    fun h => absurd h hoff⟩

lemma MccDur.Leaves.second (hle2 : i2.Leaves mccIntvl) (hen : i2.durLimit.enable)
    (hoff : ¬ i1.durLimit.enable) :
    MccPartition mccIntvl i1 i2 (mccIntvl - i2.maxDur, i2.maxDur) := by
  have := hle2 hen
  exact ⟨⟨by simp only; omega, by simp only; omega, this.1⟩, fun h => absurd h hoff,
    fun _ => le_rfl⟩

section Limits

variable (hlo : 100 ≤ mccIntvl) (hhi : mccIntvl ≤ 1000)
  (hone : ¬ (i1.durLimit.enable ∧ i2.durLimit.enable))
  (hle1 : i1.Leaves mccIntvl) (hle2 : i2.Leaves mccIntvl)

include hhi hone hle1 hle2

lemma MccShares.limit (hd : MccShares mccIntvl d) :
    MccPartition mccIntvl i1 i2 (mccLimitDur mccIntvl i1 i2 d) := by
  obtain ⟨ht, h1, h2⟩ := hd
  rcases not_and_or.1 hone with hoff | hoff
  · rw [mccLimitDur_second (by omega) hle2 hoff]
    split_ifs with h
    · exact hle2.second h.1 hoff
    · exact ⟨⟨ht, h1, h2⟩, fun h => absurd h hoff, fun hen => not_lt.1 fun hlt => h ⟨hen, hlt⟩⟩
  · rw [mccLimitDur_first (by omega) hle1 hoff]
    split_ifs with h
    · exact hle1.first h.1 hoff
    · exact ⟨⟨ht, h1, h2⟩, fun hen => not_lt.1 fun hlt => h ⟨hen, hlt⟩, fun h => absurd h hoff⟩

/-- A limit replaces one of the durations, and the other follows from it without a wrap. -/
lemma MccWrapped.limit_iff (hd : MccWrapped mccIntvl d) :
    MccPartition mccIntvl i1 i2 (mccLimitDur mccIntvl i1 i2 d)
      ↔ i1.durLimit.enable ∨ i2.durLimit.enable := by
  obtain ⟨ht, h1, h2⟩ := hd
  rcases not_and_or.1 hone with hoff | hoff
  · rw [mccLimitDur_second (by omega) hle2 hoff]
    by_cases hen : i2.durLimit.enable
    · have := hle2 hen
      rw [if_pos ⟨hen, by omega⟩]
      exact iff_of_true (hle2.second hen hoff) (.inr hen)
    · rw [if_neg fun h => hen h.1]
      refine iff_of_false (fun h => ?_) (fun h => h.elim hoff hen)
      have := h.total
      omega
  · rw [mccLimitDur_first (by omega) hle1 hoff]
    by_cases hen : i1.durLimit.enable
    · have := hle1 hen
      rw [if_pos ⟨hen, by omega⟩]
      exact iff_of_true (hle1.first hen hoff) (.inl hen)
    · rw [if_neg fun h => hen h.1]
      refine iff_of_false (fun h => ?_) (fun h => h.elim hen hoff)
      have := h.total
      omega

include hlo

lemma mccSetDurFor2ClientsMode_iff (h1 : i1.dur < 65536) (h2 : i2.dur < 65536) :
    MccPartition mccIntvl i1 i2 (mccSetDurFor2ClientsMode i1 i2 mccIntvl)
      ↔ i1.durLimit.enable ∨ i2.durLimit.enable ∨ mccAsked i1 i2 ≤ mccIntvl := by
  unfold mccSetDurFor2ClientsMode
  rcases le_or_gt (mccAsked i1 i2) mccIntvl with hle | hlt
  · have hshares := mccRaiseDur_shares hlo hhi (mccRequestedDur_total (by omega) hle)
    exact iff_of_true (hshares.limit hhi hone hle1 hle2) (.inr (.inr hle))
  · have hwrapped := mccRequestedDur_wrapped h1 h2 hlt
    rw [hwrapped.raise hlo, hwrapped.limit_iff hhi hone hle1 hle2]
    simp [not_le.2 hlt]

end Limits

/-- The shares fill the interval, neither too short. -/
structure MccApPartition (mccIntvl : ℕ) (d : ℕ × ℕ) : Prop where
  total : d.1 + d.2 = mccIntvl
  ap : minApDur ≤ d.1
  client : minClientDur ≤ d.2

lemma mccSetDurForApClientMode_partition (apDur clientDur : ℕ) (hlo : 100 ≤ mccIntvl)
    (hhi : mccIntvl ≤ 1000) :
    MccApPartition mccIntvl (mccSetDurForApClientMode apDur clientDur mccIntvl) := by
  have h15 : minClientDur = 15 := rfl
  have h20 : minApDur = 20 := rfl
  -- whatever was asked for, the AP ends between its minimum and what the client leaves it
  have key : ∀ k : ℕ, minApDur ≤ k → k + minClientDur ≤ mccIntvl →
      MccApPartition mccIntvl (k, toU16 (mccIntvl - k)) := fun k h1 h2 => by
    rw [toU16_sub (by omega) (by omega)]
    exact ⟨by simp only; omega, h1, by simp only; omega⟩
  unfold mccSetDurForApClientMode
  extract_lets apDur₁ apDur₂
  refine key apDur₂ ?_ ?_ <;> simp only [apDur₂] <;> split_ifs
  · exact le_rfl
  · rw [toU16_sub (by omega) (by omega)]
    omega
  · omega
  · omega
  · rw [toU16_sub (by omega) (by omega)]
    omega
  · omega

/-- With two clients exactly when a limit is on or the duration asked for fits the interval. -/
theorem mcc_durations_partition_iff {apDur clientDur : ℕ} (hlo : 100 ≤ mccIntvl)
    (hhi : mccIntvl ≤ 1000) (h1 : i1.dur < 65536) (h2 : i2.dur < 65536)
    (hone : ¬ (i1.durLimit.enable ∧ i2.durLimit.enable)) (hle1 : i1.Leaves mccIntvl)
    (hle2 : i2.Leaves mccIntvl) :
    (MccPartition mccIntvl i1 i2 (mccSetDurFor2ClientsMode i1 i2 mccIntvl)
        ↔ i1.durLimit.enable ∨ i2.durLimit.enable ∨ mccAsked i1 i2 ≤ mccIntvl)
    ∧ MccApPartition mccIntvl (mccSetDurForApClientMode apDur clientDur mccIntvl) :=
  ⟨mccSetDurFor2ClientsMode_iff hlo hhi hone hle1 hle2 h1 h2,
    mccSetDurForApClientMode_partition apDur clientDur hlo hhi⟩

/-- Two clients that share 100 TU, one with a limit of 40 TU, and an AP with all of it. -/
theorem mcc_durations_partition_limited :
    let d₁ : MccDur := ⟨⟨300, ⟨true, 0, 0⟩⟩, 40⟩
    let d₂ : MccDur := ⟨⟨0xff, ⟨false, 0, 0⟩⟩, 0⟩
    MccPartition 100 d₁ d₂ (mccSetDurFor2ClientsMode d₁ d₂ 100)
    ∧ MccApPartition 100 (mccSetDurForApClientMode 100 0 100) :=
  (mcc_durations_partition_iff le_rfl (by simp) (by simp) (by simp) (by simp)
    (by simp [MccDur.Leaves]) (by simp [MccDur.Leaves])).imp
    (fun h => h.2 (.inl rfl)) id

/-- Two roles that name no duration: the first is given 100 - 255 TU. -/
theorem mcc_durations_wrap : let d : MccDur := ⟨⟨0xff, ⟨false, 0, 0⟩⟩, 0⟩
    mccSetDurFor2ClientsMode d d 100 = (65381, 255)
    ∧ ¬ MccPartition 100 d d (mccSetDurFor2ClientsMode d d 100) := by
  refine ⟨rfl, fun h => ?_⟩
  have htotal := h.total
  exact absurd htotal (by decide)

lemma mccScaleDur_le {d1 d2 wifiDur : ℕ} (h0 : d1 + d2 ≠ 0) (hw : wifiDur < 65536) :
    ∃ e ≤ wifiDur, mccScaleDur d1 d2 wifiDur = some e := by
  have h100 : d1 * 100 / (d1 + d2) ≤ 100 := by
    rw [Nat.div_le_iff_le_mul_add_pred (by omega)]
    omega
  have hle : d1 * 100 / (d1 + d2) * wifiDur / 100 ≤ wifiDur :=
    Nat.div_le_of_le_mul (Nat.mul_le_mul_right wifiDur h100)
  refine ⟨d1 * 100 / (d1 + d2) * wifiDur / 100, hle, ?_⟩
  rw [mccScaleDur, if_neg h0]
  generalize d1 * 100 / (d1 + d2) * wifiDur / 100 = e at hle
  unfold toU16
  congr 1
  omega

structure MccCarved (d1Min d1Max d2Min d2Max wifiDur : ℕ) (d : ℕ × ℕ) : Prop where
  total : d.1 + d.2 = wifiDur
  first : d1Min ≤ d.1 ∧ d.1 ≤ d1Max
  second : d2Min ≤ d.2 ∧ d.2 ≤ d2Max

section Carve

variable {d1Min d1Max d2Min d2Max wifiDur : ℕ}
  (h1 : d1Min ≤ d1Max) (h2 : d2Min ≤ d2Max) (hmin : d1Min + d2Min ≤ wifiDur)
  (hmax : wifiDur ≤ d1Max + d2Max) (hw : wifiDur < 65536)

include h1 h2 hmin hmax hw

lemma mccClamp_carved {e : ℕ} (he : e ≤ wifiDur) : MccCarved d1Min d1Max d2Min d2Max wifiDur
      (mccClampSecond d2Min d2Max wifiDur (mccClampFirst d1Min d1Max e)) := by
  have hlo : d1Min ≤ mccClampFirst d1Min d1Max e := by
    unfold mccClampFirst
    split_ifs <;> omega
  have hhi : mccClampFirst d1Min d1Max e ≤ d1Max := by
    unfold mccClampFirst
    split_ifs <;> omega
  have hle : mccClampFirst d1Min d1Max e ≤ wifiDur := by
    unfold mccClampFirst
    split_ifs <;> omega
  generalize mccClampFirst d1Min d1Max e = d1 at hlo hhi hle
  simp only [mccClampSecond, toU16_sub hw hle]
  split_ifs with hlt hgt
  · rw [mccSecondDur_eq hw (by omega)]
    constructor <;> simp only <;> omega
  · rw [mccSecondDur_eq hw (by omega)]
    constructor <;> simp only <;> omega
  · constructor <;> simp only <;> omega

lemma mccAdjustLoop_first {mccIntvl d1 d2 btDur : ℕ} (left : ℕ) (h0 : d1 + d2 ≠ 0)
    (hbt : toU16 (mccIntvl - btDur) = wifiDur) :
    ∃ d, mccAdjustLoop mccIntvl d1Min d1Max d2Min d2Max (left + 1) d1 d2 btDur
        = some (some (d.1, d.2, btDur))
      ∧ MccCarved d1Min d1Max d2Min d2Max wifiDur d := by
  obtain ⟨e, he, hscale⟩ := mccScaleDur_le h0 hw
  have hd := mccClamp_carved h1 h2 hmin hmax hw he
  refine ⟨_, ?_, hd⟩
  simp only [mccAdjustLoop, hbt, hscale, Option.bind_eq_bind, Option.bind_some]
  exact if_pos ⟨hd.first.1, hd.first.2, hd.second.1, hd.second.2⟩

end Carve

/-- The slots fill the interval, each within the limits of its role. -/
structure MccRolesFit (m : MccInfo) : Prop where
  total : m.role1.durInfo.dur + m.role2.durInfo.dur = m.mccIntvl
  first : m.role1.durMin ≤ m.role1.durInfo.dur
    ∧ m.role1.durInfo.dur ≤ m.role1.durMax m.mccIntvl
  second : m.role2.durMin ≤ m.role2.durInfo.dur
    ∧ m.role2.durInfo.dur ≤ m.role2.durMax m.mccIntvl

/-- A Bluetooth slot is cut out of the interval, and the slots keep their limits. -/
structure MccBtCarved (req : ℕ) (m m' : MccInfo) : Prop where
  intvl : m'.mccIntvl = m.mccIntvl
  total : m'.role1.durInfo.dur + m'.role2.durInfo.dur + m'.btInfo.btDur = m.mccIntvl
  btPos : 0 < m'.btInfo.btDur
  btLe : m'.btInfo.btDur ≤ min req btDurMax2ws
  first : m.role1.durMin ≤ m'.role1.durInfo.dur
    ∧ m'.role1.durInfo.dur ≤ m.role1.durMax m.mccIntvl
  second : m.role2.durMin ≤ m'.role2.durInfo.dur
    ∧ m'.role2.durInfo.dur ≤ m.role2.durMax m.mccIntvl
  seg : m'.btInfo.btSegNum = 1 → m'.btInfo.btSeg0 = m'.btInfo.btDur

lemma MccRole.durMin_le (r : MccRole) : r.durMin ≤ 20 := by
  unfold MccRole.durMin minApDur minClientDur
  split_ifs <;> simp

/-- Both roles can keep to their bounds beside a Bluetooth slot of `bt`. -/
structure MccBtFits (m : MccInfo) (bt : ℕ) : Prop where
  first : m.role1.durMin ≤ m.role1.durMax m.mccIntvl
  second : m.role2.durMin ≤ m.role2.durMax m.mccIntvl
  least : m.role1.durMin + m.role2.durMin + bt ≤ m.mccIntvl
  most : m.mccIntvl ≤ m.role1.durMax m.mccIntvl + m.role2.durMax m.mccIntvl + bt

lemma MccRolesFit.btFits {m : MccInfo} {bt : ℕ} (hfit : MccRolesFit m) (hlo : 100 ≤ m.mccIntvl)
    (hbt : bt ≤ btDurMax2ws) : MccBtFits m bt := by
  have h33 : btDurMax2ws = 33 := rfl
  have hmin1 := m.role1.durMin_le
  have hmin2 := m.role2.durMin_le
  obtain ⟨ht, h1, h2⟩ := hfit
  exact ⟨h1.1.trans h1.2, h2.1.trans h2.2, by omega, by omega⟩

lemma mccAdjustDurFor2gMcc2roleBt_ok {m : MccInfo} (hfit : MccBtFits m m.btInfo.btDur)
    (ht : m.role1.durInfo.dur + m.role2.durInfo.dur = m.mccIntvl) (hpos : 0 < m.mccIntvl)
    (hhi : m.mccIntvl < 65536) :
    ∃ d, MccCarved m.role1.durMin (m.role1.durMax m.mccIntvl) m.role2.durMin
        (m.role2.durMax m.mccIntvl) (m.mccIntvl - m.btInfo.btDur) d
      ∧ mccAdjustDurFor2gMcc2roleBt m
        = some (true, { m with role1 := m.role1.setDur d.1, role2 := m.role2.setDur d.2,
                               dRDASpacingMax := m.btInfo.btDur }) := by
  obtain ⟨h1, h2, hmin, hmax⟩ := hfit
  have hwifi : toU16 (m.mccIntvl - m.btInfo.btDur) = m.mccIntvl - m.btInfo.btDur :=
    toU16_sub hhi (by omega)
  have h0 : m.role1.durInfo.dur + m.role2.durInfo.dur ≠ 0 := by omega
  obtain ⟨left, hleft⟩ : ∃ left, m.mccIntvl = left + 1 := ⟨m.mccIntvl - 1, by omega⟩
  have hfirst := fun hmin hmax hw => mccAdjustLoop_first h1 h2 hmin hmax hw left h0 hwifi
  obtain ⟨d, hloop, hd⟩ := hfirst (by omega) (by omega) (by omega)
  refine ⟨d, hd, ?_⟩
  rw [← hleft] at hloop
  simp [mccAdjustDurFor2gMcc2roleBt, hloop]

def MccInfo.setBt (m : MccInfo) (btDur : ℕ) : MccInfo :=
  { m with btInfo := { m.btInfo with btDur := btDur, btSegNum := 1, btSeg0 := btDur } }

lemma mccDiscisionDurFor2gMcc2roleBt_fill {m : MccInfo} {req : ℕ} (hreq : req < 65536) :
    mccDiscisionDurFor2gMcc2roleBt (mccFillBtDur req m)
      = (mccAdjustDurFor2gMcc2roleBt (m.setBt (min req btDurMax2ws))).map Prod.snd := by
  have hu : toU16 req = req := by
    unfold toU16
    omega
  rcases lt_or_ge btDurMax2ws req with hcut | hcut
  · simp [mccDiscisionDurFor2gMcc2roleBt, mccNeedToSegBtDur, mccFillBtDur, MccInfo.setBt, hu, hcut,
      min_eq_right hcut.le, Option.map_eq_bind]
  · simp [mccDiscisionDurFor2gMcc2roleBt, mccNeedToSegBtDur, mccFillBtDur, MccInfo.setBt, hu,
      not_lt.2 hcut, min_eq_left hcut, Option.map_eq_bind]

/-- Whatever slot Bluetooth asks for, the two roles give way to it without leaving their bounds. -/
theorem mcc_bt_slot_carved {m : MccInfo} {req : ℕ} (hlo : 100 ≤ m.mccIntvl)
    (hhi : m.mccIntvl ≤ 1000) (hfit : MccRolesFit m) (hpos : 0 < req) (hreq : req < 65536) :
    ∃ m', mccDiscisionDurFor2gMcc2roleBt (mccFillBtDur req m) = some m' ∧ MccBtCarved req m m' := by
  have h33 : btDurMax2ws = 33 := rfl
  have hle : min req btDurMax2ws ≤ btDurMax2ws := min_le_right _ _
  obtain ⟨hmin1, hmin2, hmin, hmax⟩ := hfit.btFits hlo hle
  obtain ⟨d, hd, hok⟩ := mccAdjustDurFor2gMcc2roleBt_ok (m := m.setBt (min req btDurMax2ws))
    ⟨hmin1, hmin2, hmin, hmax⟩ hfit.total (by simp only [MccInfo.setBt]; omega)
    (by simp only [MccInfo.setBt]; omega)
  refine ⟨_, by rw [mccDiscisionDurFor2gMcc2roleBt_fill hreq, hok]; rfl, ?_⟩
  have ht : d.1 + d.2 = m.mccIntvl - min req btDurMax2ws := hd.total
  refine ⟨rfl, ?_, ?_, le_rfl, hd.first, hd.second, fun _ => rfl⟩
  · simp only [MccInfo.setBt, MccRole.setDur]
    omega
  · simp only [MccInfo.setBt]
    omega

/-- Two roles with 50 TU each, one limited to 50 TU, and a request of 40 TU. -/
theorem mcc_bt_slot_carved_limited :
    let m : MccInfo := ⟨.btMaster, ⟨0, 0, 0, 0⟩, ⟨true, .on24g, ⟨⟨50, ⟨true, 0, 0⟩⟩, 50⟩⟩,
      ⟨false, .on24g, ⟨⟨50, ⟨false, 0, 0⟩⟩, 0⟩⟩, 100, 0⟩
    ∃ m', mccDiscisionDurFor2gMcc2roleBt (mccFillBtDur 40 m) = some m' ∧ MccBtCarved 40 m m' :=
  mcc_bt_slot_carved le_rfl (by simp) ⟨rfl, by simp [MccRole.durMin, MccRole.durMax, minApDur],
    by simp [MccRole.durMin, MccRole.durMax]⟩ (by simp) (by simp)

end Rtl8852be

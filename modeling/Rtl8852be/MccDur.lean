import Rtl8852be.ChanCtx
import Rtl8852be.Mcc

/-!
# Durations of the slots

Before a pattern is searched for, both durations are brought into their bounds, and a slot for
Bluetooth is taken out of the interval. All of it is done in `u16`.
-/

namespace Rtl8852be

/-- `MIN_CLIENT_DUR`: `EARLY_RX_BCN_T + MIN_RX_BCN_T`. -/
@[simp] def minClientDur : ℕ := 15

/-- `MIN_AP_DUR`: `EARLY_TX_BCN_T + MIN_GO_STA_OFFSET_T - EARLY_RX_BCN_T`. -/
def minApDur : ℕ := 20

def mccDurNonspecific : ℕ := 0xff

def btDurMax2ws : ℕ := 33

def worsecaseIntvl : ℕ := 150

/-- `struct rtw_phl_mcc_dur_info` with the one field of its limits that no search reads. -/
structure MccDur extends MccDurInfo where
  maxDur : ℕ

def mccFirstDur (mccIntvl dur1 : ℕ) : ℕ × ℕ := (dur1, toU16 (mccIntvl - dur1))

def mccSecondDur (mccIntvl dur2 : ℕ) : ℕ × ℕ := (toU16 (mccIntvl - dur2), dur2)

def mccRequestedDur (mccIntvl dur1 dur2 : ℕ) : ℕ × ℕ :=
  if dur1 = mccDurNonspecific then mccSecondDur mccIntvl dur2 else mccFirstDur mccIntvl dur1

def mccRaiseDur (mccIntvl : ℕ) (d : ℕ × ℕ) : ℕ × ℕ :=
  if d.1 < minClientDur then mccFirstDur mccIntvl minClientDur
  else if d.2 < minClientDur then mccSecondDur mccIntvl minClientDur
  else d

def MccDur.cuts (i : MccDur) (dur : ℕ) : Bool := i.durLimit.enable && i.maxDur ≠ 0 && i.maxDur < dur

def mccLimitDur (mccIntvl : ℕ) (i1 i2 : MccDur) (d : ℕ × ℕ) : ℕ × ℕ :=
  let d := if i1.cuts d.1 then mccFirstDur mccIntvl i1.maxDur else d
  if i2.cuts d.2 then mccSecondDur mccIntvl i2.maxDur else d

def mccSetDurFor2ClientsMode (i1 i2 : MccDur) (mccIntvl : ℕ) : ℕ × ℕ :=
  mccLimitDur mccIntvl i1 i2 (mccRaiseDur mccIntvl (mccRequestedDur mccIntvl i1.dur i2.dur))

def mccSetDurForApClientMode (apDur clientDur mccIntvl : ℕ) : ℕ × ℕ :=
  let apDur := if apDur = mccDurNonspecific then toU16 (mccIntvl - clientDur) else apDur
  let apDur :=
    if apDur < minApDur then minApDur
    else if (mccIntvl : ℤ) - minClientDur < apDur then toU16 (mccIntvl - minClientDur)
    else apDur
  (apDur, toU16 (mccIntvl - apDur))

/-- What is used of `struct rtw_phl_mcc_role`. `isAp` is what `_mcc_is_ap_category` says. -/
structure MccRole where
  isAp : Bool
  band : BandType
  durInfo : MccDur

structure MccBtInfo where
  btDur : ℕ
  btSeg0 : ℕ
  btSeg1 : ℕ
  btSegNum : ℕ

inductive MccCoexMode where
  | none
  | btMaster
  | wifiMaster
  | btWifiBalance
  deriving DecidableEq

structure MccInfo where
  coexMode : MccCoexMode
  btInfo : MccBtInfo
  role1 : MccRole
  role2 : MccRole
  mccIntvl : ℕ
  dRDASpacingMax : ℕ

variable (m : MccInfo) (r : MccRole)

def MccRole.setDur (dur : ℕ) : MccRole := { r with durInfo := { r.durInfo with dur := dur } }

def MccRole.durMin : ℕ := if r.isAp then minApDur else minClientDur

def MccRole.durMax (mccIntvl : ℕ) : ℕ :=
  if r.durInfo.durLimit.enable then r.durInfo.maxDur else mccIntvl

/-- `_mcc_fill_bt_dur`, with the slot that Bluetooth asks for. -/
def mccFillBtDur (btReqSlot : ℕ) (m : MccInfo) : MccInfo :=
  let btDur := toU16 btReqSlot
  { m with btInfo := { m.btInfo with btDur := btDur, btSegNum := 1, btSeg0 := btDur } }

def mccScaleDur (d1 d2 wifiDur : ℕ) : Option ℕ :=
  if d1 + d2 = 0 then none else some (toU16 ((d1 * 100 / (d1 + d2)) * wifiDur / 100 : ℕ))

def mccClampFirst (lo hi d1 : ℕ) : ℕ := if d1 < lo then lo else if hi < d1 then hi else d1

def mccClampSecond (lo hi wifiDur d1 : ℕ) : ℕ × ℕ :=
  let d2 := toU16 (wifiDur - d1)
  if d2 < lo then mccSecondDur wifiDur lo
  else if hi < d2 then mccSecondDur wifiDur hi
  else (d1, d2)

/-- The loop, with the passes left: the durations and the Bluetooth slot of the first pass that has
both durations in their bounds. The outer `none` is a division by 0. -/
def mccAdjustLoop (mccIntvl d1Min d1Max d2Min d2Max : ℕ) :
    ℕ → ℕ → ℕ → ℕ → Option (Option (ℕ × ℕ × ℕ))
  | 0, _, _, _ => some none
  | left + 1, d1, d2, btDur => do
    let wifiDur := toU16 (mccIntvl - btDur)
    let d1 ← mccScaleDur d1 d2 wifiDur
    let (d1, d2) := mccClampSecond d2Min d2Max wifiDur (mccClampFirst d1Min d1Max d1)
    if d1Min ≤ d1 ∧ d1 ≤ d1Max ∧ d2Min ≤ d2 ∧ d2 ≤ d2Max then some (some (d1, d2, btDur))
    else mccAdjustLoop mccIntvl d1Min d1Max d2Min d2Max left d1 d2 (toU16 (btDur - 1))

/-- `_mcc_adjust_dur_for_2g_mcc_2role_bt`, with whether it adjusted. -/
def mccAdjustDurFor2gMcc2roleBt : Option (Bool × MccInfo) := do
  let found ← mccAdjustLoop m.mccIntvl m.role1.durMin (m.role1.durMax m.mccIntvl)
    m.role2.durMin (m.role2.durMax m.mccIntvl) m.mccIntvl m.role1.durInfo.dur m.role2.durInfo.dur
    m.btInfo.btDur
  match found with
  | none => some (false, m)
  | some (d1, d2, btDur) =>
    some (true, { m with role1 := m.role1.setDur d1, role2 := m.role2.setDur d2,
                         btInfo := { m.btInfo with btDur := btDur }, dRDASpacingMax := btDur })

def mccNeedToSegBtDur (_ : MccInfo) : Bool := false

/-- `_mcc_discision_dur_for_2g_mcc_2role_bt`. It does not look at whether the adjustment was
made. -/
def mccDiscisionDurFor2gMcc2roleBt : Option MccInfo :=
  if mccNeedToSegBtDur m then do
    let (_, m) ← mccAdjustDurFor2gMcc2roleBt { m with mccIntvl := worsecaseIntvl }
    let seg0 := m.btInfo.btDur / 2
    some { m with btInfo := { m.btInfo with btSegNum := 2, btSeg0 := seg0,
                                            btSeg1 := toU16 (m.btInfo.btDur - seg0) } }
  else do
    let bt := if btDurMax2ws < m.btInfo.btDur then
        { m.btInfo with btDur := btDurMax2ws, btSeg0 := btDurMax2ws }
      else m.btInfo
    let (_, m) ← mccAdjustDurFor2gMcc2roleBt { m with btInfo := bt }
    some m

/-- `_mcc_adjust_dur_for_2_band_mcc_2role_bt`: the durations of the role on 2.4 GHz and of the
other. -/
def mccAdjustDurFor2BandMcc2roleBt (coexMode : MccCoexMode) (mccIntvl btDur : ℕ)
    (d2g dNon2g : MccDur) : ℕ × ℕ :=
  if btDur ≤ dNon2g.dur then (d2g.dur, dNon2g.dur)
  else if dNon2g.durLimit.enable ∧ dNon2g.maxDur < btDur then (d2g.dur, dNon2g.dur)
  else
    match coexMode with
    | .btMaster =>
      let (dur2g, durNon2g) := mccSecondDur mccIntvl btDur
      if d2g.durLimit.enable ∧ d2g.maxDur < dur2g then mccFirstDur mccIntvl d2g.maxDur
      else (dur2g, durNon2g)
    | _ => (d2g.dur, dNon2g.dur)

/-- `_mcc_discision_duration_for_2role_bt`, with whether a slot for Bluetooth is to be added. -/
def mccDiscisionDurationFor2roleBt : Option (Bool × MccInfo) :=
  if m.btInfo.btDur = 0 then some (false, m)
  else
    match decide (m.role1.band = .on24g), decide (m.role2.band = .on24g) with
    | true, true => (mccDiscisionDurFor2gMcc2roleBt m).map (true, ·)
    | false, false => some (false, m)
    | true, false =>
      let d := mccAdjustDurFor2BandMcc2roleBt m.coexMode m.mccIntvl m.btInfo.btDur
        m.role1.durInfo m.role2.durInfo
      some (false, { m with role1 := m.role1.setDur d.1, role2 := m.role2.setDur d.2 })
    | false, true =>
      let d := mccAdjustDurFor2BandMcc2roleBt m.coexMode m.mccIntvl m.btInfo.btDur
        m.role2.durInfo m.role1.durInfo
      some (false, { m with role1 := m.role1.setDur d.2, role2 := m.role2.setDur d.1 })

end Rtl8852be

import Rtl8852be.Mcc

/-!
# When a pattern starts, and how long a slot may be

A pattern starts a whole number of beacon intervals after a beacon of the reference role, less what
lies before the beacon in its slot, and late enough for the firmware to be told. The beacons of one
role can also be moved to lie at an offset from those of another.
-/

namespace Rtl8852be

def tu : ℕ := 1024

def minTriggerMccTime : ℕ := 300

def toU64 (x : ℤ) : ℕ := (x % 2 ^ 64).toNat

def tsfOf (tsfH tsfL : ℕ) : ℕ := tsfH * 2 ^ 32 + tsfL

def tsfHalves (tsf : ℕ) : ℕ × ℕ := (tsf / 2 ^ 32, tsf % 2 ^ 32)

/-- `bcn_cmn.bcn_interval` of an access point, `asoc_cap.bcn_interval` of a client, and the offset
of the beacons in `TU`. -/
structure BcnTiming where
  isAp : Bool
  bcnCmnInterval : ℕ
  asocBcnInterval : ℕ
  bcnOffset : ℕ

variable (r : BcnTiming)

@[simp] def BcnTiming.bcnIntvl : ℕ :=
  if r.isAp then toU16 r.bcnCmnInterval else r.asocBcnInterval

def phlCalcOffsetFromTbtt (curT : ℕ) : Option ℕ :=
  if r.bcnIntvl = 0 then none
  else
    let mod := curT % (r.bcnIntvl * tu) / tu
    if mod < r.bcnOffset then some (toU16 (mod + ((r.bcnIntvl : ℤ) - r.bcnOffset)))
    else some (toU16 ((mod : ℤ) - r.bcnOffset))

def phlRoleGetBcnIntvl (client : Bool) (r : BcnTiming) : ℕ :=
  if client then r.asocBcnInterval else if r.isAp then toU16 r.bcnCmnInterval else 0

/-- `rtw_phl_tbtt_sync`, with the TSF that is read and whether the ports can be synced: `diff_t`. -/
def rtwPhlTbttSync (src tgt : BcnTiming) (client : Bool) (syncOfst : ℕ) (synced : Bool) :
    Option (ℕ × ℕ) → Option ℕ
  | none => none
  | some (tsfH, tsfL) =>
    let bcnIntvl := phlRoleGetBcnIntvl client tgt
    if bcnIntvl = 0 then none
    else
      let tsf := tsfOf tsfH tsfL
      let ofst := (phlCalcOffsetFromTbtt src tsf).getD 0
      let tgtTsf := toU64 ((tsf + syncOfst * tu : ℕ) - (ofst * tu : ℕ))
      let diffTsf := (bcnIntvl * tu - tgtTsf % (bcnIntvl * tu)) / tu
      if synced then some (toU16 diffTsf) else none

def mccStartLoop (tsf bcnIntvl : ℕ) : ℕ → ℕ → Option ℕ
  | 0, _ => none
  | left + 1, startTsf =>
    if startTsf < toU64 (tsf + minTriggerMccTime * tu : ℕ) then
      mccStartLoop tsf bcnIntvl left (toU64 (startTsf + bcnIntvl * tu : ℕ))
    else some startTsf

def mccStartTsf (tsf : ℕ) (r : BcnTiming) (tobR : ℤ) : Option ℕ :=
  let offset := (phlCalcOffsetFromTbtt r tsf).getD 0
  mccStartLoop tsf r.bcnIntvl 10 (toU64 (tsf - (offset + tobR) * tu))

def mccCalculateStartTsf (tobR : ℤ) : Option (ℕ × ℕ) → Option (ℕ × ℕ)
  | none => none
  | some (tsfH, tsfL) => (mccStartTsf (tsfOf tsfH tsfL) r tobR).map tsfHalves

inductive MccDurLimTag where
  | none
  | noa
  deriving DecidableEq

structure MccDurLimReq where
  tag : MccDurLimTag
  enable : Bool
  startTH : ℕ
  startTL : ℕ
  dur : ℕ
  intvl : ℕ

def MccDurLimReq.start (req : MccDurLimReq) : ℕ := tsfOf req.startTH req.startTL

structure MccDurLim extends MccDurLimInfo where
  maxDur : ℕ
  tag : MccDurLimTag

def toU32 (x : ℤ) : ℕ := (x % 2 ^ 32).toNat

/-- `_mcc_fill_dur_lim_info`. The remainder goes through a `u16` before it is compared. -/
def mccFillDurLimInfo (bcnIntvl : ℕ) (req : MccDurLimReq) (lim : MccDurLim) : MccDurLim :=
  if !req.enable then { lim with enable := false }
  else if toU32 (bcnIntvl * tu : ℕ) ≠ req.intvl then { lim with enable := false }
  else
    let maxToa := toU16 (req.start % (bcnIntvl * tu) : ℕ)
    if toU32 ((bcnIntvl * tu : ℕ) - req.dur) ≤ maxToa ∨ maxToa = 0 then { lim with enable := false }
    else
      let maxDur := toU32 ((req.intvl : ℤ) - req.dur) / tu
      let maxToa := maxToa / tu
      let maxTob := toU32 ((maxDur : ℤ) - maxToa)
      { enable := true, maxToa := toU16 maxToa, maxTob := toU16 maxTob, maxDur := toU16 maxDur,
        tag := req.tag }

end Rtl8852be

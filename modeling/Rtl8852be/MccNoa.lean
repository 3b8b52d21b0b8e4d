import Rtl8852be.MccClients
import Rtl8852be.MccDur
import Rtl8852be.MccStart

/-!
# An access point and a client, and the absence that the access point announces

The clients of an access point are told from when on it is absent: from the end of its slot. That
time is computed from the interval and from what was noted of the Bluetooth slot.
-/

namespace Rtl8852be

def apClientOffset : ℕ := 40

def clientsWorsecaseRefToa : ℤ := 30

structure MccEnInfo where
  info : MccInfo
  timing1 : BcnTiming
  timing2 : BcnTiming
  refFirst : Bool
  addBtRole : Bool
  pattern : MccPattern
  tsfHigh : ℕ
  tsfLow : ℕ

variable (s : MccEnInfo)

namespace MccEnInfo

def refIdx : ℕ := if s.refFirst then 0 else 1

def anoIdx : ℕ := if s.refFirst then 1 else 0

def roleRef : MccRole := if s.refFirst then s.info.role1 else s.info.role2

def roleAno : MccRole := if s.refFirst then s.info.role2 else s.info.role1

def refTiming : BcnTiming := if s.refFirst then s.timing1 else s.timing2

end MccEnInfo

def mccSet2ClientsWorsecaseDefaultPattern (ref ano : MccDurInfo) (m : MccPattern) : MccPattern :=
  mccFillAno ano (mccFillRef ref
    { m with toaR := clientsWorsecaseRefToa, tobR := toS16 (ref.dur - clientsWorsecaseRefToa) })

/-- `_mcc_fill_2_wrole_bt_pattern`. A wrong number of segments is only traced. -/
def mccFill2WroleBtPattern (offset : ℕ) (s : MccEnInfo) : MccEnInfo :=
  let ref := s.roleRef.durInfo.toMccDurInfo
  let ano := s.roleAno.durInfo.toMccDurInfo
  if s.info.btInfo.btSegNum = 1 then
    let c := mccCalculate2wslot1btslotPattern ref ano offset (toS16 s.info.btInfo.btDur) s.pattern
    { s with
      addBtRole := true
      pattern := if c.1 = .success then c.2 else mccSet2ClientsWorsecaseDefaultPattern ref ano c.2 }
  else s

def mccSetApClientDefaultPattern : MccEnInfo :=
  let ref := s.roleRef.durInfo.toMccDurInfo
  let ano := s.roleAno.durInfo.toMccDurInfo
  let bcnsOffset := toU8 (s.info.mccIntvl / 2 : ℕ)
  let toaR := toS16 (ref.dur / 2 : ℕ)
  let tobA := toU8 (bcnsOffset - toaR)
  let m := { s.pattern with
    toaR := toaR, tobR := toS16 (ref.dur - toaR), tobA := tobA, toaA := toS16 (ano.dur - tobA) }
  { s with pattern := mccFillAno ano (mccFillRef ref m) }

def mccSetApClientDur (i : MccInfo) : MccInfo :=
  let dur1 := i.role1.durInfo.dur
  let dur2 := i.role2.durInfo.dur
  if i.role1.isAp then
    let d := mccSetDurForApClientMode dur1 dur2 i.mccIntvl
    { i with role1 := i.role1.setDur d.1, role2 := i.role2.setDur d.2 }
  else
    let d := mccSetDurForApClientMode dur2 dur1 i.mccIntvl
    { i with role1 := i.role1.setDur d.2, role2 := i.role2.setDur d.1 }

def mccFillApClientPattern : Option MccEnInfo :=
  let apTiming := if s.info.role1.isAp then s.timing1 else s.timing2
  let info := mccSetApClientDur { s.info with mccIntvl := apTiming.bcnIntvl }
  let m := { s.pattern with roleRef := s.refIdx, roleAno := s.anoIdx }
  match mccDiscisionDurationFor2roleBt info with
  | none => none
  | some (true, info) =>
    some (mccFill2WroleBtPattern apClientOffset { s with info := info, pattern := m })
  | some (false, info) => some (mccSetApClientDefaultPattern { s with info := info, pattern := m })

/-- With whether `rtw_phl_tbtt_sync` succeeds and the TSF read for the start. A role that is no
access point is a client. -/
def mccFillInfoForApClientMode (tbttSync : Bool) (halTsf : Option (ℕ × ℕ)) (s : MccEnInfo) :
    Option MccEnInfo :=
  if s.info.role1.isAp = s.info.role2.isAp then none
  else
    match mccFillApClientPattern s with
    | none => none
    | some s =>
      if !tbttSync then none
      else
        match mccCalculateStartTsf s.refTiming s.pattern.tobR halTsf with
        | none => none
        | some start => some { s with tsfHigh := start.1, tsfLow := start.2 }

structure MccNoa where
  wrole : ℕ
  startTH : ℕ
  startTL : ℕ
  dur : ℕ
  interval : ℕ
  cnt : ℕ

def mccNoaBtSeg (addBtRole : Bool) (bt : MccBtInfo) : Option ℕ :=
  if addBtRole then
    if bt.btSegNum = 1 then some bt.btSeg0
    else if bt.btSegNum = 2 then some bt.btSeg1
    else none
  else some 0

def tdmraCalcNoa2wrole (tsfRef tsfAno : ℕ) : Option MccNoa :=
  let mccStart := tsfOf s.tsfHigh s.tsfLow
  let dR := s.roleRef.durInfo.dur
  let dA := s.roleAno.durInfo.dur
  let noa (wrole noaStart dur : ℕ) : MccNoa :=
    ⟨wrole, (tsfHalves noaStart).1, (tsfHalves noaStart).2, dur, s.info.mccIntvl, 255⟩
  if s.roleRef.isAp then
    some (noa s.refIdx (toU64 (mccStart + dR * tu)) (toU16 (s.info.mccIntvl - dR)))
  else
    (mccNoaBtSeg s.addBtRole s.info.btInfo).map fun seg =>
      noa s.anoIdx (toU64 (mccStart + s.info.mccIntvl * tu - seg * tu - tsfRef + tsfAno))
        (toU16 (s.info.mccIntvl - dA))

end Rtl8852be

import Rtl8852be.Basic
import Rtl8852be.Lib.CntQueue
import Rtl8852be.Lib.Run

/-!
# Received frames that wait for their PHY status

The PHY status of a PPDU comes after its MPDUs, which wait in a queue, one per band and PPDU count,
until it comes, or the status of another PPDU, or the next PPDU.
-/

namespace Rtl8852be

inductive RssiType where
  | dataAcam
  | dataAcamA1m
  | dataOther
  | ctrlAcam
  | ctrlAcamA1m
  | ctrlOther
  | mgntAcam
  | mgntAcamA1m
  | mgntOther
  | unknown
  deriving DecidableEq

def phlMaxPpduCnt : ℕ := 8

def rtwFrameTypeMgnt : ℕ := 0

def rtwFrameTypeCtrl : ℕ := 1

def rtwFrameTypeData : ℕ := 2

structure PpduPhyInfo where
  isValid : Bool
  rssi : ℕ
  rssiPath : Fin 4 → ℕ
  chIdx : ℕ
  txBf : ℕ
  frameType : ℕ

structure RxMetaData where
  bbSel : ℕ
  ppduCnt : ℕ
  rxRate : ℕ
  bw : ℕ
  rxGiLtf : ℕ
  ppduType : ℕ
  frameType : ℕ
  longRxd : ℕ

/-- `struct rtw_phl_rx_pkt`, with the first byte of its payload and the number of its arrival. -/
structure StsPkt where
  mdata : RxMetaData
  hdr : ℕ
  phyInfo : PpduPhyInfo
  no : ℕ

def StsPkt.withPhy (pkt : StsPkt) (phy : PpduPhyInfo) : StsPkt := { pkt with phyInfo := phy }

def StsPkt.numbered (pkt : StsPkt) (n : ℕ) : StsPkt := { pkt with no := n }

def StsPkt.band (pkt : StsPkt) : Fin 2 := if 0 < pkt.mdata.bbSel then 1 else 0

structure PpduStsPara where
  enPstsPerPkt : Bool
  enPpduSts : Fin 2 → Bool
  pstsAmpdu : Bool
  ppduStsFilter : ℕ
  enFakePsts : Bool

/-- `struct rtw_phl_ppdu_sts_info`. `indicated` has the packets passed to `rx_handle_normal`,
`arrived` counts the MPDUs, and `accepted` has those that `phl_rx_proc_wait_phy_sts` took. -/
structure PpduStsInfo where
  frames : Fin 2 → ℕ → CntQueue StsPkt
  curPpduCnt : Fin 2 → ℕ
  indicated : List StsPkt
  arrived : ℕ
  accepted : Fin 2 → List ℕ

namespace PpduStsInfo

variable (s : PpduStsInfo) (b : Fin 2)

def setFrames (i : ℕ) (q : CntQueue StsPkt) : PpduStsInfo :=
  { s with frames := Function.update s.frames b (Function.update (s.frames b) i q) }

def setCur (i : ℕ) : PpduStsInfo := { s with curPpduCnt := Function.update s.curPpduCnt b i }

def handleNormal (l : List StsPkt) : PpduStsInfo := { s with indicated := s.indicated ++ l }

def count : PpduStsInfo := { s with arrived := s.arrived + 1 }

def accept (n : ℕ) : PpduStsInfo :=
  { s with accepted := Function.update s.accepted b (s.accepted b ++ [n]) }

@[simp] def pqReset (i : ℕ) : PpduStsInfo := s.setFrames b i ⟨[], 0⟩

@[simp] def pqPush (i : ℕ) (pkt : StsPkt) : PpduStsInfo :=
  s.setFrames b i ((s.frames b i).pushTail pkt)

end PpduStsInfo

def pqPopAll : List StsPkt → ℕ → List StsPkt × CntQueue StsPkt
  | [], cnt => ([], ⟨[], cnt⟩)
  | pkt :: l, 0 => ([], ⟨pkt :: l, 0⟩)
  | pkt :: l, cnt + 1 => (pkt :: (pqPopAll l cnt).1, (pqPopAll l cnt).2)

def phlRxProcFrameList (b : Fin 2) (i : ℕ) (s : PpduStsInfo) : PpduStsInfo :=
  if (s.frames b i).cnt = 0 then s
  else
    let r := pqPopAll (s.frames b i).items (s.frames b i).cnt
    (s.setFrames b i r.2).handleNormal r.1

variable (para : PpduStsPara)

def startOfPpdu (b : Fin 2) (s : PpduStsInfo) (i : ℕ) : PpduStsInfo :=
  if (s.frames b i).cnt ≠ 0 then (phlRxProcFrameList b i s).pqReset b i else s

def pstsFilter (pkt : StsPkt) : Bool :=
  pkt.mdata.longRxd = 1 && para.ppduStsFilter.testBit pkt.mdata.frameType

def phlRxProcWaitPhySts (pkt : StsPkt) (s : PpduStsInfo) : Bool × PpduStsInfo :=
  let b := pkt.band
  let cnt := pkt.mdata.ppduCnt
  if para.enPstsPerPkt = false then (false, s)
  else if phlMaxPpduCnt ≤ cnt then (false, s)
  else if para.enPpduSts b = false then (false, s)
  else if s.curPpduCnt b ≠ cnt then
    let s := (List.range phlMaxPpduCnt).foldl (startOfPpdu b) s
    if pstsFilter para pkt then (true, ((s.pqReset b cnt).pqPush b cnt pkt).setCur b cnt)
    else (false, s.setCur b cnt)
  else if pstsFilter para pkt then (true, s.pqPush b cnt pkt)
  else (false, s)

/-- What the fake status reads: `ma_rssi` and `rtw_hal_get_cur_ch`. -/
structure StsEnv where
  maRssi : RssiType → ℕ
  curCh : ℕ → ℕ

def stsMatches (first sts : StsPkt) : Bool :=
  first.mdata.rxRate = sts.mdata.rxRate && first.mdata.bw = sts.mdata.bw &&
    first.mdata.rxGiLtf = sts.mdata.rxGiLtf && first.mdata.ppduType = sts.mdata.ppduType

def fakeRssiType (frameType : ℕ) : RssiType :=
  if frameType = rtwFrameTypeMgnt then .mgntAcamA1m
  else if frameType = rtwFrameTypeData then .dataAcamA1m
  else if frameType = rtwFrameTypeCtrl then .ctrlAcamA1m
  else .unknown

def phlGet80211HdrType (hdr : ℕ) : ℕ := (hdr >>> 2) % 64

/-- It gets the type of the first packet, and if not valid it may be made up from averages. -/
def stsPhyInfo (env : StsEnv) (first sts : StsPkt) : PpduPhyInfo :=
  let phy := { sts.phyInfo with frameType := phlGet80211HdrType first.hdr }
  if phy.isValid = false ∧ para.enFakePsts = true then
    let rssi := env.maRssi (fakeRssiType first.mdata.frameType)
    { phy with
      rssi := rssi
      rssiPath := fun _ => rssi
      chIdx := env.curCh first.mdata.bbSel
      isValid := true }
  else phy

def copyPhyInfo (ampdu : Bool) (phy : PpduPhyInfo) : List StsPkt → List StsPkt
  | [] => []
  | pkt :: l => pkt.withPhy phy :: if ampdu then copyPhyInfo ampdu phy l else l

def phlRxProcPhySts (sts : StsPkt) (env : StsEnv) (s : PpduStsInfo) : PhlStatus × PpduStsInfo :=
  let b := sts.band
  let i := s.curPpduCnt b
  if para.enPstsPerPkt = false then (.failure, s)
  else if phlMaxPpduCnt ≤ sts.mdata.ppduCnt then (.failure, s)
  else if para.enPpduSts b = false then (.failure, s)
  else if (s.frames b i).cnt = 0 then (.success, s)
  else
    match (s.frames b i).items with
    | [] => (.failure, s)
    | first :: l =>
      -- a status of another PPDU passes the queue on without a copy
      let uptPsts := sts.mdata.ppduCnt = i && stsMatches first sts
      let items := if uptPsts then
        copyPhyInfo para.pstsAmpdu (stsPhyInfo para env first sts) (first :: l) else first :: l
      (.failure, (phlRxProcFrameList b i (s.setFrames b i ⟨items, (s.frames b i).cnt⟩)).pqReset b i)

inductive PstsEv where
  | wifi (pkt : StsPkt)
  | ppduStatus (sts : StsPkt) (env : StsEnv)

/-- The two cases of `phl_rx_process_pcie`. An MPDU that does not wait is passed on at once. -/
def phlRxProcessPsts (s : PpduStsInfo) : PstsEv → PpduStsInfo
  | .wifi pkt =>
    let pkt := pkt.numbered s.arrived
    match phlRxProcWaitPhySts para pkt s with
    | (true, s) => (s.accept pkt.band pkt.no).count
    | (false, s) => (s.handleNormal [pkt]).count
  | .ppduStatus sts env => (phlRxProcPhySts para sts env s).2

def ppduStsInit (cur : Fin 2 → Fin 8) : PpduStsInfo where
  frames := fun _ _ => ⟨[], 0⟩
  curPpduCnt := fun b => cur b
  indicated := []
  arrived := 0
  accepted := fun _ => []

end Rtl8852be

import Rtl8852be.WdRing
import Rtl8852be.Lib.Frames

/-!
# WD contents and release reports

A WD page tells the hardware `qsel`, `macid` and a sequence number. The hardware echoes the three in
a release report, and the driver works out from them the channel and the number under which it keeps
the request.
-/

namespace Rtl8852be

inductive PktType where
  | data
  | mgnt
  | h2c
  | ctrl
  | fwdl
  deriving DecidableEq

/-- A request: its identity, and what the WD is made from. `tid` is the category of the ring it came
from. -/
structure XmitReq where
  id : ℕ
  type : PktType
  macid : ℕ
  tid : ℕ
  band : ℕ
  wmm : ℕ
  pktlen : ℕ
  deriving DecidableEq

def ringCatMgnt : ℕ := 8
def ringCatHiq : ℕ := 9

def mgqB0QueueIdx : ℕ := 8
def hiqB0QueueIdx : ℕ := 9

def halMappingHwTxChnl (_macid cat band : ℕ) : ℕ :=
  if band = 0 then
    match cat with
    | 0 | 3 => 0
    | 1 | 2 => 1
    | 4 | 5 => 2
    | 6 | 7 => 3
    | 8 => mgqB0QueueIdx
    | 9 => hiqB0QueueIdx
    | _ => 0
  else 0

variable (oob : ℕ → ℕ) (r : XmitReq)

def XmitReq.dmaCh : ℕ := halMappingHwTxChnl r.macid r.tid r.band

/-- What of a WD page the hardware echoes: two fields of the body, and the sequence number behind
it. -/
structure WdMem where
  macid : ℕ
  qsel : ℕ
  pcieSeq : ℕ
  deriving DecidableEq

def macAxDataHiq : ℕ := 9

def txpktsizeMsk : ℕ := 0x3fff
def qselMsk : ℕ := 0x3f
def macidMsk : ℕ := 0x7f

def qselL : List ℕ := [0, 1, 1, 0, 2, 2, 3, 3]

def packBody (macid qsel : ℕ) : ℕ × ℕ := (macid &&& macidMsk, qsel &&& qselMsk)

def txdesProcH2cFwdl : Option (ℕ × ℕ) :=
  if txpktsizeMsk < r.pktlen ∨ r.pktlen = 0 then none else some (0, 0)

/-- `txdes_proc_data`; `oob` is what is read past the end of `qsel_l`. -/
def txdesProcData : Option (ℕ × ℕ) :=
  if macAxDataHiq < r.dmaCh then none
  else if txpktsizeMsk < r.pktlen ∨ r.pktlen = 0 then none
  else
    let qsel :=
      if r.dmaCh = macAxDataHiq then if r.band ≠ 0 then 25 else 17
      else (r.band <<< 3 ||| r.wmm <<< 2 ||| qselL[r.tid]?.getD (oob r.tid)) % 0x100
    some (packBody r.macid qsel)

def txdesProcMgnt : Option (ℕ × ℕ) :=
  if txpktsizeMsk < r.pktlen ∨ r.pktlen = 0 then none
  else some (packBody r.macid (if r.band ≠ 0 then 26 else 18))

def macBuildTxdesc : Option (ℕ × ℕ) :=
  match r.type with
  | .h2c | .fwdl => txdesProcH2cFwdl r
  | .data => txdesProcData oob r
  | .mgnt => txdesProcMgnt r
  | .ctrl => none

def halGetTidIndic (tid : ℕ) : ℕ :=
  match tid with
  | 2 | 3 | 5 | 7 => 1
  | _ => 0

def wpTidIndicReservedBit : ℕ := 0x4000
def wpReservedSeq : ℕ := 0xFFF

/-- The status of `rtw_hal_mac_ax_fill_txdesc` is not looked at. A page not used before holds zeros.
-/
def halUpdateWd (wpSeq : ℕ) (old : Option WdMem) : WdMem × ℕ :=
  let mem := old.getD ⟨0, 0, 0⟩
  let body := (macBuildTxdesc oob r).getD (mem.macid, mem.qsel)
  let seq := if halGetTidIndic r.tid = 1 then wpSeq ||| wpTidIndicReservedBit else wpSeq
  (⟨body.1, body.2, seq % 0x8000⟩, wdPageSize)

structure RxRp where
  macid : ℕ
  qsel : ℕ
  txSts : ℕ
  pcieSeq : ℕ
  polluted : Bool
  deriving DecidableEq

/-- The report for a page. `qsel` has five bits in it. -/
def WdMem.report (w : WdMem) (txSts : ℕ) (polluted : Bool) : RxRp :=
  ⟨w.macid, w.qsel % 0x20, txSts, w.pcieSeq, polluted⟩

def halQselToTid (qsel tidIndic : ℕ) : ℕ :=
  match qsel with
  | 0x0 | 0x4 | 0x8 | 0xc => if tidIndic = 1 then 3 else 0
  | 0x1 | 0x5 | 0x9 | 0xd => if tidIndic = 1 then 2 else 1
  | 0x2 | 0x6 | 0xa | 0xe => if tidIndic = 1 then 5 else 4
  | 0x3 | 0x7 | 0xb | 0xf => if tidIndic = 1 then 7 else 6
  | 0x12 | 0x1a => ringCatMgnt
  | 0x11 | 0x19 => ringCatHiq
  | _ => 0

structure WpRpt where
  swRetry : Bool
  dmaCh : ℕ
  wpSeq : ℕ
  deriving DecidableEq

def halHandleRxReport (rp : RxRp) : WpRpt :=
  let band := if rp.qsel &&& 8 ≠ 0 then 1 else 0
  let tidIndic := if rp.pcieSeq &&& wpTidIndicReservedBit ≠ 0 then 1 else 0
  let tid := halQselToTid rp.qsel tidIndic
  { swRetry := rp.txSts ≠ 0 || rp.polluted
    dmaCh := halMappingHwTxChnl rp.macid tid band
    wpSeq := rp.pcieSeq &&& wpReservedSeq }

/-- One turn of the loop of `_phl_rx_handle_wp_report`, whose two branches are the same. -/
def phlRxHandleWpReport (ok : Bool) (rp : RxRp) (cs : ℕ → TxChan XmitReq WdMem) :
    ℕ → TxChan XmitReq WdMem :=
  let rpt := halHandleRxReport rp
  if rpt.swRetry = false then
    Function.update cs rpt.dmaCh (phlRecyclePayload ok rpt.wpSeq (cs rpt.dmaCh))
  else
    Function.update cs rpt.dmaCh (phlRecyclePayload ok rpt.wpSeq (cs rpt.dmaCh))

structure SentWd where
  req : XmitReq
  dmaCh : ℕ
  wpSeq : ℕ
  mem : WdMem
  deriving DecidableEq

/-- The channels; beside them, the WDs written, and which of them had a report the core took. -/
structure WpSys where
  cs : ℕ → TxChan XmitReq WdMem
  sent : List SentWd
  reported : List ℕ

inductive WpEvent where
  | prepare (txReq : XmitReq)
  | report (k txSts : ℕ) (polluted ok : Bool)
  | tx (io : ℕ → TxIo)
  | hw (ch k : ℕ)

variable (s : WpSys)

def WpSys.nextWd (r : XmitReq) : SentWd :=
  let c := s.cs r.dmaCh
  ⟨r, r.dmaCh, c.ring.wpSeq,
    (halUpdateWd oob r c.ring.wpSeq (c.ring.idle.items.head?.bind WdPage.wd)).1⟩

def wpPrepare (r : XmitReq) : WpSys :=
  let res := phlPrepareTxPcie (halUpdateWd oob) true r (s.cs r.dmaCh)
  { s with
    cs := Function.update s.cs r.dmaCh res.2
    sent := if res.1 = .success then s.sent ++ [s.nextWd oob r] else s.sent }

def wpReport (k txSts : ℕ) (polluted ok : Bool) : WpSys :=
  match s.sent[k]? with
  | none => s
  | some e =>
    { s with
      cs := phlRxHandleWpReport ok (e.mem.report txSts polluted) s.cs
      reported := if ok then s.reported ++ [k] else s.reported }

def wpStep (txbdNum total : ℕ) (s : WpSys) : WpEvent → WpSys
  | .prepare r => wpPrepare oob s r
  | .report k txSts polluted ok => wpReport s k txSts polluted ok
  | .tx io => { s with cs := phlTxPcie txbdNum io total s.cs }
  | .hw ch k =>
    let c := s.cs ch
    { s with cs := Function.update s.cs ch { c with bd := hwAdvance txbdNum k c.bd } }

@[simp] def wpInit (pages work : ℕ → List ℕ) : WpSys :=
  ⟨fun ch => txChanInit (pages ch) (work ch), [], []⟩

/-!
## Packets of release reports

A packet of the release report queue is a row of records of four bytes. The driver takes them one
after the other, and releases the request that each one names.
-/

def rxRpPacketSize : ℕ := 4

def txDmaChannelEntry : ℕ := 13

def leBits (word offset len : ℕ) : ℕ := word / 2 ^ offset % 2 ^ len

def RxRp.ofWord (word : ℕ) : RxRp where
  macid := leBits word 0 8
  qsel := leBits word 8 5
  txSts := leBits word 13 3
  pcieSeq := leBits word 16 15
  polluted := leBits word 31 1 ≠ 0

structure RecycleCall where
  dmaCh : ℕ
  wpSeq : ℕ
  txsts : ℕ
  deriving DecidableEq

def RxRp.call (rp : RxRp) : RecycleCall :=
  ⟨(halHandleRxReport rp).dmaCh, (halHandleRxReport rp).wpSeq, rp.txSts⟩

/-- What it hands back and the bytes it used, 0 if there are too few. -/
def halHandleRxReport8852be : List UInt8 → RecycleCall × ℕ
  | a :: b :: c :: d :: _ => ((RxRp.ofWord (Frames.ofLe32 a b c d)).call, rxRpPacketSize)
  | _ => (⟨0, 0, 0⟩, 0)

/-- The calls it makes and the bytes it used, `none` if it has not come to an end by then. -/
def phlRxHandleWpReportLoop : ℕ → List UInt8 → Option (List RecycleCall × ℕ)
  | 0, _ => none
  | turns + 1, pkt =>
    if pkt.length = 0 then some ([], 0)
    else
      let (call, rsize) := halHandleRxReport8852be pkt
      if rsize = 0 then some ([], 0)
      else
        (phlRxHandleWpReportLoop turns (pkt.drop rsize)).map fun (calls, used) =>
          (call :: calls, rsize + used)

end Rtl8852be

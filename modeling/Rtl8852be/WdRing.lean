import Rtl8852be.Basic
import Rtl8852be.Lib.CntQueue

/-!
# WD pages and transmit descriptors of a DMA channel

`phl_prepare_tx_pcie` fills an idle WD page and queues it as pending; `phl_tx_pcie` gives pending
pages to the hardware through descriptors (TXBDs) and takes back those of descriptors that are done.
A page taken back waits in the work ring before it is idle again. The hardware consumes descriptors
in order, and stops at the index last written by the doorbell.
-/

namespace Rtl8852be

open Function

def wdPageSize : ℕ := 128

/-- `WP_MAX_SEQ_NUMBER`, which is the reserved number `0xFFF`. -/
def wpMaxSeqNumber : ℕ := 0xFFF

structure WdPage (ω : Type*) where
  addr : ℕ
  bufLen : ℕ
  ls : Bool
  hostIdx : ℕ
  wd : Option ω
  deriving DecidableEq

structure TxBd where
  len : ℕ
  ls : Bool
  addr : ℕ
  deriving DecidableEq

/-- `struct rtw_wd_page_ring`, with the channel's `busy_cnt` of `rtw_wp_rpt_stats`. -/
structure WdPageRing (ρ ω : Type*) where
  idle : CntQueue (WdPage ω)
  pending : CntQueue (WdPage ω)
  busy : CntQueue (WdPage ω)
  workRing : List (WdPage ω)
  workIdx : ℕ
  wpSeq : ℕ
  wpTag : ℕ → Option ρ
  rptBusyCnt : ℕ

/-- `struct tx_base_desc` and the index register with its two fields. Beside them the addresses put
in descriptors, those the hardware has consumed since the driver last looked, and the doorbells. -/
structure TxBaseDesc where
  hostIdx : ℕ
  txbd : ℕ → Option TxBd
  regHostIdx : ℕ
  regHwIdx : ℕ
  submitted : List (ℕ × ℕ)
  done : List ℕ
  doorbells : ℕ

structure TxChan (ρ ω : Type*) where
  ring : WdPageRing ρ ω
  bd : TxBaseDesc
  prepared : List ℕ
  recycled : List ρ

variable {ρ ω : Type*}

variable (wd : WdPage ω)

@[simp] def enqueuePendingWdPage (first : Bool) (r : WdPageRing ρ ω) : WdPageRing ρ ω :=
  { r with pending := if first then r.pending.pushFront wd else r.pending.pushTail wd }

variable (c : TxChan ρ ω) (b : TxBaseDesc) (r : WdPageRing ρ ω)

@[simp] def enqueueBusyWdPage : WdPageRing ρ ω := { r with busy := r.busy.pushTail wd }

def enqueueIdleWdPage : WdPageRing ρ ω :=
  { r with idle := r.idle.pushTail { wd with bufLen := wdPageSize, hostIdx := 0 } }

/-- `enqueue_wd_work_ring`: the page takes the place of the one that has waited longest. -/
def enqueueWdWorkRing : WdPageRing ρ ω :=
  let r' := { r with
    workRing := r.workRing.set r.workIdx wd
    workIdx := (r.workIdx + 1) % r.workRing.length }
  match r.workRing[r.workIdx]? with
  | none => r'
  | some workDoneWd => enqueueIdleWdPage workDoneWd r'

@[simp] def queryPendingWdPage : Option (WdPage ω) × WdPageRing ρ ω :=
  (r.pending.items.head?, { r with pending := r.pending.dropFirst })

def queryIdleWdPage : Option (WdPage ω) × WdPageRing ρ ω :=
  (r.idle.items.head?, { r with idle := r.idle.dropFirst })

def rtwReleasePendingWdPage : ℕ → WdPageRing ρ ω → WdPageRing ρ ω
  | 0, r => r
  | releaseNum + 1, r =>
    match queryPendingWdPage r with
    | (none, _) => r
    | (some wd, r) => rtwReleasePendingWdPage releaseNum (enqueueIdleWdPage wd r)

def releaseBusyLoop : ℕ → PhlStatus → WdPageRing ρ ω → PhlStatus × WdPageRing ρ ω
  | 0, pstatus, r => (pstatus, r)
  | releaseNum + 1, pstatus, r =>
    match r.busy.items with
    | [] => (pstatus, r)
    | wd :: _ =>
      releaseBusyLoop releaseNum .success
        (enqueueWdWorkRing wd { r with busy := r.busy.dropFirst })

def rtwReleaseBusyWdPage (releaseNum : ℕ) (r : WdPageRing ρ ω) : PhlStatus × WdPageRing ρ ω :=
  releaseBusyLoop releaseNum .failure r

def phlRecyclePayload (ok : Bool) (wpSeq : ℕ) (c : TxChan ρ ω) : TxChan ρ ω :=
  match c.ring.wpTag wpSeq with
  | none => c
  | some treq =>
    if ok then
      { c with
        ring := { c.ring with
          wpTag := update c.ring.wpTag wpSeq none
          rptBusyCnt := c.ring.rptBusyCnt - 1 }
        recycled := c.recycled ++ [treq] }
    else c

def nextWpSeq (wpSeq : ℕ) : ℕ :=
  if (wpSeq + 1) % wpMaxSeqNumber = 0 then 1 else (wpSeq + 1) % wpMaxSeqNumber

def acceptWdPage (txReq : ρ) (wd : WdPage ω) (c : TxChan ρ ω) : TxChan ρ ω :=
  { c with
    ring := { enqueuePendingWdPage wd false c.ring with
      wpTag := update c.ring.wpTag c.ring.wpSeq (some txReq)
      rptBusyCnt := c.ring.rptBusyCnt + 1
      wpSeq := nextWpSeq c.ring.wpSeq }
    prepared := c.prepared ++ [wd.addr] }

def WdPage.fill (w : ω × ℕ) : WdPage ω := { wd with wd := some w.1, bufLen := w.2 }

/-- `fill` is what `rtw_hal_update_wd_page` makes of a page's memory for a request and a sequence
number, with the length it reports; `ok` is its status. -/
def phlPrepareTxPcie (fill : ρ → ℕ → Option ω → ω × ℕ) (ok : Bool) (txReq : ρ) (c : TxChan ρ ω) :
    PhlStatus × TxChan ρ ω :=
  if c.ring.wpTag c.ring.wpSeq ≠ none then (.failure, c)
  else match queryIdleWdPage c.ring with
  | (none, _) => (.failure, c)
  | (some wd, r) =>
    let wd := wd.fill (fill txReq c.ring.wpSeq wd.wd)
    if ok then (.success, acceptWdPage txReq wd { c with ring := r })
    else (.failure, { c with ring := enqueueIdleWdPage wd r })

/-- The free descriptors, and the hardware's index. The register has two fields of 12 bits. -/
def halGetAvailTxbd (txbdNum : ℕ) (b : TxBaseDesc) : ℕ × ℕ :=
  let hostIdx := b.regHostIdx % 0x1000
  let hwIdx := b.regHwIdx % 0x1000
  (phlCalcAvailWptr hwIdx hostIdx txbdNum, hwIdx)

def updateTxbdLoop (txbdNum : ℕ) : ℕ → WdPage ω → TxBaseDesc → WdPage ω × TxBaseDesc
  | 0, wd, b => (wd, b)
  | wcnt + 1, wd, b =>
    let hostIdx := (b.hostIdx + 1) % txbdNum
    updateTxbdLoop txbdNum wcnt { wd with hostIdx := hostIdx }
      { b with
        hostIdx := hostIdx
        txbd := update b.txbd b.hostIdx (some ⟨wd.bufLen, wd.ls, wd.addr⟩)
        submitted := b.submitted ++ [(wd.addr, b.hostIdx)] }

/-- `hal_update_txbd_8852be`. Its status is success, however many descriptors it writes. -/
def halUpdateTxbd (txbdNum wdNum : ℕ) (wd : WdPage ω) (b : TxBaseDesc) : WdPage ω × TxBaseDesc :=
  updateTxbdLoop txbdNum (min wdNum (halGetAvailTxbd txbdNum b).1) wd b

def halTriggerTxdma : TxBaseDesc := { b with regHostIdx := b.hostIdx, doorbells := b.doorbells + 1 }

/-- The hardware consumes the descriptor at its index, unless it has reached the host's. -/
def hwStep (txbdNum : ℕ) (b : TxBaseDesc) : TxBaseDesc :=
  if b.regHwIdx = b.regHostIdx then b
  else { b with
    regHwIdx := (b.regHwIdx + 1) % txbdNum
    done := b.done ++ ((b.txbd b.regHwIdx).map TxBd.addr).toList }

def hwAdvance (txbdNum k : ℕ) (b : TxBaseDesc) : TxBaseDesc := (hwStep txbdNum)^[k] b

/-- `_phl_reset_txbd`. The hardware's register is not its business. -/
def phlResetTxbd : TxBaseDesc :=
  { b with hostIdx := 0, txbd := fun _ => none, submitted := [], done := [] }

/-- How far the hardware gets before each descriptor is written, and whether `rtw_hal_update_txbd`
and `rtw_hal_trigger_txstart` succeed. -/
structure TxIo where
  hw : ℕ → ℕ
  update : ℕ → Bool
  trigger : Bool

@[simp] def TxChan.takePending : TxChan ρ ω := { c with ring := (queryPendingWdPage c.ring).2 }

def submitWdPage (txbdNum : ℕ) (wd : WdPage ω) (c : TxChan ρ ω) : TxChan ρ ω :=
  let u := halUpdateTxbd txbdNum 1 { wd with ls := true } c.bd
  { c with bd := u.2, ring := enqueueBusyWdPage u.1 c.ring }

/-- The page taken goes back to the front, when its descriptor could not be written. -/
def putBackWdPage : TxChan ρ ω :=
  { c with ring := enqueuePendingWdPage { wd with ls := true } true c.ring }

/-- The loop of `phl_handle_pending_wd`, at its count `cnt` with `left` to go. -/
def pendingLoop (txbdNum : ℕ) (io : TxIo) :
    ℕ → ℕ → PhlStatus → TxChan ρ ω → PhlStatus × TxChan ρ ω
  | 0, _, pstatus, c => (pstatus, c)
  | left + 1, cnt, _, c =>
    let c := { c with bd := hwAdvance txbdNum (io.hw cnt) c.bd }
    match (queryPendingWdPage c.ring).1 with
    | none => (.resource, c)
    | some wd =>
      if io.update cnt then
        pendingLoop txbdNum io left (cnt + 1) .success (submitWdPage txbdNum wd c.takePending)
      else (.resource, putBackWdPage wd c.takePending)

def phlHandlePendingWd (txbdNum : ℕ) (io : TxIo) (txcnt : ℕ) (c : TxChan ρ ω) :
    PhlStatus × TxChan ρ ω :=
  match pendingLoop txbdNum io txcnt 0 .failure c with
  | (.success, c) =>
    if io.trigger then (.success, { c with bd := halTriggerTxdma c.bd }) else (.failure, c)
  | r => r

def busyReleaseNum (bndy hwIdx target : ℕ) : ℕ :=
  if target ≤ hwIdx then ((hwIdx - target) + 1) % bndy
  else ((bndy - target) + (hwIdx + 1)) % bndy

def releaseDone (bndy hwIdx : ℕ) (r : WdPageRing ρ ω) : PhlStatus × WdPageRing ρ ω :=
  match r.busy.items with
  | [] => (.failure, r)
  | wd :: _ => rtwReleaseBusyWdPage (busyReleaseNum bndy hwIdx wd.hostIdx) r

def phlHandleBusyWd (bndy hwIdx : ℕ) (r : WdPageRing ρ ω) : PhlStatus × WdPageRing ρ ω :=
  if r.busy.items = [] then (.success, r)
  else if bndy - 1 < r.busy.cnt then
    match rtwReleaseBusyWdPage (r.busy.cnt - (bndy - 1)) r with
    | (.success, r) => releaseDone bndy hwIdx r
    | res => res
  else releaseDone bndy hwIdx r

def recycleBusyWd (txbdNum hwIdx : ℕ) (c : TxChan ρ ω) : PhlStatus × TxChan ρ ω :=
  let res := phlHandleBusyWd txbdNum hwIdx c.ring
  (res.1, { c with ring := res.2, bd := { c.bd with done := [] } })

def phlTxPcieCh (txbdNum : ℕ) (io : TxIo) (c : TxChan ρ ω) : PhlStatus × TxChan ρ ω :=
  if c.ring.pending.cnt = 0 ∧ c.ring.busy.cnt = 0 then (.success, c)
  else
    let res := halGetAvailTxbd txbdNum c.bd
    let b := recycleBusyWd txbdNum res.2 c
    if b.2.ring.pending.items = [] then b
    else if b.1 = .failure then b
    else if res.1 = 0 then b
    else phlHandlePendingWd txbdNum io (min res.1 b.2.ring.pending.cnt) b.2

/-- The driver's loop over its channels, each of which has a state of its own. -/
def forTxCh (total : ℕ) (f : ℕ → TxChan ρ ω → TxChan ρ ω) (cs : ℕ → TxChan ρ ω) : ℕ → TxChan ρ ω :=
  (List.range total).foldl (fun cs ch => update cs ch (f ch (cs ch))) cs

/-- `phl_tx_pcie`. The status of one channel is not looked at in the next. -/
def phlTxPcie (txbdNum : ℕ) (io : ℕ → TxIo) (total : ℕ) (cs : ℕ → TxChan ρ ω) : ℕ → TxChan ρ ω :=
  forTxCh total (fun ch c => (phlTxPcieCh txbdNum (io ch) c).2) cs

def resetWpTag (ok : ℕ → Bool) : ℕ → ℕ → TxChan ρ ω → TxChan ρ ω
  | 0, _, c => c
  | left + 1, wpSeq, c => resetWpTag ok left (wpSeq + 1) (phlRecyclePayload (ok wpSeq) wpSeq c)

def phlTxResetPcieCh (ok : ℕ → Bool) (c : TxChan ρ ω) : TxChan ρ ω :=
  let r := (rtwReleaseBusyWdPage c.ring.busy.cnt c.ring).2
  resetWpTag ok wpMaxSeqNumber 0
    { c with
      bd := phlResetTxbd c.bd
      ring := rtwReleasePendingWdPage r.pending.cnt r
      prepared := [] }

def phlTxResetPcie (ok : ℕ → ℕ → Bool) (total : ℕ) (cs : ℕ → TxChan ρ ω) : ℕ → TxChan ρ ω :=
  forTxCh total (fun ch c => phlTxResetPcieCh (ok ch) c) cs

inductive WdEvent (ρ : Type*) where
  | prepare (ch : ℕ) (ok : Bool) (txReq : ρ)
  | tx (io : ℕ → TxIo)
  | report (ch : ℕ) (ok : Bool) (wpSeq : ℕ)
  | reset (ok : ℕ → ℕ → Bool)
  | hw (ch k : ℕ)

def wdStep (txbdNum total : ℕ) (fill : ρ → ℕ → Option ω → ω × ℕ) (cs : ℕ → TxChan ρ ω) :
    WdEvent ρ → ℕ → TxChan ρ ω
  | .prepare ch ok txReq => update cs ch (phlPrepareTxPcie fill ok txReq (cs ch)).2
  | .tx io => phlTxPcie txbdNum io total cs
  | .report ch ok wpSeq => update cs ch (phlRecyclePayload ok wpSeq (cs ch))
  | .reset ok => phlTxResetPcie ok total cs
  | .hw ch k => update cs ch { cs ch with bd := hwAdvance txbdNum k (cs ch).bd }

def TxIo.succeed (hw : ℕ → ℕ) : TxIo := ⟨hw, fun _ => true, true⟩

/-- What happens on one channel, with submissions and recycles also on their own. -/
inductive ChanEvent (ρ : Type*) where
  | prepare (ok : Bool) (txReq : ρ)
  | submit (txcnt : ℕ) (hw : ℕ → ℕ)
  | recycle
  | tx (hw : ℕ → ℕ)
  | hw (k : ℕ)

/-- A submission is of no more pages than are pending and than there are free descriptors. The
hardware's progress between reading its index and using it comes after the recycle. -/
def chanStep (txbdNum : ℕ) (fill : ρ → ℕ → Option ω → ω × ℕ) (c : TxChan ρ ω) :
    ChanEvent ρ → TxChan ρ ω
  | .prepare ok txReq => (phlPrepareTxPcie fill ok txReq c).2
  | .submit txcnt hw =>
    (phlHandlePendingWd txbdNum (.succeed hw)
      (min txcnt (min (halGetAvailTxbd txbdNum c.bd).1 c.ring.pending.cnt)) c).2
  | .recycle => (recycleBusyWd txbdNum (halGetAvailTxbd txbdNum c.bd).2 c).2
  | .tx hw => (phlTxPcieCh txbdNum (.succeed hw) c).2
  | .hw k => { c with bd := hwAdvance txbdNum k c.bd }

def txBaseDescInit : TxBaseDesc := ⟨0, fun _ => none, 0, 0, [], [], 0⟩

@[simp] def txChanInit (pages work : List ℕ) : TxChan ρ ω where
  ring := {
    idle := ⟨pages.map fun a => ⟨a, wdPageSize, false, 0, none⟩, pages.length⟩
    pending := ⟨[], 0⟩
    busy := ⟨[], 0⟩
    workRing := work.map fun a => ⟨a, wdPageSize, false, 0, none⟩
    workIdx := 0
    wpSeq := 1
    wpTag := fun _ => none
    rptBusyCnt := 0 }
  bd := txBaseDescInit
  prepared := []
  recycled := []

end Rtl8852be

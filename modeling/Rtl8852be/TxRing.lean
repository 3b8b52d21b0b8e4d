import Rtl8852be.Basic
import Mathlib.Data.List.FinRange

/-!
# The software transmit rings

Each registered macid has ten rings. `rtw_phl_add_tx_req` adds requests under `t_ring_list_lock`.
The callback takes stock of every ring under the same lock (`phl_check_xmit_ring_resource`), orders
what it found (`phl_tx_flow_ctrl`), and then, without the lock, hands on the requests
(`_phl_handle_xmit_ring_pcie`). It takes one access at a time, and requests are added in between.
-/

namespace Rtl8852be

def maxPhlRingCatNum : ℕ := 10

/-- A ring is named by its macid and its category. -/
abbrev RingId := ℕ × Fin maxPhlRingCatNum

structure TringInfo where
  band : ℕ
  wmm : ℕ
  port : ℕ
  deriving DecidableEq

structure TxMeta where
  macid : ℕ
  band : ℕ
  wmm : ℕ
  halPort : ℕ
  tid : ℕ
  dmaCh : ℕ
  deriving DecidableEq

/-- `struct rtw_phl_tx_ring`; its `tid` is the category it is kept under. -/
structure PhlTxRing (ρ : Type*) where
  dmaCh : ℕ
  coreIdx : ℕ
  phlIdx : ℕ
  phlNextIdx : ℕ
  entry : ℕ → Option ρ

structure TxRingLog (ρ : Type*) extends PhlTxRing ρ where
  accepted : List ρ
  handed : List (ρ × TxMeta)
  consumed : List ρ

structure RingStatus where
  ring : RingId
  band : ℕ
  wmm : ℕ
  port : ℕ
  reqBusy : ℕ

structure TxPlan where
  sleep : Bool
  hasMgnt : Bool
  hasHiq : Bool
  sortedRing : List RingStatus

/-- Between rounds, between two rings, at the head of a ring's loop, after `prepare_tx`, and after
`phl_idx` was moved. -/
inductive TxCallback (ρ : Type*) where
  | idle
  | next (todo : List RingStatus)
  | loop (sts : RingStatus) (todo : List RingStatus)
  | prepared (sts : RingStatus) (rptr : ℕ) (req : ρ) (todo : List RingStatus)
  | stored (sts : RingStatus) (rptr : ℕ) (todo : List RingStatus)

structure TxSys (ρ : Type*) where
  macids : List ℕ
  info : ℕ → TringInfo
  ring : RingId → TxRingLog ρ
  cb : TxCallback ρ

variable {ρ : Type*}

variable (alloc : RingId → Bool) (sleep : ℕ → Bool) (s : TxSys ρ) (id : RingId) (r : TxRingLog ρ)

def TxSys.setRing : TxSys ρ := { s with ring := Function.update s.ring id r }

@[simp] def TxSys.setCb (cb : TxCallback ρ) : TxSys ρ := { s with cb := cb }

def TxRingLog.accept (txReq : ρ) : TxRingLog ρ :=
  let coreIdx := (r.coreIdx + 1) % maxPhlRingEntryNum
  { r with
    coreIdx := coreIdx
    entry := Function.update r.entry coreIdx (some txReq)
    accepted := r.accepted ++ [txReq] }

def rtwPhlAddTxReq (macid : ℕ) (tid : Fin maxPhlRingCatNum) (txReq : ρ) (s : TxSys ρ) :
    PhlStatus × TxSys ρ :=
  if macid ∈ s.macids then
    let ring := s.ring (macid, tid)
    let ringRes := phlCalcAvailWptr ring.phlIdx ring.coreIdx maxPhlRingEntryNum
    if 0 < ringRes then (.success, s.setRing (macid, tid) (ring.accept txReq))
    else (.resource, s)
  else (.failure, s)

def phlCheckRingStatus (alloc : Bool) (info : TringInfo) (id : RingId) (ring : TxRingLog ρ) :
    Option RingStatus × TxRingLog ρ :=
  let rptr := ring.phlIdx
  let avail := phlCalcAvailRptr rptr ring.coreIdx maxPhlRingEntryNum
  if avail = 0 then (none, ring)
  else if alloc then
    (some ⟨id, info.band, info.wmm, info.port, avail⟩,
      { ring with phlNextIdx := if maxPhlRingEntryNum ≤ rptr + 1 then 0 else rptr + 1 })
  else (none, ring)

variable (sts : RingStatus)

/-- `_phl_sort_ring_by_tid`: categories 1 and 2 are background traffic and go last, 2 before 1. -/
def phlSortRingByTid (plan : TxPlan) (cat : Fin maxPhlRingCatNum) : TxPlan :=
  if sts.ring.2.val = 1 then { plan with sortedRing := plan.sortedRing ++ [sts] }
  else if sts.ring.2.val = 2 then
    match plan.sortedRing.getLast? with
    | none => { plan with sortedRing := plan.sortedRing ++ [sts] }
    | some last =>
      if last.ring.2.val = 1 then
        { plan with sortedRing := plan.sortedRing.dropLast ++ [sts, last] }
      else { plan with sortedRing := plan.sortedRing ++ [sts] }
  else
    { plan with
      sortedRing := sts :: plan.sortedRing
      hasMgnt := plan.hasMgnt || cat.val = 8
      hasHiq := plan.hasHiq || cat.val = 9 }

def checkCats (macid : ℕ) : List (Fin maxPhlRingCatNum) → TxPlan → TxSys ρ → TxPlan × TxSys ρ
  | [], plan, s => (plan, s)
  | i :: is, plan, s =>
    match phlCheckRingStatus (alloc (macid, i)) (s.info macid) (macid, i) (s.ring (macid, i)) with
    | (none, _) => checkCats macid is plan s
    | (some sts, r) =>
      checkCats macid is (phlSortRingByTid sts plan i) (s.setRing (macid, i) r)

def phlCheckTringList (sleep : Bool) (macid : ℕ) (s : TxSys ρ) : TxPlan × TxSys ρ :=
  checkCats alloc macid (List.finRange maxPhlRingCatNum) ⟨sleep, false, false, []⟩ s

def checkTringLists : List ℕ → List TxPlan → TxSys ρ → List TxPlan × TxSys ρ
  | [], staList, s => (staList, s)
  | macid :: macids, staList, s =>
    let r := phlCheckTringList alloc (sleep macid) macid s
    checkTringLists macids
      (if r.1.sortedRing.isEmpty then staList else staList ++ [r.1]) r.2

def phlCheckXmitRingResource : List TxPlan × TxSys ρ := checkTringLists alloc sleep s.macids [] s

structure FlowCtrl where
  result : List RingStatus
  tidEntry : Fin maxPhlRingCatNum → Option RingId

def insertAfter : List RingStatus → List RingStatus
  | [] => [sts]
  | x :: l => if x.ring = id then x :: sts :: l else x :: insertAfter l

def flowFront (has : Bool) (sorted result : List RingStatus) : List RingStatus × List RingStatus :=
  match has, sorted with
  | true, sts :: sorted => (sorted, sts :: result)
  | _, _ => (sorted, result)

def flowRing (f : FlowCtrl) (sts : RingStatus) : FlowCtrl where
  result :=
    match f.tidEntry sts.ring.2 with
    | none => f.result ++ [sts]
    | some id => insertAfter id sts f.result
  tidEntry := Function.update f.tidEntry sts.ring.2 (some sts.ring)

def flowPlan (f : FlowCtrl) (plan : TxPlan) : FlowCtrl :=
  if plan.sleep then f
  else
    let hiq := flowFront plan.hasHiq plan.sortedRing f.result
    let mgnt := flowFront plan.hasMgnt hiq.1 hiq.2
    mgnt.1.foldl flowRing { f with result := mgnt.2 }

def phlTxFlowCtrl (staList : List TxPlan) : List RingStatus :=
  (staList.foldl flowPlan ⟨[], fun _ => none⟩).result

def TxRingLog.hand (req : ρ) : TxRingLog ρ :=
  { r with
    handed := r.handed ++
      [(req, ⟨sts.ring.1, sts.band, sts.wmm, sts.port, sts.ring.2, r.dmaCh⟩)] }

@[simp] def TxRingLog.pass (rptr : ℕ) (req : ρ) : TxRingLog ρ :=
  { r with phlIdx := rptr, consumed := r.consumed ++ [req] }

/-- `phl_next_idx` is moved only while requests remain, to zero or by an increment in place. -/
def TxRingLog.advance (reqBusy rptr : ℕ) : TxRingLog ρ :=
  if reqBusy = 0 then r
  else { r with phlNextIdx := if maxPhlRingEntryNum ≤ rptr + 1 then 0 else r.phlNextIdx + 1 }

def txLoop (ok : Bool) (sts : RingStatus) (todo : List RingStatus) (s : TxSys ρ) : TxSys ρ :=
  let ring := s.ring sts.ring
  if sts.reqBusy = 0 then s.setCb (.next todo)
  else match ring.entry ring.phlNextIdx with
  | none => s.setCb (.next todo)
  | some req =>
    if ok then
      (s.setRing sts.ring (ring.hand sts req)).setCb (.prepared sts ring.phlNextIdx req todo)
    else s.setCb (.next todo)

def txTick (ok : Bool) (s : TxSys ρ) : TxSys ρ :=
  match s.cb with
  | .idle => s
  | .next [] => s.setCb .idle
  | .next (sts :: todo) => s.setCb (.loop sts todo)
  | .loop sts todo => txLoop ok sts todo s
  | .prepared sts rptr req todo =>
    (s.setRing sts.ring ((s.ring sts.ring).pass rptr req)).setCb
      (.stored { sts with reqBusy := sts.reqBusy - 1 } rptr todo)
  | .stored sts rptr todo =>
    (s.setRing sts.ring ((s.ring sts.ring).advance sts.reqBusy rptr)).setCb (.loop sts todo)

def txRound : TxSys ρ :=
  match s.cb with
  | .idle =>
    let r := phlCheckXmitRingResource alloc sleep s
    r.2.setCb (.next (phlTxFlowCtrl r.1))
  | _ => s

inductive TxEvent (ρ : Type*) where
  | add (macid : ℕ) (tid : Fin maxPhlRingCatNum) (txReq : ρ)
  | round (alloc : RingId → Bool) (sleep : ℕ → Bool)
  | tick (ok : Bool)

def txStep : TxEvent ρ → TxSys ρ
  | .add macid tid txReq => (rtwPhlAddTxReq macid tid txReq s).2
  | .round alloc sleep => txRound alloc sleep s
  | .tick ok => txTick ok s

def txInit (macids : List ℕ) (info : ℕ → TringInfo) (dmaCh : RingId → ℕ) : TxSys ρ where
  macids := macids
  info := info
  ring := fun id => ⟨⟨dmaCh id, 0, 0, 0, fun _ => none⟩, [], [], []⟩
  cb := .idle

/-!
## Transmit plans after the flow control

`phl_tx_flow_ctrl` takes the first entry of `sorted_ring` when the plan says that there is a ring of
high or management traffic, and does not look whether there is one.
-/

def emptyTxPlan : TxPlan := ⟨false, false, false, []⟩

/-- `_phl_reset_tx_plan`, with the ring statuses that it gives back to the pool. -/
def phlResetTxPlan (plan : TxPlan) : TxPlan × List RingStatus := (emptyTxPlan, plan.sortedRing)

structure TxFlow where
  ctrl : FlowCtrl
  plans : List TxPlan
  released : List RingStatus

def TxFlow.reset (f : TxFlow) (plan : TxPlan) : TxFlow :=
  let (plan, released) := phlResetTxPlan plan
  { f with plans := f.plans ++ [plan], released := f.released ++ released }

def txFlowLoop : List TxPlan → TxFlow → Option TxFlow
  | [], f => some f
  | plan :: plans, f =>
    if plan.sleep then txFlowLoop plans (f.reset plan)
    else if plan.hasHiq ∧ plan.sortedRing = [] then none
    else if plan.hasMgnt
        ∧ (flowFront plan.hasHiq plan.sortedRing f.ctrl.result).1 = [] then none
    else
      txFlowLoop plans
        (TxFlow.reset { f with ctrl := flowPlan f.ctrl plan } { plan with sortedRing := [] })

def txFlow (plans : List TxPlan) : Option TxFlow := txFlowLoop plans ⟨⟨[], fun _ => none⟩, [], []⟩

end Rtl8852be

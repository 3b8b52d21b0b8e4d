import Rtl8852be.Basic

/-!
# The ring of received packets

`_phl_add_rx_pkt` puts packets on a ring under `rx_ring_lock`, and `rtw_phl_query_rx_pkt` takes them
off without a lock, so there is a machine in which each side takes one access at a time. `batch`
tells whether `PHL_RX_BATCH_IND` is defined. Where it is not, a stored packet leaves the status at
its initial `failure`.
-/

namespace Rtl8852be

variable {β : Type*}

structure PhlRxRing (β : Type*) where
  phlIdx : ℕ
  coreIdx : ℕ
  entry : ℕ → Option β

variable (ring : PhlRxRing β)

def PhlRxRing.ringRes : ℕ := phlCalcAvailWptr ring.coreIdx ring.phlIdx maxPhlRingEntryNum

def nextWptr (wptr : ℕ) : ℕ := if maxPhlRingEntryNum ≤ wptr + 1 then 0 else wptr + 1

def PhlRxRing.publish (wptr : ℕ) : PhlRxRing β :=
  { ring with phlIdx := if wptr ≠ 0 then ring.phlIdx + 1 else 0 }

@[simp] def PhlRxRing.write (wptr : ℕ) (v : Option β) : PhlRxRing β :=
  { ring with entry := Function.update ring.entry wptr v }

def storedStatus (batch : Bool) : PhlStatus := if batch then .success else .failure

def phlAddRxPkt (batch : Bool) (pkt : β) (ring : PhlRxRing β) : PhlStatus × PhlRxRing β :=
  if ring.ringRes = 0 then (.resource, ring)
  else
    let wptr := nextWptr ring.phlIdx
    (storedStatus batch, (ring.write wptr (some pkt)).publish wptr)

def rtwPhlQueryNewRxNum : ℕ := phlCalcAvailRptr ring.coreIdx ring.phlIdx maxPhlRingEntryNum

def PhlRxRing.release (rptr : ℕ) : PhlRxRing β :=
  { ring with coreIdx := if rptr = 0 then 0 else ring.coreIdx + 1 }

def rtwPhlQueryRxPkt : Option β × PhlRxRing β :=
  if rtwPhlQueryNewRxNum ring = 0 then (none, ring)
  else
    let rptr := nextWptr ring.coreIdx
    (ring.entry rptr, (ring.write rptr none).release rptr)

inductive RxProducer (β : Type*) where
  | idle
  | start (pkt : β)
  | loaded (pkt : β) (wptr : ℕ)
  | room (pkt : β) (wptr : ℕ)
  | written (pkt : β) (wptr : ℕ)

inductive RxConsumer (β : Type*) where
  | idle
  | start
  | loaded (wptr : ℕ)
  | avail (rptr : ℕ)
  | taken (rptr : ℕ) (recvpkt : Option β)
  | cleared (rptr : ℕ) (recvpkt : Option β)

/-- The packets stored, those the core was given, those given back for want of room, and the
statuses returned. -/
structure RxRingSys (β : Type*) where
  ring : PhlRxRing β
  prod : RxProducer β
  cons : RxConsumer β
  stored : List β
  returned : List β
  recycled : List β
  calls : List (β × PhlStatus)

variable (s : RxRingSys β)

@[simp] def RxRingSys.finish (pkt : β) (status : PhlStatus) : RxRingSys β :=
  { s with
    prod := .idle
    calls := s.calls ++ [(pkt, status)]
    recycled := if status = .resource then s.recycled ++ [pkt] else s.recycled }

def prodTick (batch : Bool) (s : RxRingSys β) : RxRingSys β :=
  match s.prod with
  | .idle => s
  | .start pkt => { s with prod := .loaded pkt s.ring.phlIdx }
  | .loaded pkt wptr =>
    if phlCalcAvailWptr s.ring.coreIdx wptr maxPhlRingEntryNum = 0 then s.finish pkt .resource
    else { s with prod := .room pkt wptr }
  | .room pkt wptr =>
    { s with ring := s.ring.write (nextWptr wptr) (some pkt), prod := .written pkt (nextWptr wptr) }
  | .written pkt wptr =>
    { s.finish pkt (storedStatus batch) with
      ring := s.ring.publish wptr
      stored := s.stored ++ [pkt] }

def consTick : RxRingSys β :=
  match s.cons with
  | .idle => s
  | .start => { s with cons := .loaded s.ring.phlIdx }
  | .loaded wptr =>
    if phlCalcAvailRptr s.ring.coreIdx wptr maxPhlRingEntryNum = 0 then { s with cons := .idle }
    else { s with cons := .avail (nextWptr s.ring.coreIdx) }
  | .avail rptr => { s with cons := .taken rptr (s.ring.entry rptr) }
  | .taken rptr recvpkt =>
    { s with ring := s.ring.write rptr none, cons := .cleared rptr recvpkt }
  | .cleared rptr recvpkt =>
    { s with
      ring := s.ring.release rptr
      cons := .idle
      returned := s.returned ++ recvpkt.toList }

inductive RxRingEvent (β : Type*) where
  | frame (pkt : β)
  | prod
  | query
  | cons

/-- A side that is in the middle of a call does not begin another. -/
def rxRingStep (batch : Bool) (s : RxRingSys β) : RxRingEvent β → RxRingSys β
  | .frame pkt =>
    match s.prod with
    | .idle => { s with prod := .start pkt }
    | _ => s
  | .prod => prodTick batch s
  | .query =>
    match s.cons with
    | .idle => { s with cons := .start }
    | _ => s
  | .cons => consTick s

def rxRingInit : RxRingSys β where
  ring := ⟨0, 0, fun _ => none⟩
  prod := .idle
  cons := .idle
  stored := []
  returned := []
  recycled := []
  calls := []

end Rtl8852be

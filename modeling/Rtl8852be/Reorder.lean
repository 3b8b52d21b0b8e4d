import Mathlib.Algebra.Group.Nat.Defs
import Mathlib.Logic.Function.Basic

/-!
# The receive reordering of an A-MPDU session

`phl_rx.c` keeps a ring of `buf_size` slots for each station and TID, addressed by `reorder_index`,
and the sequence number `head_seq_num` it waits for. A BlockAckReq moves the head, and the reorder
timer runs `phl_reorder_release`.
-/

namespace Rtl8852be

def seqModulo : ℕ := 0x1000

/-- Sequence arithmetic is on `int` and masked, so a negative difference wraps modulo `0x1000`. -/
def seqSub (sq1 sq2 : ℕ) : ℕ := (sq1 + (seqModulo - sq2 % seqModulo)) % seqModulo

def seqLess (sq1 sq2 : ℕ) : Bool := seqModulo / 2 < seqSub sq1 sq2

def seqInc (sq : ℕ) : ℕ := (sq + 1) % seqModulo

structure RxPkt (α : Type*) where
  seq : ℕ
  seq_lt : seq < 0x1000
  rest : α
  deriving DecidableEq

structure TidAmpduRx (α : Type*) where
  reorderBuf : ℕ → Option (RxPkt α)
  reorderTime : ℕ → ℕ
  headSeqNum : ℕ
  storedMpduNum : ℕ
  ssn : ℕ
  bufSize : ℕ
  started : Bool
  removed : Bool

structure RxCtx (α : Type*) extends TidAmpduRx α where
  frames : List (RxPkt α)
  recycled : List (RxPkt α)
  timerSet : Bool

variable {α : Type*}

/-- `phl_tid_ampdu_rx_alloc`, the allocations succeeding. -/
def phlTidAmpduRxAlloc (ssn bufSize : ℕ) : RxCtx α where
  reorderBuf := fun _ => none
  reorderTime := fun _ => 0
  headSeqNum := ssn
  storedMpduNum := 0
  ssn := ssn
  bufSize := bufSize
  started := false
  removed := false
  frames := []
  recycled := []
  timerSet := false

def reorderIndex (r : TidAmpduRx α) (seq : ℕ) : ℕ := seqSub seq r.ssn % r.bufSize

variable (pkt : RxPkt α) (c : RxCtx α)

def phlReleaseReorderFrame (index : ℕ) : RxCtx α :=
  match c.reorderBuf index with
  | none => { c with headSeqNum := seqInc c.headSeqNum }
  | some pkt =>
    { c with
      storedMpduNum := c.storedMpduNum - 1
      reorderBuf := Function.update c.reorderBuf index none
      frames := c.frames ++ [pkt]
      headSeqNum := seqInc c.headSeqNum }

def htRxReorderBufTimeoutMs : ℕ := 100

@[simp] def recyclePkts (l : List (RxPkt α)) (c : RxCtx α) : RxCtx α :=
  { c with recycled := c.recycled ++ l }

def recycleBetween (c : RxCtx α) (j : ℕ) : ℕ → ℕ → RxCtx α
  | 0, _ => c
  | fuel + 1, i =>
    if i = j then c
    else recycleBetween (recyclePkts (c.reorderBuf i).toList c) j fuel ((i + 1) % c.bufSize)

def skipHead (skipped : ℕ) (c : RxCtx α) : RxCtx α :=
  { c with headSeqNum := (c.headSeqNum + skipped) % seqModulo }

def timeoutWalk (curTime index : ℕ) : ℕ → ℕ → ℕ → RxCtx α → RxCtx α × Bool
  | 0, _, _, c => (c, true)
  | fuel + 1, j, skipped, c =>
    if j = index then (c, true)
    else match c.reorderBuf j with
    | none => timeoutWalk curTime index fuel ((j + 1) % c.bufSize) (skipped + 1) c
    | some _ =>
      -- the deadline is a `u32`, so it wraps
      if skipped ≠ 0 ∧ curTime < (c.reorderTime j + htRxReorderBufTimeoutMs) % 2 ^ 32 then
        (c, false)
      else
        timeoutWalk curTime index fuel ((j + 1) % c.bufSize) 0
          (skipHead skipped (phlReleaseReorderFrame
            (recycleBetween c j c.bufSize ((index + 1) % c.bufSize)) j))

def releaseRun : ℕ → RxCtx α → RxCtx α
  | 0, c => c
  | fuel + 1, c =>
    match c.reorderBuf (reorderIndex c.toTidAmpduRx c.headSeqNum) with
    | none => c
    | some _ =>
      releaseRun fuel (phlReleaseReorderFrame c (reorderIndex c.toTidAmpduRx c.headSeqNum))

def setReleaseTimer : RxCtx α :=
  if c.removed then c else { c with timerSet := true }

/-- The tail of `phl_reorder_release`. The timer does not use the index the scan finds. -/
def rearmTimer : RxCtx α :=
  if c.storedMpduNum ≠ 0 then setReleaseTimer c else { c with timerSet := false }

/-- That scan, from slot `j` on. Its end is an `int`, where -1 modulo `buf_size` is -1. -/
def timerScan (r : TidAmpduRx α) (index : ℕ) : ℕ → ℕ → Option ℕ
  | 0, _ => none
  | fuel + 1, j =>
    if (j : ℤ) = ((index : ℤ) - 1).tmod r.bufSize then some j
    else match r.reorderBuf j with
    | some _ => some j
    | none => timerScan r index fuel ((j + 1) % r.bufSize)

def phlReorderRelease (curTime : ℕ) (c : RxCtx α) : RxCtx α :=
  let index := reorderIndex c.toTidAmpduRx c.headSeqNum
  if c.reorderBuf index = none ∧ c.storedMpduNum ≠ 0 then
    match timeoutWalk curTime index c.bufSize ((index + 1) % c.bufSize) 1 c with
    | (c, true) => rearmTimer c
    | (c, false) => setReleaseTimer c
  else rearmTimer (releaseRun c.bufSize c)

def releaseFramesLoop (headSeqNum : ℕ) : ℕ → RxCtx α → RxCtx α
  | 0, c => c
  | fuel + 1, c =>
    if seqLess c.headSeqNum headSeqNum ∧ c.storedMpduNum ≠ 0 then
      releaseFramesLoop headSeqNum fuel
        (phlReleaseReorderFrame c (reorderIndex c.toTidAmpduRx c.headSeqNum))
    else c

def phlReleaseReorderFrames (headSeqNum : ℕ) (c : RxCtx α) : RxCtx α :=
  { releaseFramesLoop headSeqNum seqModulo c with headSeqNum := headSeqNum }

def slideWindow (mpduSeqNum : ℕ) (c : RxCtx α) : RxCtx α :=
  if seqLess mpduSeqNum (c.headSeqNum + c.bufSize) then c
  else phlReleaseReorderFrames (seqInc (seqSub mpduSeqNum c.bufSize)) c

def storeMpdu (index storeTime : ℕ) (c : RxCtx α) : RxCtx α :=
  { c with
    reorderBuf := Function.update c.reorderBuf index (some pkt)
    reorderTime := Function.update c.reorderTime index storeTime
    storedMpduNum := c.storedMpduNum + 1 }

/-- A duplicate is recycled, the awaited frame of an empty buffer is left to the caller. -/
def insertMpdu (storeTime curTime : ℕ) (c : RxCtx α) : Bool × RxCtx α :=
  let index := reorderIndex c.toTidAmpduRx pkt.seq
  if c.reorderBuf index ≠ none then (true, recyclePkts [pkt] c)
  else if pkt.seq = c.headSeqNum ∧ c.storedMpduNum = 0 then
    (false, { c with headSeqNum := seqInc c.headSeqNum })
  else
    (true, phlReorderRelease curTime (storeMpdu pkt index storeTime c))

/-- `phl_manage_sta_reorder_buf`; `false` leaves the frame to the caller. -/
def phlManageStaReorderBuf (storeTime curTime : ℕ) (c : RxCtx α) : Bool × RxCtx α :=
  if seqLess pkt.seq c.headSeqNum then
    if c.started then (true, recyclePkts [pkt] c) else (false, c)
  else insertMpdu pkt storeTime curTime (slideWindow pkt.seq { c with started := true })

/-- `dont_reorder`: a frame left to the caller goes on the output list. -/
def dontReorder : Bool × RxCtx α → RxCtx α
  | (true, c) => c
  | (false, c) => { c with frames := c.frames ++ [pkt] }

def phlRxReorder (storeTime curTime : ℕ) (c : RxCtx α) : RxCtx α :=
  dontReorder pkt (phlManageStaReorderBuf pkt storeTime curTime c)

def rtwPhlRxBar (seq : ℕ) (c : RxCtx α) : RxCtx α :=
  if seqLess seq c.headSeqNum then c else phlReleaseReorderFrames seq c

inductive RxEvent (α : Type*) where
  | mpdu (pkt : RxPkt α) (storeTime curTime : ℕ)
  | bar (seq : ℕ) (h : seq < 0x1000)
  | timer (curTime : ℕ)

def rxStep : RxEvent α → RxCtx α
  | .mpdu pkt storeTime curTime => phlRxReorder pkt storeTime curTime c
  | .bar seq _ => rtwPhlRxBar seq c
  | .timer curTime => phlReorderRelease curTime { c with timerSet := false }

end Rtl8852be

import Rtl8852be.Basic
import Rtl8852be.Lib.Frames

/-!
# Aggregation of commands to the firmware

Commands that may wait are queued. When the queue is sent, neighbours that are short enough share
one long buffer, each behind a header with its length. The queue is sent and flushed under a lock.
-/

namespace Rtl8852be

def wdBodyLen : ℕ := 24

def fwcmdHdrLen : ℕ := 8

def h2cAggSubHdrLen : ℕ := 4

def h2cLongDataLen : ℕ := 2048

def align4Byte (len : ℕ) : ℕ := (len + 3) / 4 * 4

def h2cPktAggregatable (len : ℕ) : Prop :=
  align4Byte len + wdBodyLen + fwcmdHdrLen + h2cAggSubHdrLen < h2cLongDataLen

instance (len : ℕ) : Decidable (h2cPktAggregatable len) := Nat.decLt _ _

/-- `struct rtw_h2c_pkt`: the bytes of a command, whose length can be aligned in a `u32`. -/
structure H2cb where
  data : List UInt8
  short : data.length + 3 < 2 ^ 32

structure H2cAggInfo where
  en : Bool
  queue : List H2cb
  pktNum : ℕ

inductive H2cTx where
  | normal (h2cb : H2cb)
  | agg (payload : List UInt8)

/-- For the transfer after `n` ones: whether there is a buffer for an aggregate, what it held
before, and how the transfer ends. `signal` is whether a signal ends a wait for the lock. -/
structure H2cAggEnv where
  alloc : ℕ → Bool
  stale : ℕ → ℕ → UInt8
  tx : ℕ → MacStatus
  signal : Bool

structure AggH2cb where
  payload : List UInt8
  aggLen : ℕ

/-- A command behind its header. What aligns it is not written, so it is what the buffer held. -/
def subH2c (stale : ℕ → UInt8) (h2cb : H2cb) (off : ℕ) : List UInt8 :=
  Frames.le32 (align4Byte h2cb.data.length) ++ h2cb.data ++
    (List.range (align4Byte h2cb.data.length - h2cb.data.length)).map fun i =>
      stale (off + h2cAggSubHdrLen + h2cb.data.length + i)

def AggH2cb.put (stale : ℕ → UInt8) (h2cb : H2cb) (b : AggH2cb) : AggH2cb where
  payload := b.payload ++ subH2c stale h2cb b.payload.length
  aggLen := b.aggLen + align4Byte h2cb.data.length + h2cAggSubHdrLen

def nextAggregatable : List H2cb → Prop
  | [] => False
  | next :: _ => h2cPktAggregatable next.data.length

instance : DecidablePred nextAggregatable
  | [] => inferInstanceAs (Decidable False)
  | _ :: _ => inferInstanceAs (Decidable (h2cPktAggregatable _))

def nextH2cbLen : List H2cb → ℕ
  | [] => 0
  | next :: _ => next.data.length

variable (env : H2cAggEnv)

/-- What the loop leaves: the commands that are still queued, those that were recycled as they were
copied, and the aggregate that is still open. -/
structure H2cAggLeft where
  ret : MacStatus
  sent : List H2cTx
  recycled : List H2cb
  queue : List H2cb
  agg : Option AggH2cb

def h2cAggTxLoop : List H2cb → Option AggH2cb → List H2cTx → List H2cb → H2cAggLeft
  | [], agg, sent, recycled => ⟨.success, sent, recycled, [], agg⟩
  | cur :: rest, agg, sent, recycled =>
    if agg.isNone ∧ ¬ (h2cPktAggregatable cur.data.length ∧ nextAggregatable rest) then
      match env.tx sent.length with
      | .success => h2cAggTxLoop rest none (sent ++ [.normal cur]) recycled
      | ret => ⟨ret, sent, recycled, cur :: rest, none⟩
    else if agg.isNone ∧ env.alloc sent.length = false then
      ⟨.nobuf, sent, recycled, cur :: rest, none⟩
    else
      let b := (agg.getD ⟨[], wdBodyLen + fwcmdHdrLen⟩).put (env.stale sent.length) cur
      if h2cLongDataLen < b.payload.length then
        ⟨.noitem, sent, recycled, cur :: rest, some (agg.getD ⟨[], wdBodyLen + fwcmdHdrLen⟩)⟩
      else if rest = [] ∨
          h2cLongDataLen ≤ b.aggLen + align4Byte (nextH2cbLen rest) + h2cAggSubHdrLen then
        match env.tx sent.length with
        | .success => h2cAggTxLoop rest none (sent ++ [.agg b.payload]) (recycled ++ [cur])
        | ret => ⟨ret, sent, recycled ++ [cur], rest, some b⟩
      else h2cAggTxLoop rest (some b) sent (recycled ++ [cur])

inductive LockOp where
  | lock
  | unlock
  deriving DecidableEq

/-- One call: the queue as it stands, what became of the commands and of an aggregate, and what the
call did to `h2c_agg_lock`. -/
structure H2cAggCall extends H2cAggInfo where
  sent : List H2cTx
  recycled : List H2cb
  recycledAgg : Option AggH2cb
  locks : List LockOp

/-- A thread that holds the lock waits for itself. Nobody looks at whether a signal ended that. -/
@[simp] def H2cAggCall.lock (c : H2cAggCall) : Option H2cAggCall :=
  if c.locks.getLast? = some .lock then if env.signal then some c else none
  else some { c with locks := c.locks ++ [.lock] }

def H2cAggCall.unlock (c : H2cAggCall) : H2cAggCall := { c with locks := c.locks ++ [.unlock] }

def macH2cAggFlush (c : H2cAggCall) : Option H2cAggCall := do
  let c ← c.lock env
  some { c with recycled := c.recycled ++ c.queue, queue := [], pktNum := 0 }.unlock

/-- `mac_h2c_agg_tx`. `none` is a call that does not return. -/
def macH2cAggTx (s : H2cAggInfo) : Option (MacStatus × H2cAggCall) := do
  let c ← H2cAggCall.lock env ⟨s, [], [], none, []⟩
  let left := h2cAggTxLoop env c.queue none [] []
  let c := { c with queue := left.queue, sent := left.sent, recycled := left.recycled }
  if left.ret = .success then some (.success, { c with queue := [], pktNum := 0 }.unlock)
  else
    let c ← macH2cAggFlush env c
    some (left.ret, { c with recycledAgg := left.agg }.unlock)

end Rtl8852be

import Mathlib.Algebra.GroupWithZero.Nat
import Mathlib.Data.List.Basic

/-!
# Reassembly of fragments

A fragment with the more-fragments bit waits in a queue of its station. The last fragment of a
packet calls `recvframe_defrag`, which checks the queue and appends the payloads to the first frame.
-/

namespace Rtl8852be

instance neZeroFragNum : NeZero 16 := ⟨Nat.succ_ne_zero 15⟩

instance neZeroSeqNum : NeZero 4096 := ⟨Nat.succ_ne_zero 4095⟩

inductive SecurityType where
  | noPrivacy
  | wep40
  | tkip
  | tkipWtmic
  | aes
  | wep104
  | sms4
  | gcmp
  | ccmp256
  | gcmp256
  | bipCmac128
  | bipGmac128
  | bipGmac256
  | bipCmac256
  deriving DecidableEq

def SecurityType.hasPn (encrypt : SecurityType) : Bool :=
  encrypt = .aes ∨ encrypt = .ccmp256 ∨ encrypt = .gcmp ∨ encrypt = .gcmp256

inductive FrameType where
  | mgmt
  | ctrl
  | data
  | reserved
  deriving DecidableEq

inductive CoreRxState where
  | continue
  | done
  | drop
  | fail
  | defrag
  deriving DecidableEq

/-- `union recv_frame`: identity, request, whether it has an skb, the attributes, the bytes from
`rx_data` to `rx_tail`, and the room up to `rx_end`. A header has at most 36 bytes and an IV at most
18. -/
structure RecvFrame where
  id : ℕ
  rxReq : Option ℕ
  pkt : Bool
  type : FrameType
  mfrag : Bool
  fragNum : Fin 16
  seqNum : Fin 4096
  hdrlen : ℕ
  ivLen : ℕ
  icvLen : ℕ
  encrypt : SecurityType
  keytrack : ℕ
  data : List UInt8
  room : ℕ
  offset_lt : hdrlen + ivLen < 256
  deriving DecidableEq

variable (f : RecvFrame)

namespace RecvFrame

def recvframePull (sz : ℕ) : RecvFrame :=
  if f.data.length < sz then f else { f with data := f.data.drop sz }

def recvframePullTail (sz : ℕ) : RecvFrame :=
  if f.data.length < sz then f
  else { f with data := f.data.take (f.data.length - sz), room := f.room + sz }

/-- `recvframe_put` after the copy of `bytes` to `rx_tail`. What does not fit is not part of the
frame. -/
def recvframePut (bytes : List UInt8) : RecvFrame :=
  if f.room < bytes.length then f
  else { f with data := f.data ++ bytes, room := f.room - bytes.length }

def ccmph2Pn (ch : UInt64) : UInt64 :=
  (ch &&& (0x000000000000ffff : UInt64)) ||| ((ch &&& (0xffffffff00000000 : UInt64)) >>> 16)

def pn : UInt64 :=
  ccmph2Pn (((f.data.drop f.hdrlen).take 8).foldr (fun b ch => ch <<< 8 ||| b.toUInt64) 0)

def nextPn (curPn : UInt64) : UInt64 := if f.encrypt.hasPn then f.pn else curPn

def append (prframe pnextrframe : RecvFrame) : RecvFrame :=
  let pnextrframe := pnextrframe.recvframePull ((pnextrframe.hdrlen + pnextrframe.ivLen) % 256)
  let prframe := prframe.recvframePullTail prframe.icvLen
  let prframe := prframe.recvframePut pnextrframe.data
  { prframe with icvLen := pnextrframe.icvLen }

end RecvFrame

def defragLoop (prframe : RecvFrame) (curPn : UInt64) (curfragnum : ℕ) :
    List RecvFrame → Option RecvFrame
  | [] => some prframe
  | pnextrframe :: defragQ =>
    if pnextrframe.encrypt.hasPn ∧ pnextrframe.pn ≠ curPn + 1 then none
    else if prframe.keytrack ≠ pnextrframe.keytrack then none
    else if curfragnum ≠ pnextrframe.fragNum then none
    else
      defragLoop (prframe.append pnextrframe) (pnextrframe.nextPn curPn) ((curfragnum + 1) % 256)
        defragQ

/-- `recvframe_defrag`, with the frames it frees. It is not called with an empty queue, and always
leaves one. -/
def recvframeDefrag : List RecvFrame → Option RecvFrame × List RecvFrame
  | [] => (none, [])
  | prframe :: defragQ =>
    if prframe.fragNum ≠ 0 then (none, prframe :: defragQ)
    else
      match defragLoop prframe (prframe.nextPn 0) 1 defragQ with
      | none => (none, prframe :: defragQ)
      | some merged => (some merged, defragQ)

/-- The result, the frame `*pprecv_frame` points to, the queue, and the frames freed. -/
structure ChkDefrag where
  ret : CoreRxState
  frame : Option RecvFrame
  defragQ : Option (List RecvFrame)
  freed : List RecvFrame

/-- For the queue of the transmitter, if any. The result for a group addressed fragment is
overwritten in each case. -/
def recvframeChkDefrag (pdefragQ : Option (List RecvFrame)) (keytrack : ℕ)
    (precvFrame : RecvFrame) : ChkDefrag :=
  if precvFrame.mfrag = false ∧ precvFrame.fragNum = 0 then ⟨.continue, precvFrame, pdefragQ, []⟩
  else
    match pdefragQ with
    | none => ⟨.drop, precvFrame, none, []⟩
    | some defragQ =>
      let precvFrame := { precvFrame with keytrack := keytrack }
      if precvFrame.mfrag then
        if precvFrame.fragNum = 0 then ⟨.defrag, precvFrame, some [precvFrame], defragQ⟩
        else ⟨.defrag, precvFrame, some (defragQ ++ [precvFrame]), []⟩
      else
        let res := recvframeDefrag (defragQ ++ [precvFrame])
        ⟨if res.1.isNone then .drop else .continue, res.1, some [], res.2⟩

/-- With the results, whether the frame was linked into the queue, and the frame that
`recvframe_defrag` made. -/
structure ChkDefragRun extends ChkDefrag where
  linked : Bool
  merged : Option RecvFrame

/-- `recvframe_chk_defrag` assignment by assignment; `isMcast` is that of the receiver address. -/
def recvframeChkDefragRun (isMcast : Bool) (pdefragQ : Option (List RecvFrame)) (keytrack : ℕ)
    (precvFrame : RecvFrame) : ChkDefragRun :=
  let isFrag : Bool := precvFrame.mfrag ∨ precvFrame.fragNum ≠ 0
  let ret : CoreRxState := if isFrag ∧ isMcast then .drop else .continue
  let precvFrame :=
    if isFrag ∧ pdefragQ.isSome then { precvFrame with keytrack := keytrack } else precvFrame
  let r : ChkDefragRun := ⟨⟨ret, precvFrame, pdefragQ, []⟩, false, none⟩
  let r : ChkDefragRun :=
    if precvFrame.mfrag then
      match r.defragQ with
      | none => { r with ret := .drop }
      | some defragQ =>
        let (defragQ, freed) := if precvFrame.fragNum = 0 then ([], defragQ) else (defragQ, [])
        { r with ret := .defrag, defragQ := some (defragQ ++ [precvFrame]), freed, linked := true }
    else r
  if precvFrame.mfrag = false ∧ precvFrame.fragNum ≠ 0 then
    match r.defragQ with
    | none => { r with ret := .drop }
    | some defragQ =>
      let res := recvframeDefrag (defragQ ++ [precvFrame])
      { ret := if res.1.isNone then .drop else .continue, frame := res.1, defragQ := some []
        freed := res.2, linked := true, merged := res.1 }
  else r

/-- A frame, the stations of its transmitter and for broadcast, and the key track of the one whose
queue is used. -/
structure RxFragment (σ : Type*) where
  frame : RecvFrame
  psta : Option σ
  bcmcSta : Option σ
  keytrack : ℕ

def RxFragment.sta {σ : Type*} (e : RxFragment σ) : Option σ :=
  match e.psta with
  | some psta => some psta
  | none => if e.frame.type ≠ .data then e.bcmcSta else none

section Run

variable {σ : Type*} [DecidableEq σ]

def chkDefrag (defragQ : σ → List RecvFrame) (e : RxFragment σ) : ChkDefrag :=
  recvframeChkDefrag (e.sta.map defragQ) e.keytrack e.frame

def defragStep (defragQ : σ → List RecvFrame) (e : RxFragment σ) : σ → List RecvFrame :=
  match e.sta, (chkDefrag defragQ e).defragQ with
  | some sta, some q => Function.update defragQ sta q
  | _, _ => defragQ

end Run

end Rtl8852be

import Rtl8852be.Basic
import Rtl8852be.MsgDispatch
import Rtl8852be.Lib.CntQueue

/-!
# The message queues of the dispatcher

A message is in the idle, the waiting or the pending queue, or it has been popped: by
`dispr_send_msg`, in any number of threads, or by the background thread. Each queue has a lock of
its own, and the steps are those between which other threads get in.
-/

namespace Rtl8852be

open Function

/-- An entry of `msg_ex_pool`, which has `MAX_PHL_MSG_NUM` of them. -/
abbrev MsgSlot := Fin 24

def msgEvtMax : ℕ := 0x7fff

def phlMdlIdMax : ℕ := 255

structure MsgTag where
  no : ℕ
  slot : MsgSlot
  ctrl : Bool
  completion : Bool
  deriving DecidableEq

/-- Where the background thread is: in `dispr_thread_loop_hdl` (`loop`, `tokenOp`, `dispatching`),
in `clear_pending_msg` without and with a message (`clearing`, `resuming`), and in
`clear_waiting_msg` at the outer test (`waitHead`) and in the inner loops without and with a message
(`drainPend`, `moving`, `drainWait`, `dropping`). -/
inductive ThreadPc where
  | loop
  | clearing
  | resuming (i : MsgSlot)
  | tokenOp
  | dispatching (i : MsgSlot)
  | waitHead
  | drainPend
  | moving (i : MsgSlot)
  | drainWait
  | dropping (i : MsgSlot)
  | left
  deriving DecidableEq

def ThreadPc.held : ThreadPc → List MsgSlot
  | .resuming i | .dispatching i | .moving i | .dropping i => [i]
  | _ => []

structure DisprStatus where
  started : Bool
  shallStop : Bool
  clrPendMsg : Bool
  waitAbortMsgDone : Bool
  cannotIo : Bool

/-- The part of `struct cmd_dispatcher` for messages, the calls of `dispr_send_msg` that have passed
the checks (`entered`) and those that have a message (`sending`), the calls of `dispr_cancel_msg`,
and the thread. Beside them the message in each slot, and those accepted, taken and completed. -/
structure DisprMsg where
  msgIdleQ : CntQueue MsgSlot
  msgWaitQ : CntQueue MsgSlot
  msgPendQ : CntQueue MsgSlot
  msgExPool : MsgSlot → MsgEx
  status : DisprStatus
  exclusiveMdl : ℕ
  pendingEvt : ℕ → ℕ
  entered : List SendArgs
  sending : List MsgSlot
  args : MsgSlot → SendArgs
  canceling : List MsgSlot
  pc : ThreadPc
  leaving : Bool
  tag : MsgSlot → Option MsgTag
  sent : List MsgTag
  taken : List MsgTag
  completed : List MsgTag

variable (mods : Modules) (a : SendArgs) (i : MsgSlot) (ex : MsgEx) (s : DisprMsg)

@[simp] def DisprMsg.setEx (i : MsgSlot) (ex : MsgEx) : DisprMsg :=
  { s with msgExPool := update s.msgExPool i ex }

@[simp] def DisprMsg.goto (pc : ThreadPc) : DisprMsg := { s with pc := pc }

def popFrontIdleMsg : Option (MsgSlot × DisprMsg) :=
  match s.msgIdleQ.items with
  | [] => none
  | i :: _ =>
    some (i, { s.setEx i clearedMsg with
      msgIdleQ := s.msgIdleQ.dropFirst
      tag := update s.tag i none })

def idleMsg : MsgEx :=
  { clearedMsg with
    premap := ex.premap, postmap := ex.postmap, completion := ex.completion, module := ex.module }

/-- `push_back_idle_msg` calls the completion routine. -/
@[simp] def MsgEx.completes : Bool := ex.notifyComplete && ex.completion

/-- `push_back_idle_msg`. The completion routine may send messages; they are as good as sent
before. -/
def pushBackIdleMsg : DisprMsg :=
  let ex := s.msgExPool i
  { s.setEx i (idleMsg ex) with
    completed := if ex.completes then s.completed ++ (s.tag i).toList else s.completed
    status.waitAbortMsgDone := s.status.waitAbortMsgDone && !ex.forAbort
    pendingEvt :=
      if s.pendingEvt ex.mdlId = ex.evtId then update s.pendingEvt ex.mdlId msgEvtMax
      else s.pendingEvt
    msgIdleQ := s.msgIdleQ.pushTail i }

def popFrontWaitMsg : Option (MsgSlot × DisprMsg) :=
  match s.msgWaitQ.items with
  | [] => none
  | i :: _ =>
    some (i, { s.setEx i (popFrontWait (s.msgExPool i)) with
      msgWaitQ := s.msgWaitQ.dropFirst
      taken := s.taken ++ (s.tag i).toList.filter (· ∉ s.taken) })

def enqMsg : MsgEx := { ex with enq := true, run := false }

@[simp] def pushBackWaitMsg : DisprMsg :=
  { s.setEx i (enqMsg (s.msgExPool i)) with msgWaitQ := s.msgWaitQ.pushTail i }

def MsgEx.isDisprCtrl : Bool := ex.mdlId < 10

def isHigherPriority (input obj : MsgEx) : Bool := input.isDisprCtrl && !obj.isDisprCtrl

def insertMsgByPriority : DisprMsg :=
  { s.setEx i (enqMsg (s.msgExPool i)) with
    msgWaitQ :=
      s.msgWaitQ.insertBefore (fun j => isHigherPriority (s.msgExPool i) (s.msgExPool j)) i }

def popFrontPendingMsg : Option (MsgSlot × DisprMsg) :=
  match s.msgPendQ.items with
  | [] => none
  | i :: _ => some (i, { s with msgPendQ := s.msgPendQ.dropFirst })

def pushBackPendingMsg : DisprMsg :=
  let ex := s.msgExPool i
  { s.setEx i (enqMsg ex) with
    pendingEvt :=
      if ex.clrSndrMsgIfPending then update s.pendingEvt ex.mdlId ex.evtId
      else s.pendingEvt
    msgPendQ := s.msgPendQ.pushTail i }

/-- The body of the loop in `clear_pending_msg`. It asks for `IS_DISPR_CTRL` of
`MSG_EVT_ID_FIELD`. -/
def resumeMsg : DisprMsg :=
  if (s.msgExPool i).evtId < 10 then insertMsgByPriority i s else pushBackWaitMsg i s

/-- `attrErr` says that the attributes have a length without an array. -/
def sendAllowed (attrErr : Bool) (s : DisprMsg) : Bool :=
  s.status.started && !s.status.shallStop && !attrErr &&
    (a.mdlId < 10 || (mods.chkSender a.mdlId).isSome || a.ofCurReq)

def SendArgs.sendInAbort (a : SendArgs) : Bool := a.attr.any MsgAttr.sendInAbort

def SendArgs.completion (a : SendArgs) : Bool := a.attr.any MsgAttr.completion

/-- The request is about to end, and only messages marked for that are taken from it. -/
def refusesReq : Bool := (fillMsg mods a).ownerReq && a.lastPermit && !a.sendInAbort

def acceptMsg : DisprMsg :=
  let t : MsgTag := ⟨s.sent.length, i, ex.isDisprCtrl, ex.completion⟩
  let s := { s.setEx i ex with
    status.waitAbortMsgDone := s.status.waitAbortMsgDone || ex.forAbort
    tag := update s.tag i (some t)
    sent := s.sent ++ [t] }
  if ex.isDisprCtrl then insertMsgByPriority i s else pushBackWaitMsg i s

/-- `dispr_send_msg` when it has got a message: what it returns, whether the completion routine is
called, and the state. -/
def disprSendMsg : PhlStatus × Bool × DisprMsg :=
  let a := s.args i
  let ex : MsgEx := { fillMsg mods a with cancel := (s.msgExPool i).cancel }
  if refusesReq mods a then
    let s := s.setEx i { ex with forAbort := false, prePhase := false, indcFail := true }
    (.failure, (s.msgExPool i).completes, pushBackIdleMsg i s)
  else (.success, false, acceptMsg i ex s)

def getIdxFromHdl (hdl : ℕ) : Option MsgSlot :=
  if h : hdl % 256 < 24 then if hdl.testBit 31 then some ⟨hdl % 256, h⟩ else none else none

def cancelAllowed (hdl : ℕ) (s : DisprMsg) : Option MsgSlot :=
  (getIdxFromHdl hdl).filter fun i =>
    s.status.started && ((s.msgExPool i).enq || (s.msgExPool i).run)

def cancelMsgs (p : MsgEx → Bool) (s : DisprMsg) : DisprMsg :=
  { s with msgExPool := fun i => if p (s.msgExPool i) then cancelMsg (s.msgExPool i)
      else s.msgExPool i }

def isSpecialMsg (ex : MsgEx) : Bool := s.exclusiveMdl = ex.mdlId ∨ ex.evtId ∈ [58, 59, 1, 2]

def isMsgCanceled (ex : MsgEx) : Bool × MsgEx :=
  if s.status.started = false ∨ ex.cancel then (true, ex)
  else if s.pendingEvt ex.mdlId ≠ msgEvtMax ∧ s.pendingEvt ex.mdlId ≠ ex.evtId then
    (true, { ex with cancel := true })
  else if s.status.shallStop then (true, { ex with indcCannotIo := true, cancel := true })
  else if s.status.cannotIo then
    if isSpecialMsg s ex then (false, { ex with indcCannotIo := true })
    else if ex.pendingDuringCannotIo = false then
      (true, { ex with cancel := true, indcCannotIo := true })
    else (false, { ex with pending := true })
  else (false, ex)

structure ThreadIo where
  stop : Bool
  dereg : Option ℕ
  mods : Modules
  hdlr : HdlrIo

def threadDispatch (io : ThreadIo) (i : MsgSlot) (s : DisprMsg) : DisprMsg :=
  let res := isMsgCanceled s (s.msgExPool i)
  if res.1 then pushBackIdleMsg i (s.setEx i res.2)
  else
    let ex := { res.2 with
      premap := io.mods.bitmap &&& res.2.premap
      postmap := io.mods.bitmap &&& res.2.postmap }
    match msgDispatch io.mods io.hdlr ⟨ex, []⟩ with
    | (.recycle, d) => pushBackIdleMsg i (s.setEx i d.ex)
    | (.reschedule, d) =>
      if d.ex.pending then pushBackPendingMsg i (s.setEx i d.ex)
      else pushBackWaitMsg i (s.setEx i d.ex)

def deregMsgs (mdl : ℕ) (s : DisprMsg) : DisprMsg :=
  let s' := { s with
    msgExPool := fun i =>
      if (s.msgExPool i).mdlId = mdl then cancelMsg { s.msgExPool i with ownerReq := false }
      else s.msgExPool i }
  if ∃ i, (s.msgExPool i).mdlId = mdl ∧ (s.msgExPool i).pending then
    { s' with status.clrPendMsg := false }.goto .clearing
  else s'

def threadStep (io : ThreadIo) (s : DisprMsg) : DisprMsg :=
  match s.pc with
  | .loop =>
    if io.stop ∧ s.status.started = false then { s with leaving := true }.goto .tokenOp
    else if s.status.clrPendMsg then { s with status.clrPendMsg := false }.goto .clearing
    else s.goto .tokenOp
  | .clearing =>
    match popFrontPendingMsg s with
    | some (i, s) => s.goto (.resuming i)
    | none => s.goto .tokenOp
  | .resuming i => (resumeMsg i s).goto .clearing
  | .tokenOp =>
    match io.dereg with
    | some mdl => deregMsgs mdl s
    | none =>
      if s.leaving then s.goto .waitHead
      else
        match popFrontWaitMsg s with
        | some (i, s) => s.goto (.dispatching i)
        | none => s.goto .loop
  | .dispatching i => (threadDispatch io i s).goto .loop
  | .waitHead => s.goto (if s.msgIdleQ.cnt ≠ 24 then .drainPend else .left)
  | .drainPend =>
    match popFrontPendingMsg s with
    | some (i, s) => s.goto (.moving i)
    | none => s.goto .drainWait
  | .moving i => (pushBackWaitMsg i s).goto .drainPend
  | .drainWait =>
    match popFrontWaitMsg s with
    | some (i, s) => s.goto (.dropping i)
    | none => s.goto .waitHead
  | .dropping i => (pushBackIdleMsg i s).goto .drainWait
  | .left => s

/-- `dispr_send_msg` passes its checks, takes a message, and pushes it; `dispr_cancel_msg` passes
its checks, and cancels; the dispatcher's state changes; the thread goes on. -/
inductive MsgQueueEvent where
  | sendEnter (mods : Modules) (a : SendArgs) (attrErr : Bool)
  | sendPop (k : ℕ)
  | sendPush (mods : Modules) (i : MsgSlot)
  | cancelEnter (hdl : ℕ)
  | cancel (k : ℕ)
  | clrPendingMsg
  | notifyDevIoStatus (mdlId : ℕ) (allowIo : Bool)
  | notifyShallStop
  | resetPendingEvt (mdlId : ℕ)
  | stopPrior
  | thread (io : ThreadIo)

def sendPop (k : ℕ) (s : DisprMsg) : DisprMsg :=
  match s.entered[k]? with
  | none => s
  | some a =>
    let s := { s with entered := s.entered.eraseIdx k }
    match popFrontIdleMsg s with
    | none => s
    | some (i, s) =>
      { s with sending := s.sending ++ [i], args := update s.args i a }

def msgQueueStep : MsgQueueEvent → DisprMsg
  | .sendEnter mods a attrErr =>
    if sendAllowed mods a attrErr s then { s with entered := s.entered ++ [a] } else s
  | .sendPop k => sendPop k s
  | .sendPush mods i =>
    if i ∈ s.sending then
      (disprSendMsg mods i { s with sending := s.sending.erase i }).2.2
    else s
  | .cancelEnter hdl => { s with canceling := s.canceling ++ (cancelAllowed hdl s).toList }
  | .cancel k =>
    match s.canceling[k]? with
    | none => s
    | some i =>
      { s.setEx i (cancelMsg (s.msgExPool i)) with canceling := s.canceling.eraseIdx k }
  | .clrPendingMsg => { s with status.clrPendMsg := true }
  | .notifyDevIoStatus mdlId allowIo =>
    if allowIo = false ∧ s.status.cannotIo = false then
      { s with status.cannotIo := true, exclusiveMdl := mdlId }
    else if allowIo ∧ s.status.cannotIo then
      { s with
        status := { s.status with cannotIo := false, clrPendMsg := true }
        exclusiveMdl := phlMdlIdMax }
    else s
  | .notifyShallStop =>
    if s.status.shallStop then s
    else { s with status := { s.status with shallStop := true, clrPendMsg := true } }
  | .resetPendingEvt mdlId =>
    { s with pendingEvt := update s.pendingEvt mdlId msgEvtMax }
  | .stopPrior => cancelMsgs MsgEx.run { s with status.started := false }
  | .thread io => threadStep io s

@[simp] def msgQueueInit : DisprMsg where
  msgIdleQ := ⟨List.finRange 24, 24⟩
  msgWaitQ := ⟨[], 0⟩
  msgPendQ := ⟨[], 0⟩
  msgExPool := fun _ => clearedMsg
  status := ⟨true, false, false, false, false⟩
  exclusiveMdl := phlMdlIdMax
  pendingEvt := fun _ => msgEvtMax
  entered := []
  sending := []
  args := fun _ => ⟨0, 0, none, false, false⟩
  canceling := []
  pc := .loop
  leaving := false
  tag := fun _ => none
  sent := []
  taken := []
  completed := []

end Rtl8852be

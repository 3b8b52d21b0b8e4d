import Rtl8852be.TokenReq

/-!
# Scan requests

A scan is a request for the token. Its `acquired` sends the first of the messages that drive it, and
its `abort` sends a last one, whose completion routine ends the scan. Requests are known by their
numbers; those that are no scans have handlers that do nothing here.
-/

namespace Rtl8852be

/-- The handlers of the request, the completion routine of its `abort` message, and `ops`. -/
inductive ScanCall where
  | acquired
  | abort
  | msgHdlr
  | abortNotifyCb
  | scanStart
  | scanIssuePbreq
  | scanChReady
  | scanComplete
  deriving DecidableEq

/-- The messages that do not end the scan, with what the handler finds: whether the channel is
listened to for longer, and whether a next one is probed. -/
inductive ScanMsg where
  | scanStart
  | listenStateExpire (extend : Bool)
  | swchStart (active : Bool)
  | swchDone
  | failed
  | external

def ScanMsg.calls : ScanMsg → List ScanCall
  | .scanStart => [.scanStart]
  | .listenStateExpire extend => if extend then [.scanIssuePbreq] else []
  | .swchStart active => if active then [.scanIssuePbreq] else []
  | .swchDone => [.scanChReady]
  | .failed | .external => []

/-- Whether the scan's time is over, whether messages that are sent are accepted, and what
`acquired` of another request returns. -/
structure ScanEnv where
  timeout : Bool
  startSent : Bool
  abortSent : Bool
  ret : MdlRet

/-- The queues of requests, `CMD_SCAN_ACQUIRE` of the scans, the call of `phl_disp_eng_free_token`
that the thread is in, the messages of `abort` that have not completed, whether the thread has left,
and the calls that were made. -/
structure CmdScan where
  tok : DisprToken
  acquire : ℕ → Bool
  ending : Option TokenCall
  abortMsgs : List ℕ
  left : Bool
  calls : List (ℕ × ScanCall)

def CmdScan.call (s : CmdScan) (k : ℕ) (cs : List ScanCall) : CmdScan :=
  { s with calls := s.calls ++ cs.map (k, ·) }

/-- `_cmd_abort_notify`. If the message is not accepted its completion routine is called at once. -/
def cmdAbortNotify (k : ℕ) (o : ScanEnv) (s : CmdScan) : CmdScan :=
  if s.acquire k then
    if o.abortSent then { s with abortMsgs := s.abortMsgs ++ [k] }
    else s.call k [.abortNotifyCb, .scanComplete]
  else s.call k [.scanComplete]

def phlCmdScanReqAcquired (k : ℕ) (o : ScanEnv) (s : CmdScan) : MdlRet × CmdScan :=
  let s := s.call k [.acquired]
  if o.timeout || !o.startSent then (.fail, cmdAbortNotify k o s)
  else (.success, { s with acquire := Function.update s.acquire k true })

def phlCmdScanReqAbort (k : ℕ) (o : ScanEnv) (s : CmdScan) : CmdScan :=
  cmdAbortNotify k o (s.call k [.abort])

section Steps

variable (isScan : ℕ → Bool)

def reqAcquired (k : ℕ) (o : ScanEnv) (s : CmdScan) : MdlRet × CmdScan :=
  if isScan k then phlCmdScanReqAcquired k o s else (o.ret, s)

def reqAbort (k : ℕ) (o : ScanEnv) (s : CmdScan) : CmdScan :=
  if isScan k then phlCmdScanReqAbort k o s else s

@[simp] def abortedReq (t t' : DisprToken) : Option ReqSlot :=
  match t.pc, t'.pc with
  | .handling _, .aborting _ i | .handling _, .dropping _ i => some i
  | _, _ => none

def scanOpHandler (o : ScanEnv) (s : CmdScan) : CmdScan :=
  match s.tok.pc with
  | .acquiring _ i =>
    let (ret, s) := reqAcquired isScan (s.tok.inst i) o s
    { s with tok := tokenOpHandler ret s.tok }
  | _ =>
    let tok := tokenOpHandler o.ret s.tok
    match abortedReq s.tok tok with
    | some i => reqAbort isScan (s.tok.inst i) o { s with tok := tok }
    | none => { s with tok := tok }

/-- The thread is not in `token_op_hanler` nor in a handler. -/
def CmdScan.idle (s : CmdScan) : Bool := s.tok.pc = .rest && s.ending.isNone

def CmdScan.current (s : CmdScan) : Option ReqSlot :=
  s.tok.curCmdReq.filter fun i =>
    let ex := s.tok.tokenReqExPool i
    ex.run && !ex.cancel && isScan (s.tok.inst i)

def curReqHdl (m : ScanMsg) (s : CmdScan) : CmdScan :=
  match s.current isScan with
  | none => s
  | some i => s.call (s.tok.inst i) (.msgHdlr :: m.calls)

def genValidHdl (i : ReqSlot) : ℕ := 2 ^ 31 + i

/-- `cur_req_hdl` with `MSG_EVT_SCAN_END`, up to the checks of `dispr_free_token`.
`dispr_add_token_req` may not have stored the handle yet. -/
def scanEndHdl (stored : Bool) (s : CmdScan) : CmdScan :=
  match s.current isScan with
  | none => s
  | some i =>
    let hdl := if stored then genValidHdl i else 0
    { s.call (s.tok.inst i) [.msgHdlr] with
      ending := (freeTokenAllowed hdl s.tok).map (⟨·, false, s.tok.inst i⟩) }

end Steps

def scanEndFree (s : CmdScan) : CmdScan :=
  match s.ending with
  | none => s
  | some c =>
    let s' := { s with tok := issueReqOp c s.tok, ending := none }
    if (s.tok.info (.freeReq c.slot)).used then s' else s'.call c.inst [.scanComplete]

/-- A message of `abort` completes: it was dispatched, canceled, or cleared when the thread left. -/
def abortMsgDone (k : ℕ) (s : CmdScan) : CmdScan :=
  if k ∈ s.abortMsgs then
    { s with abortMsgs := s.abortMsgs.erase k }.call k [.abortNotifyCb, .scanComplete]
  else s

section Leave

variable (isScan : ℕ → Bool)

def leaveCurReq (o : ScanEnv) (s : CmdScan) : CmdScan :=
  let s := { s with left := true }
  match s.tok.curCmdReq with
  | none => s
  | some i =>
    reqAbort isScan (s.tok.inst i) o { s with tok := retireCurReq i (s.tok.tell i .aborted) }

def clearWatingReq (o : ScanEnv) (s : CmdScan) : CmdScan :=
  match popFrontWaitReq s.tok with
  | none => s
  | some (i, tok) =>
    reqAbort isScan (s.tok.inst i) o { s with tok := pushBackIdleReq i (tok.tell i .aborted) }

end Leave

def cancelCmdReq (i : ReqSlot) (t : DisprToken) : DisprToken :=
  let ex := t.tokenReqExPool i
  if ex.enq || ex.run || ex.cancel || ex.lastPermit || ex.prepare then
    t.setReq i { ex with cancel := true }
  else t

/-- Another thread makes a step on the queues of requests or cancels a request, or the thread goes
on, dispatches a message to the current scan, completes the message of an `abort`, or leaves. -/
inductive ScanEvent where
  | token (e : TokenEvent)
  | cancelAll (i : ReqSlot)
  | thread (o : ScanEnv)
  | msg (m : ScanMsg)
  | scanEnd (stored : Bool)
  | freeToken
  | abortMsgDone (k : ℕ)
  | leave (o : ScanEnv)
  | leaveReq (o : ScanEnv)

section Steps

variable (isScan : ℕ → Bool)

/-- Steps of other threads. Only its own handler frees the token of a scan. -/
def TokenEvent.outside : TokenEvent → Bool
  | .thread _ => false
  | .freeEnter _ inst => !isScan inst
  | _ => true

def scanStep (s : CmdScan) : ScanEvent → CmdScan
  | .token e => if e.outside isScan then { s with tok := tokenStep s.tok e } else s
  | .cancelAll i => { s with tok := cancelCmdReq i s.tok }
  | .thread o => if s.left || s.ending.isSome then s else scanOpHandler isScan o s
  | .msg m => if s.idle && !s.left then curReqHdl isScan m s else s
  | .scanEnd stored => if s.idle && !s.left then scanEndHdl isScan stored s else s
  | .freeToken => scanEndFree s
  | .abortMsgDone k => if s.idle then abortMsgDone k s else s
  | .leave o => if s.idle && !s.left then leaveCurReq isScan o s else s
  | .leaveReq o => if s.left then clearWatingReq isScan o s else s

end Steps

def scanInit : CmdScan where
  tok := tokenInit
  acquire := fun _ => false
  ending := none
  abortMsgs := []
  left := false
  calls := []

end Rtl8852be

import Rtl8852be.MsgQueue

/-!
# Requests for the foreground token

A request waits until the background thread makes it the current one and calls its `acquired`. Other
threads tell it what to do through `token_op_q`, whose nodes are parts of the request slots. The
handlers of a request stand between two steps, so that they can do what any thread can.
-/

namespace Rtl8852be

abbrev ReqSlot := Fin 8

instance neZeroReqSlot : NeZero 8 := ⟨Nat.succ_ne_zero 7⟩

inductive TokenOpType where
  | addCmdReq
  | freeCmdReq
  | cancelCmdReq
  | renewCmdReq
  deriving DecidableEq

/-- `struct phl_token_op_info`. When it is cleared it has no type. -/
structure TokenOpInfo where
  used : Bool
  type : Option TokenOpType
  data : ℕ

def clearedOp : TokenOpInfo := ⟨false, none, 0⟩

/-- What can be linked in `token_op_q`: the `add_req_info` and the `free_req_info` of a slot, and
`renew_req_info`. -/
inductive OpNode where
  | addReq (i : ReqSlot)
  | freeReq (i : ReqSlot)
  | renewReq
  deriving DecidableEq

def OpNode.slot : OpNode → Option ReqSlot
  | .addReq i | .freeReq i => some i
  | .renewReq => none

/-- `struct phl_cmd_token_req_ex`, with the flags of `status`. -/
structure TokenReqEx where
  enq : Bool
  run : Bool
  cancel : Bool
  lastPermit : Bool
  prepare : Bool
  addReqInfo : TokenOpInfo
  freeReqInfo : TokenOpInfo

def clearedReq : TokenReqEx := ⟨false, false, false, false, false, clearedOp, clearedOp⟩

/-- Where the background thread is: outside (`rest`), in `_handle_token_op_info` and after it
(`handled`), in `dispr_process_token_req`, with a waiting request (`prepared`), in `acquired`, in
`abort` of the current request and of a waiting one (`dropping`). -/
inductive TokenPc where
  | rest
  | handling (n : OpNode)
  | process (n : OpNode)
  | prepared (n : OpNode) (i : ReqSlot)
  | acquiring (n : OpNode) (i : ReqSlot)
  | aborting (n : OpNode) (i : ReqSlot)
  | dropping (n : OpNode) (i : ReqSlot)
  | handled (n : OpNode)
  deriving DecidableEq

def TokenPc.held : TokenPc → List ReqSlot
  | .prepared _ i | .dropping _ i => [i]
  | _ => []

structure TokenCall where
  slot : ReqSlot
  cancel : Bool
  inst : ℕ

def TokenCall.type (c : TokenCall) : TokenOpType := if c.cancel then .cancelCmdReq else .freeCmdReq

/-- How a request is brought to its end: by a call of its `abort`, or by `deregister_cur_cmd_req`
without one. -/
inductive TokenEnd where
  | aborted
  | freed
  deriving DecidableEq

/-- The part of `struct cmd_dispatcher` for requests. A call of `dispr_add_token_req` has passed the
checks (`entered`), taken a slot (`adding`), pushed it (`pushed`), and set its flag (`marked`).
Beside them how many requests were accepted, which one is in each slot, which one `free_req_info`
was last used for, and the ends of requests. -/
structure DisprToken where
  tokenReqIdleQ : CntQueue ReqSlot
  tokenReqWaitQ : CntQueue ReqSlot
  tokenOpQ : List OpNode
  tokenReqExPool : ReqSlot → TokenReqEx
  renewReqInfo : TokenOpInfo
  tokenCnt : ℕ
  curCmdReq : Option ReqSlot
  status : DisprStatus
  entered : ℕ
  adding : List ReqSlot
  pushed : List ReqSlot
  marked : List ReqSlot
  calls : List TokenCall
  pc : TokenPc
  accepted : ℕ
  inst : ReqSlot → ℕ
  issued : ReqSlot → ℕ
  ended : List (ℕ × TokenEnd)

variable (n : OpNode) (i : ReqSlot) (s : DisprToken)

@[simp] def DisprToken.setReq (i : ReqSlot) (ex : TokenReqEx) : DisprToken :=
  { s with tokenReqExPool := Function.update s.tokenReqExPool i ex }

@[simp] def DisprToken.goto (pc : TokenPc) : DisprToken := { s with pc := pc }

def DisprToken.info : OpNode → TokenOpInfo
  | .addReq i => (s.tokenReqExPool i).addReqInfo
  | .freeReq i => (s.tokenReqExPool i).freeReqInfo
  | .renewReq => s.renewReqInfo

def DisprToken.setInfo (info : TokenOpInfo) : OpNode → DisprToken
  | .addReq i => s.setReq i { s.tokenReqExPool i with addReqInfo := info }
  | .freeReq i => s.setReq i { s.tokenReqExPool i with freeReqInfo := info }
  | .renewReq => { s with renewReqInfo := info }

def DisprToken.tell (i : ReqSlot) (e : TokenEnd) : DisprToken :=
  { s with ended := s.ended ++ [(s.inst i, e)] }

/-- `pop_front_idle_req`, which clears the slot. Its nodes would be cleared even if they were
linked. -/
def popFrontIdleReq : Option (ReqSlot × DisprToken) :=
  match s.tokenReqIdleQ.items with
  | [] => none
  | i :: _ =>
    some (i, { s.setReq i clearedReq with tokenReqIdleQ := s.tokenReqIdleQ.dropFirst })

/-- What is left of a request when `push_back_idle_req` has reset `status`. -/
def idleReq (ex : TokenReqEx) : TokenReqEx :=
  { clearedReq with addReqInfo := ex.addReqInfo, freeReqInfo := ex.freeReqInfo }

@[simp] def pushBackIdleReq : DisprToken :=
  { s.setReq i (idleReq (s.tokenReqExPool i)) with
    tokenReqIdleQ := s.tokenReqIdleQ.pushTail i }

def popFrontWaitReq : Option (ReqSlot × DisprToken) :=
  match s.tokenReqWaitQ.items with
  | [] => none
  | i :: _ =>
    some (i, { s.setReq i { s.tokenReqExPool i with prepare := true, enq := false } with
      tokenReqWaitQ := s.tokenReqWaitQ.dropFirst })

def pushBackTokenOpInfo (type : TokenOpType) (data : ℕ) (s : DisprToken) : DisprToken :=
  if (s.info n).used then s
  else { s.setInfo ⟨true, some type, data⟩ n with tokenOpQ := s.tokenOpQ ++ [n] }

def acceptReq : DisprToken :=
  { s with
    adding := s.adding.erase i
    tokenReqWaitQ := s.tokenReqWaitQ.pushTail i
    pushed := s.pushed ++ [i]
    accepted := s.accepted + 1
    inst := Function.update s.inst i s.accepted }

def markReq : DisprToken :=
  { s.setReq i { s.tokenReqExPool i with enq := true } with
    pushed := s.pushed.erase i
    marked := s.marked ++ [i] }

def reqSlot (data : ℕ) : Option ReqSlot := if h : data < 8 then some ⟨data, h⟩ else none

def reqOfHdl (hdl : ℕ) : Option ReqSlot := if hdl.testBit 31 then reqSlot (hdl % 256) else none

def cancelReqAllowed (hdl : ℕ) (s : DisprToken) : Option ReqSlot :=
  (reqOfHdl hdl).filter fun i =>
    let ex := s.tokenReqExPool i
    s.status.started && (ex.enq || ex.run || ex.prepare)

def freeTokenAllowed (hdl : ℕ) (s : DisprToken) : Option ReqSlot :=
  (reqOfHdl hdl).filter fun i =>
    let ex := s.tokenReqExPool i
    s.status.started && s.curCmdReq.isSome && s.tokenCnt != 0 && (ex.run || ex.prepare)

def issueReqOp (c : TokenCall) (s : DisprToken) : DisprToken :=
  let s := s.setReq c.slot { s.tokenReqExPool c.slot with cancel := true }
  if (s.info (.freeReq c.slot)).used then s
  else
    { pushBackTokenOpInfo (.freeReq c.slot) c.type c.slot s with
      issued := Function.update s.issued c.slot c.inst }

def retireCurReq : DisprToken :=
  { pushBackIdleReq i s with tokenCnt := s.tokenCnt - 1, curCmdReq := none }

def deregisterCurCmdReq : DisprToken :=
  match s.curCmdReq with
  | none => s
  | some i => retireCurReq i (s.tell i .freed)

def abortCurReq : DisprToken :=
  match s.curCmdReq with
  | none => s.goto (.process n)
  | some i =>
    ((s.setReq i { s.tokenReqExPool i with run := false, lastPermit := true }).tell i
      .aborted).goto (.aborting n i)

def registerCurCmdReq : DisprToken :=
  { s.setReq i { s.tokenReqExPool i with run := true, prepare := false } with
    curCmdReq := some i
    tokenCnt := s.tokenCnt + 1 }

def abortWaitReq : DisprToken :=
  ({ s with tokenReqWaitQ := s.tokenReqWaitQ.erase i }.tell i .aborted).goto (.dropping n i)

def handleTokenOpInfo : DisprToken :=
  match (s.info n).type, reqSlot (s.info n).data with
  | some .renewCmdReq, _ | some .addCmdReq, _ => s.goto (.process n)
  | some .freeCmdReq, some i =>
    if (s.tokenReqExPool i).run then (deregisterCurCmdReq s).goto (.process n)
    else s.goto (.handled n)
  | some .cancelCmdReq, some i =>
    if (s.tokenReqExPool i).enq then abortWaitReq n i s
    else if (s.tokenReqExPool i).run then abortCurReq n s
    else s.goto (.handled n)
  | _, _ => s.goto (.handled n)

def processTokenReq : DisprToken :=
  if s.status.started = false ∨ s.status.shallStop ∨ 0 < s.tokenCnt ∨ s.status.waitAbortMsgDone then
    s.goto (.handled n)
  else
    match popFrontWaitReq s with
    | none => s.goto (.handled n)
    | some (i, s) => s.goto (.prepared n i)

/-- `token_op_hanler`. The answer of `acquired` matters only where it is called. -/
def tokenOpHandler (ret : MdlRet) (s : DisprToken) : DisprToken :=
  match s.pc with
  | .rest =>
    match s.tokenOpQ with
    | [] => s
    | n :: ns => { s with tokenOpQ := ns }.goto (.handling n)
  | .handling n => handleTokenOpInfo n s
  | .process n => processTokenReq n s
  | .prepared n i => (registerCurCmdReq i s).goto (.acquiring n i)
  | .acquiring n _ =>
    if ret = .fail then (deregisterCurCmdReq s).goto (.process n) else s.goto (.handled n)
  | .aborting n i => (retireCurReq i s).goto (.process n)
  | .dropping n i => (pushBackIdleReq i s).goto (.handled n)
  | .handled n => (s.setInfo { s.info n with used := false } n).goto .rest

/-- `dispr_add_token_req` passes its checks, takes a slot, pushes it, sets its flag, and enqueues
its operation; `dispr_cancel_token_req` and `dispr_free_token` pass their checks and enqueue theirs;
`on_abort_msg_complete` enqueues its one; the state changes; the thread goes on. -/
inductive TokenEvent where
  | addEnter
  | addPop
  | addPush (i : ReqSlot)
  | addMark (i : ReqSlot)
  | addOp (i : ReqSlot)
  | cancelEnter (hdl : ℕ) (inst : ℕ)
  | freeEnter (hdl : ℕ) (inst : ℕ)
  | issueOp (k : ℕ)
  | renewOp
  | setStatus (status : DisprStatus)
  | thread (ret : MdlRet)

def addPop : DisprToken :=
  if s.entered = 0 then s
  else
    let s := { s with entered := s.entered - 1 }
    match popFrontIdleReq s with
    | none => s
    | some (i, s) => { s with adding := s.adding ++ [i] }

def issueOp (k : ℕ) (s : DisprToken) : DisprToken :=
  match s.calls[k]? with
  | none => s
  | some c => issueReqOp c { s with calls := s.calls.eraseIdx k }

def tokenStep : TokenEvent → DisprToken
  | .addEnter =>
    if s.status.started ∧ s.status.shallStop = false then { s with entered := s.entered + 1 } else s
  | .addPop => addPop s
  | .addPush i => if i ∈ s.adding then acceptReq i s else s
  | .addMark i => if i ∈ s.pushed then markReq i s else s
  | .addOp i =>
    if i ∈ s.marked then
      pushBackTokenOpInfo (.addReq i) .addCmdReq i { s with marked := s.marked.erase i }
    else s
  | .cancelEnter hdl inst =>
    { s with calls := s.calls ++ ((cancelReqAllowed hdl s).map (⟨·, true, inst⟩)).toList }
  | .freeEnter hdl inst =>
    { s with calls := s.calls ++ ((freeTokenAllowed hdl s).map (⟨·, false, inst⟩)).toList }
  | .issueOp k => issueOp k s
  | .renewOp => pushBackTokenOpInfo .renewReq .renewCmdReq 0xff s
  | .setStatus status => { s with status := status }
  | .thread ret => tokenOpHandler ret s

def tokenInit : DisprToken where
  tokenReqIdleQ := ⟨List.finRange 8, 8⟩
  tokenReqWaitQ := ⟨[], 0⟩
  tokenOpQ := []
  tokenReqExPool := fun _ => clearedReq
  renewReqInfo := clearedOp
  tokenCnt := 0
  curCmdReq := none
  status := ⟨true, false, false, false, false⟩
  entered := 0
  adding := []
  pushed := []
  marked := []
  calls := []
  pc := .rest
  accepted := 0
  inst := fun _ => 0
  issued := fun _ => 0
  ended := []

end Rtl8852be

import Rtl8852be.Lib.Run
import Mathlib.Tactic.Common

/-!
# Pausing and resuming the datapath

Each direction has a software state, which the controller and the direction's callback both write,
and the set of modules that have paused it. An operation of the controller is a sequence of
accesses, and the callbacks run between any two of them.
-/

namespace Rtl8852be

inductive TrxDir where
  | tx
  | rx
  deriving DecidableEq

inductive TrxSts where
  | idle
  | running
  | stopInprogress
  | swPause
  deriving DecidableEq

inductive DataCtrlMdl where
  | cmdCtrler
  | ser
  | ps
  deriving DecidableEq

inductive PhlModuleId where
  | phyMgnt
  | ser
  | powerMgnt
  | other (id : ℕ)

/-- None stands for `DATA_CTRL_MDL_NONE`, which has no bit. -/
def phlGetCtrlMdl : PhlModuleId → Option DataCtrlMdl
  | .phyMgnt => some .cmdCtrler
  | .ser => some .ser
  | .powerMgnt => some .ps
  | .other _ => none

abbrev PauseId := DataCtrlMdl → Bool

variable (id : PauseId)

def PauseId.setFlag : Option DataCtrlMdl → PauseId
  | none => id
  | some m => Function.update id m true

@[simp] def PauseId.clearFlag : Option DataCtrlMdl → PauseId
  | none => id
  | some m => Function.update id m false

/-- `TEST_STATUS_FLAG`, which holds of no bits at all. -/
def PauseId.testFlag : Option DataCtrlMdl → Bool
  | none => true
  | some m => id m

def PauseId.isNone : Bool := !id .cmdCtrler && !id .ser && !id .ps

inductive DataCtlStatus where
  | success
  | failure
  | cmdTimeout
  deriving DecidableEq

inductive DataCtrlErrCode where
  | swPausePollto (d : TrxDir)
  | swPauseFail (d : TrxDir)
  | swResumeFail (d : TrxDir)
  | hwTrxPauseFail
  | hwTrxResumeFail
  deriving DecidableEq

inductive DataCtlCmd where
  | hwTrxRstResume
  | hwTrxPause
  | swTxResume
  | swRxResume
  | swTxPause
  | swRxPause
  | swTxReset
  | swRxReset
  | trxSwPause
  | trxSwResume
  | trxPauseWRst
  | trxResumeWRst
  | unknown
  deriving DecidableEq

inductive DataOp where
  | swPause (d : TrxDir)
  | swResume (d : TrxDir)
  | swRst (d : TrxDir)
  | hwTrxPause
  | hwTrxRstResume

def DataCtlCmd.ops : DataCtlCmd → List DataOp
  | .hwTrxRstResume => [.hwTrxRstResume]
  | .hwTrxPause => [.hwTrxPause]
  | .swTxResume => [.swResume .tx]
  | .swRxResume => [.swResume .rx]
  | .swTxPause => [.swPause .tx]
  | .swRxPause => [.swPause .rx]
  | .swTxReset => [.swRst .tx]
  | .swRxReset => [.swRst .rx]
  | .trxSwPause => [.swPause .tx, .swPause .rx]
  | .trxSwResume => [.swResume .tx, .swResume .rx]
  | .trxPauseWRst => [.swPause .tx, .hwTrxPause, .swPause .rx, .swRst .tx, .swRst .rx]
  | .trxResumeWRst => [.swResume .rx, .hwTrxRstResume, .swResume .tx]
  | .unknown => []

/-- The two commands with a reset report the error in the message, if it has room for it. -/
def DataCtlCmd.reports : DataCtlCmd → Bool
  | .trxPauseWRst | .trxResumeWRst => true
  | _ => false

/-- Where the controller is in an operation: its next access. -/
inductive DataPc where
  | idle
  | chkPause (d : TrxDir)
  | chkStop (d : TrxDir)
  | reqStop (d : TrxDir)
  | notifyStop (d : TrxDir)
  | poll (d : TrxDir) (left : ℕ)
  | setFlag (d : TrxDir) (sts : DataCtlStatus)
  | testFlag (d : TrxDir)
  | clearFlag (d : TrxDir)
  | chkNone (d : TrxDir)
  | resume (d : TrxDir)
  | notifyResume (d : TrxDir)
  | rst (d : TrxDir)
  | hwTrxPause
  | hwTrxRstResume
  deriving DecidableEq

def DataOp.pc : DataOp → DataPc
  | .swPause d => .chkPause d
  | .swResume d => .testFlag d
  | .swRst d => .rst d
  | .hwTrxPause => .hwTrxPause
  | .hwTrxRstResume => .hwTrxRstResume

/-- The software state, the modules that pause the direction, how many runs of its callback have
begun, and how many of them will set the pause. -/
structure TrxPath where
  sts : TrxSts
  pauseId : PauseId
  entered : ℕ
  stopping : ℕ

/-- The command `cmd` is that of the module `id`; `todo` are the operations that follow. -/
structure DataCtrl where
  path : TrxDir → TrxPath
  isHwTrxPause : Bool
  cmd : DataCtlCmd
  id : PhlModuleId
  pc : DataPc
  todo : List DataOp
  sts : DataCtlStatus
  report : Bool
  errSts : Option DataCtrlErrCode

variable (d : TrxDir) (s : DataCtrl)

def DataCtrl.setPath (d : TrxDir) (p : TrxPath) : DataCtrl :=
  { s with path := Function.update s.path d p }

def DataCtrl.setSts (d : TrxDir) (sts : TrxSts) : DataCtrl :=
  s.setPath d { s.path d with sts := sts }

def DataCtrl.setPauseId (d : TrxDir) (id : PauseId) : DataCtrl :=
  s.setPath d { s.path d with pauseId := id }

def DataCtrl.setHwTrxPause (pause : Bool) : DataCtrl := { s with isHwTrxPause := pause }

@[simp] def DataCtrl.goto (pc : DataPc) : DataCtrl := { s with pc := pc }

def DataCtrl.next : DataCtrl :=
  match s.todo with
  | [] => { s with sts := .success, pc := .idle }
  | op :: ops => { s with sts := .success, pc := op.pc, todo := ops }

def DataCtrl.stop (sts : DataCtlStatus) (err : DataCtrlErrCode) : DataCtrl :=
  { s with
    sts := sts, pc := .idle, todo := []
    errSts := if s.report then some err else s.errSts }

def phlDataCtrler (cmd : DataCtlCmd) (id : PhlModuleId) (outbuf : Bool) (s : DataCtrl) :
    DataCtrl :=
  if s.pc = .idle then
    let s := { s with
      cmd := cmd, id := id, sts := .failure, report := cmd.reports && outbuf, errSts := none }
    match cmd.ops with
    | [] => { s with todo := [] }
    | op :: ops => { s with pc := op.pc, todo := ops }
  else s

def pollSwPauseCnt : ℕ := 100

structure DataIo where
  ok : Bool
  rxIdle : Bool

/-- `phl_is_tx_sw_pause_pcie`, and `phl_is_rx_sw_pause_pcie`, which also wants the receiver idle. -/
def isTrxPause (io : DataIo) (s : DataCtrl) : TrxDir → Bool
  | .tx => (s.path .tx).sts == .swPause
  | .rx => (s.path .rx).sts == .swPause && io.rxIdle

/-- The controller's next access: `chkPause` to `setFlag` are `_phl_sw_tx_pause` and
`_phl_sw_rx_pause`, the others `_phl_sw_tx_resume` and `_phl_sw_rx_resume`. -/
def dataCtrlTick (io : DataIo) (s : DataCtrl) : DataCtrl :=
  match s.pc with
  | .idle => s
  | .chkPause d =>
    if (s.path d).sts = .swPause then s.goto (.setFlag d .success) else s.goto (.chkStop d)
  | .chkStop d =>
    if (s.path d).sts = .stopInprogress then s.goto (.setFlag d .success) else s.goto (.reqStop d)
  | .reqStop d => (s.setSts d .stopInprogress).goto (.notifyStop d)
  | .notifyStop d =>
    if io.ok then s.goto (.poll d pollSwPauseCnt) else s.stop .failure (.swPauseFail d)
  | .poll d 0 => s.goto (.setFlag d .cmdTimeout)
  | .poll d (left + 1) =>
    if isTrxPause io s d then s.goto (.setFlag d .success) else s.goto (.poll d left)
  | .setFlag d sts =>
    let s' := s.setPauseId d ((s.path d).pauseId.setFlag (phlGetCtrlMdl s.id))
    if sts = .success then s'.next else s'.stop sts (.swPausePollto d)
  | .testFlag d =>
    if (s.path d).pauseId.testFlag (phlGetCtrlMdl s.id) then s.goto (.clearFlag d)
    else s.stop .failure (.swResumeFail d)
  | .clearFlag d =>
    (s.setPauseId d ((s.path d).pauseId.clearFlag (phlGetCtrlMdl s.id))).goto (.chkNone d)
  | .chkNone d => if (s.path d).pauseId.isNone then s.goto (.resume d) else s.next
  | .resume d => (s.setSts d .running).goto (.notifyResume d)
  | .notifyResume d => if io.ok then s.next else s.stop .failure (.swResumeFail d)
  | .rst _ => s.next
  | .hwTrxPause =>
    if io.ok then (s.setHwTrxPause true).next else s.stop .failure .hwTrxPauseFail
  | .hwTrxRstResume =>
    if io.ok then (s.setHwTrxPause false).next else s.stop .failure .hwTrxResumeFail

/-- `_phl_tx_callback_pcie` and `_phl_rx_callback_pcie` begin, and return at once if the direction
is paused. -/
def callbackEnter : DataCtrl :=
  if (s.path d).sts = .swPause then s
  else s.setPath d { s.path d with entered := (s.path d).entered + 1 }

def callbackChkStop : DataCtrl :=
  let p := s.path d
  if p.entered = 0 then s
  else if p.sts = .stopInprogress then
    s.setPath d { p with entered := p.entered - 1, stopping := p.stopping + 1 }
  else s.setPath d { p with entered := p.entered - 1 }

def callbackStop : DataCtrl :=
  let p := s.path d
  if p.stopping = 0 then s
  else s.setPath d { p with sts := .swPause, stopping := p.stopping - 1 }

inductive CallbackAccess where
  | enter
  | chkStop
  | stop

def callbackTick : CallbackAccess → DataCtrl
  | .enter => callbackEnter d s
  | .chkStop => callbackChkStop d s
  | .stop => callbackStop d s

inductive DataEvent where
  | cmd (cmd : DataCtlCmd) (id : PhlModuleId) (outbuf : Bool)
  | tick (io : DataIo)
  | callback (d : TrxDir) (access : CallbackAccess)

def dataCtrlStep : DataEvent → DataCtrl
  | .cmd cmd id outbuf => phlDataCtrler cmd id outbuf s
  | .tick io => dataCtrlTick io s
  | .callback d access => callbackTick d s access

@[simp] def dataCtrlInit (sts : TrxDir → TrxSts) : DataCtrl where
  path := fun d => ⟨sts d, fun _ => false, 0, 0⟩
  isHwTrxPause := false
  cmd := .unknown
  id := .phyMgnt
  pc := .idle
  todo := []
  sts := .success
  report := false
  errSts := none

def dataCtrlRun (sts : TrxDir → TrxSts) (es : List DataEvent) : DataCtrl :=
  Run.run dataCtrlStep (dataCtrlInit sts) es

end Rtl8852be

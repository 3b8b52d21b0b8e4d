import Mathlib.Data.BitVec

/-!
# Dispatch of a message

A message is delivered to the modules in its bitmap, in the pre phase by descending priority, in the
post phase the other way round. A module that accepts gets its bit cleared; one that answers
`MDL_RET_PENDING` makes the message wait.
-/

namespace Rtl8852be

/-- `enum phl_module_id`, as far as it has a bit in a bitmap. -/
abbrev ModuleId := Fin 128

instance neZeroModuleId : NeZero 128 := ⟨Nat.succ_ne_zero 127⟩

abbrev ModlMask := BitVec 128

def ModlMask.chkBit (map : ModlMask) (id : ModuleId) : Bool := map.getLsbD id

def ModlMask.addBit (map : ModlMask) (id : ModuleId) : ModlMask := map ||| BitVec.twoPow 128 id

def ModlMask.clrBit (map : ModlMask) (id : ModuleId) : ModlMask := map &&& ~~~ BitVec.twoPow 128 id

inductive MdlPriority where
  | role
  | optional
  | mandatory
  deriving DecidableEq

def getMdlPriority (id : ModuleId) : Option MdlPriority :=
  if id < 10 then none
  else if id ≤ 40 then some .role
  else if id ≤ 70 then some .mandatory
  else some .optional

inductive MdlRet where
  | success
  | fail
  | ignore
  | pending
  | cannotIo
  deriving DecidableEq

def MdlRet.stopDispatchMsg (ret : MdlRet) : Bool := ret ≠ .success ∧ ret ≠ .ignore

structure BkModule where
  id : ModuleId
  started : Bool
  deriving DecidableEq

/-- The controller if there is one, the module queues, and the bitmaps. -/
structure Modules where
  controller : Option ModuleId
  moduleQ : MdlPriority → List BkModule
  bitmap : ModlMask
  basemap : ModlMask
  controller_lt : ∀ id ∈ controller, id < 10
  priority_eq : ∀ p, ∀ mdl ∈ moduleQ p, getMdlPriority mdl.id = some p
  nodup : ∀ p, ((moduleQ p).map BkModule.id).Nodup

lemma first_controller_lt : ∀ id ∈ (some 1 : Option ModuleId), id < 10 := by
  simp

structure MsgEx where
  enq : Bool
  run : Bool
  notifyComplete : Bool
  cancel : Bool
  prePhase : Bool
  fail : Bool
  ownerBkMdl : Bool
  ownerReq : Bool
  clrSndrMsgIfPending : Bool
  pending : Bool
  forAbort : Bool
  pendingDuringCannotIo : Bool
  mdlId : ℕ
  evtId : ℕ
  indcPrePhase : Bool
  indcFail : Bool
  indcCancel : Bool
  indcCannotIo : Bool
  premap : ModlMask
  postmap : ModlMask
  completion : Bool
  module : Option ModuleId
  deriving DecidableEq

structure MsgAttr where
  skipNotifyOptMdl : Bool
  blistPresent : Bool
  clrSndrMsgIfPending : Bool
  pendingDuringCannotIo : Bool
  sendInAbort : Bool
  idArr : List ModuleId
  completion : Bool

/-- Module and event, the attributes, whether the module of the current request sends the message,
and whether that request is about to end. -/
structure SendArgs where
  mdlId : ℕ
  evtId : ℕ
  attr : Option MsgAttr
  ofCurReq : Bool
  lastPermit : Bool

variable (mods : Modules)

/-- The bit of the sender in the bitmap of the dispatcher. A foreground module has none. -/
def Modules.chkSender (mdlId : ℕ) : Option ModuleId :=
  if h : mdlId < 128 then
    if mods.bitmap.chkBit ⟨mdlId, h⟩ then some ⟨mdlId, h⟩ else none
  else none

def setMsgBitmap (mdlId : ℕ) (ex : MsgEx) : MsgEx :=
  let map :=
    match mods.chkSender mdlId with
    | some id => mods.bitmap.addBit id
    | none => mods.bitmap
  { ex with premap := map, postmap := map }

def setMsgCustomBitmap (attr : MsgAttr) (mdlId : ℕ) (ex : MsgEx) : MsgEx :=
  let custom (map : ModlMask) : ModlMask :=
    let map := if attr.skipNotifyOptMdl then mods.basemap else map
    let map := attr.idArr.foldl (if attr.blistPresent then .clrBit else .addBit) map
    match mods.chkSender mdlId with
    | some id => map.addBit id
    | none => map
  { ex with premap := custom ex.premap, postmap := custom ex.postmap }

def getModuleById (mdlId : ℕ) : Option ModuleId :=
  if mdlId < 10 then mods.controller
  else
    (mods.chkSender mdlId).filter fun id =>
      (mods.moduleQ .role ++ mods.moduleQ .optional ++ mods.moduleQ .mandatory).any (·.id = id)

def clearedMsg : MsgEx :=
  { enq := false, run := false, notifyComplete := false, cancel := false, prePhase := false
    fail := false, ownerBkMdl := false, ownerReq := false, clrSndrMsgIfPending := false
    pending := false, forAbort := false, pendingDuringCannotIo := false, mdlId := 0, evtId := 0
    indcPrePhase := false, indcFail := false, indcCancel := false, indcCannotIo := false
    premap := 0, postmap := 0, completion := false, module := none }

variable (a : SendArgs) (ex : MsgEx)

def setMsgAttr : MsgEx :=
  match a.attr with
  | none => ex
  | some attr =>
    { setMsgCustomBitmap mods attr a.mdlId ex with
      notifyComplete := attr.completion
      completion := attr.completion
      clrSndrMsgIfPending := attr.clrSndrMsgIfPending
      pendingDuringCannotIo := attr.pendingDuringCannotIo }

def fillMsg : MsgEx :=
  let ex := setMsgAttr mods a
    (setMsgBitmap mods a.mdlId { clearedMsg with mdlId := a.mdlId, evtId := a.evtId })
  let owner := getModuleById mods a.mdlId
  { ex with
    module := owner
    ownerBkMdl := owner.isSome
    ownerReq := owner.isNone && a.ofCurReq
    forAbort := owner.isNone && a.ofCurReq && a.lastPermit
    prePhase := true }

def getMsgBitmap : MsgEx := { ex with indcPrePhase := ex.prePhase }

def cancelMsg : MsgEx := { ex with premap := 0, postmap := 0, cancel := true }

structure HdlrIo where
  ret : ModuleId → Bool → MdlRet
  cancel : ModuleId → Bool → Bool

/-- A handler is called in a phase, the owner is told of a failure, or the message is canceled. -/
inductive Notice where
  | fed (id : ModuleId) (pre : Bool) (ret : MdlRet)
  | failed (owner : ModuleId)
  | canceled
  deriving DecidableEq

structure Dispatching where
  ex : MsgEx
  log : List Notice

variable (io : HdlrIo) (d : Dispatching)

def Dispatching.cancel : Dispatching := ⟨cancelMsg d.ex, d.log ++ [.canceled]⟩

/-- `notify_msg_fail`. A request that owns the message is told by `cur_req_hdl`, outside this
model. -/
def notifyMsgFail (ret : MdlRet) (d : Dispatching) : Dispatching where
  ex := { d.ex with
    fail := true
    indcFail := true
    indcCannotIo := d.ex.indcCannotIo || ret = .cannotIo }
  log :=
    match d.ex.module with
    | some owner =>
      if d.ex.ownerBkMdl ∧ (d.ex.mdlId < 10 ∨ mods.bitmap.chkBit owner) then
        d.log ++ [.failed owner]
      else d.log
    | none => d.log

def feedMdlMsg (mdl : ModuleId) (d : Dispatching) : MdlRet × Dispatching :=
  let pre := d.ex.indcPrePhase
  let ret := io.ret mdl pre
  let d := ⟨d.ex, d.log ++ [.fed mdl pre ret]⟩
  let d := if io.cancel mdl pre then d.cancel else d
  match ret with
  | .fail | .cannotIo => (ret, notifyMsgFail mods ret d)
  | .pending => (ret, { d with ex := { d.ex with pending := true } })
  | .success | .ignore =>
    if pre then (ret, { d with ex := { d.ex with premap := d.ex.premap.clrBit mdl } })
    else (ret, { d with ex := { d.ex with postmap := d.ex.postmap.clrBit mdl } })

def MsgEx.phaseMap (pre : Bool) : ModlMask := if pre then ex.premap else ex.postmap

def feedLoop (pre : Bool) : List BkModule → Dispatching → Dispatching
  | [], d => d
  | mdl :: mdls, d =>
    if (d.ex.phaseMap pre).chkBit mdl.id = false ∨ mdl.started = false then
      feedLoop pre mdls d
    else
      let res := feedMdlMsg mods io mdl.id d
      if res.1.stopDispatchMsg then res.2 else feedLoop pre mdls res.2

/-- For each priority the owner, if it has that priority, and then the queue. The owner is fed
whether it is started or not. -/
def phaseModules (owner : Option ModuleId) (ps : List MdlPriority)
    (order : List BkModule → List BkModule) : List BkModule :=
  ps.flatMap fun p =>
    ((owner.filter fun id => getMdlPriority id = some p).map fun id => ⟨id, true⟩).toList ++
      order (mods.moduleQ p)

def msgPrePhaseHdl : Dispatching :=
  feedLoop mods io true (phaseModules mods d.ex.module [.mandatory, .optional, .role] id) d

def msgPostPhaseHdl : Dispatching :=
  feedLoop mods io false
    (phaseModules mods d.ex.module [.role, .optional, .mandatory] List.reverse) d

def notifyDisprController : Dispatching :=
  match mods.controller with
  | none => d
  | some ctrl => (feedMdlMsg mods io ctrl d).2

/-- Where a message goes at the end of `msg_dispatch`: to the idle queue, or to the pending one. -/
inductive Redirect where
  | recycle
  | reschedule
  deriving DecidableEq

def msgRedirectChk : Option Redirect :=
  if ex.fail ∨ ex.cancel then some .recycle
  else if ex.pending then some .reschedule
  else none

def dispatchPost : Redirect × Dispatching :=
  let d := { d with ex := getMsgBitmap { d.ex with prePhase := false } }
  let d := if d.ex.postmap ≠ 0 then msgPostPhaseHdl mods io d else d
  match msgRedirectChk d.ex with
  | some redirect => (redirect, d)
  | none =>
    if d.ex.postmap = 0 then (.recycle, d)
    else (.recycle, { d with ex := { d.ex with cancel := true } })

def dispatchPre : Redirect × Dispatching :=
  let pre := d.ex.indcPrePhase
  let d := if pre ∧ d.ex.premap ≠ 0 then msgPrePhaseHdl mods io d else d
  match msgRedirectChk d.ex with
  | some redirect => (redirect, d)
  | none =>
    if d.ex.phaseMap pre = 0 then dispatchPost mods io d
    else (.recycle, { d with ex := { d.ex with cancel := true } })

/-- `msg_dispatch`. When it is done with both phases, `cur_req_hdl` is called and the message
recycled. -/
def msgDispatch : Redirect × Dispatching :=
  let d := { d with ex := getMsgBitmap d.ex }
  match msgRedirectChk d.ex with
  | some redirect => (redirect, d)
  | none =>
    let d := notifyDisprController mods io d
    match msgRedirectChk d.ex with
    | some redirect => (redirect, d)
    | none => dispatchPre mods io d

inductive Fate where
  | queued
  | completed
  | failed
  | canceled
  deriving DecidableEq

structure MsgRun where
  fate : Fate
  toDispatching : Dispatching

/-- Whether `is_msg_canceled` refuses the message, or lets it wait because of `DISPR_CANNOT_IO`, and
the answers of the modules. -/
structure RoundIo where
  refused : Bool
  cannotIo : Bool
  hdlr : HdlrIo

inductive MsgEvent where
  | cancel
  | round (io : RoundIo)

def popFrontWait : MsgEx := { ex with run := true, enq := false, pending := false }

def msgRound (io : RoundIo) (d : Dispatching) : MsgRun :=
  let ex := popFrontWait d.ex
  if ex.cancel ∨ io.refused then ⟨.canceled, ⟨ex, d.log⟩⟩
  else
    let ex := { ex with
      pending := io.cannotIo
      premap := mods.bitmap &&& ex.premap
      postmap := mods.bitmap &&& ex.postmap }
    match msgDispatch mods io.hdlr ⟨ex, d.log⟩ with
    | (.reschedule, d) => ⟨.queued, d⟩
    | (.recycle, d) =>
      ⟨if d.ex.fail then .failed else if d.ex.cancel then .canceled else .completed, d⟩

def msgStep (m : MsgRun) (e : MsgEvent) : MsgRun :=
  match m.fate, e with
  | .queued, .cancel => ⟨.queued, m.toDispatching.cancel⟩
  | .queued, .round io => msgRound mods io m.toDispatching
  | _, _ => m

def msgSent : MsgRun := ⟨.queued, ⟨fillMsg mods a, []⟩⟩

end Rtl8852be

import Rtl8852be.Basic
import Rtl8852be.MsgDispatch

/-!
# Registration of background modules

`dispr_register_module` allocates a node, links it into the queue of its priority and runs the
callbacks of the module. Nodes are addresses, so that one that was freed and is still linked can be
told.
-/

namespace Rtl8852be

structure MdlNode where
  id : ModuleId
  init : Bool
  started : Bool
  deriving DecidableEq

structure DisprReg where
  init : Bool
  started : Bool
  moduleQ : MdlPriority → List ℕ
  heap : ℕ → Option MdlNode
  bitmap : ModlMask
  basemap : ModlMask

structure BkModuleOps where
  init : Bool
  deinit : Bool
  start : Bool
  stop : Bool
  msgHdlr : Bool
  setInfo : Bool
  queryInfo : Bool

structure RegIo where
  alloc : Option ℕ
  initRet : MdlRet
  startRet : MdlRet

variable (ret : MdlRet) (m : MdlNode) (p : MdlPriority)

namespace DisprReg

def linked (s : DisprReg) : List ℕ := s.moduleQ .role ++ s.moduleQ .optional ++ s.moduleQ .mandatory

@[simp] def setNode (a : ℕ) (m : MdlNode) (s : DisprReg) : DisprReg :=
  { s with heap := Function.update s.heap a (some m) }

def free (a : ℕ) (s : DisprReg) : DisprReg := { s with heap := Function.update s.heap a none }

@[simp] def pqPush (a : ℕ) (s : DisprReg) : DisprReg :=
  { s with moduleQ := Function.update s.moduleQ p (s.moduleQ p ++ [a]) }

def addBits (id : ModuleId) (s : DisprReg) : DisprReg :=
  { s with
    bitmap := s.bitmap.addBit id
    basemap := if p = .optional then s.basemap else s.basemap.addBit id }

end DisprReg

def chkModuleOps : Option BkModuleOps → Bool
  | none => false
  | some ops => ops.init && ops.deinit && ops.msgHdlr && ops.setInfo && ops.queryInfo &&
    ops.start && ops.stop

@[simp] def bkModuleInit : Bool × MdlNode :=
  if m.init then (false, m)
  else if ret = .success then (true, { m with init := true })
  else (false, m)

def bkModuleStart : Bool × MdlNode :=
  if m.init = false ∨ m.started then (false, m)
  else if ret = .success then (true, { m with started := true })
  else (false, m)

def startModule (a : ℕ) (m : MdlNode) (s : DisprReg) : Bool × DisprReg :=
  let (ok, m) := bkModuleStart ret m
  if ok then (true, (s.setNode a m).addBits p m.id) else (false, s)

/-- `dispr_register_module` from the push on. What `bk_module_deinit` clears is freed right after
it. -/
@[simp] def linkModule (io : RegIo) (p : MdlPriority) (a : ℕ) (m : MdlNode) (s : DisprReg) :
    PhlStatus × DisprReg :=
  let s := (s.setNode a m).pqPush p a
  let (ret, m) := bkModuleInit io.initRet m
  let s := s.setNode a m
  let (ret, s) := if ret ∧ s.started then startModule io.startRet p a m s else (ret, s)
  if ret then (.success, s) else (.failure, s.free a)

/-- The macro has the value of the bit, which is `true` only for the lowest bit of a byte. -/
def chkBitmapBitTrue (map : ModlMask) (id : ModuleId) : Bool := map.chkBit id && id.val % 8 == 0

/-- `_get_mdl_priority` of any id, with the id as one that has a bit. -/
def mdlPriorityOf (id : ℕ) : Option (ModuleId × MdlPriority) :=
  if h : id < 128 then (getMdlPriority ⟨id, h⟩).map fun p => (⟨id, h⟩, p) else none

def disprRegisterModule (io : RegIo) (id : ℕ) (ops : Option BkModuleOps) (s : DisprReg) :
    PhlStatus × DisprReg :=
  match mdlPriorityOf id with
  | none => (.failure, s)
  | some (id, p) =>
    if s.init = false ∨ chkModuleOps ops = false ∨ chkBitmapBitTrue s.bitmap id then (.failure, s)
    else match io.alloc with
    | none => (.failure, s)
    | some a => linkModule io p a ⟨id, false, false⟩ s

def disprRegInit : DisprReg where
  init := true
  started := false
  moduleQ := fun _ => []
  heap := fun _ => none
  bitmap := 0
  basemap := 0

/-!
## Who may send a message, byte by byte

Module ids are bytes, and a bitmap has 128 bits. The helpers do not check the id: behind `bitmap` of
the dispatcher lies `basemap`, behind `premap` of a message `postmap`. The model keeps a log of the
bytes that are used.
-/

variable (reg : DisprReg) (f : ModlMask → ModuleId → ModlMask)

namespace SendCheck

def modlMaskLen : ℕ := 16

inductive MapName where
  | bitmap
  | premap
  | postmap
  deriving DecidableEq

/-- A byte that is read or written, by the bitmap it is looked up in. -/
structure MapAccess where
  map : MapName
  byte : ℕ
  deriving DecidableEq

structure CurCmdReq where
  moduleId : UInt8
  run : Bool
  cancel : Bool
  lastPermit : Bool

/-- What `dispr_send_msg` finds in the dispatcher; `idleMsg` tells whether there is a message in
`msg_idle_q`. -/
structure SendEnv where
  reg : DisprReg
  shallStop : Bool
  ctrlPresent : Bool
  curCmdReq : Option CurCmdReq
  idleMsg : Bool

/-- `struct phl_msg_attribute`: the options that count here, and `notify`. -/
structure SendAttr where
  skipNotifyOptMdl : Bool
  blistPresent : Bool
  sendInAbort : Bool
  idArr : Option (ℕ → UInt8)
  len : ℕ

def SendAttr.ids (attr : SendAttr) : List UInt8 :=
  match attr.idArr with
  | none => []
  | some arr => (List.range attr.len).map arr

def SendAttr.err (attr : SendAttr) : Bool := attr.idArr.isNone && attr.len != 0

structure MsgMaps where
  premap : ModlMask
  postmap : ModlMask
  behind : ModlMask
  log : List MapAccess

def bitOf (id : UInt8) : ModuleId := ⟨id.toNat % 128, Nat.mod_lt _ (Nat.succ_pos 127)⟩

def chkBitmapBit (id : UInt8) : Bool :=
  if id.toNat < 128 then reg.bitmap.chkBit (bitOf id) else reg.basemap.chkBit (bitOf id)

variable (env : SendEnv) (attr : Option SendAttr) (m : MsgMaps)

namespace MsgMaps

def note (map : MapName) (id : UInt8) (m : MsgMaps) : MsgMaps :=
  { m with log := m.log ++ [⟨map, id.toNat / 8⟩] }

def updPre (id : UInt8) : MsgMaps :=
  let m := m.note .premap id
  if id.toNat < 128 then { m with premap := f m.premap (bitOf id) }
  else { m with postmap := f m.postmap (bitOf id) }

def updPost (id : UInt8) : MsgMaps :=
  let m := m.note .postmap id
  if id.toNat < 128 then { m with postmap := f m.postmap (bitOf id) }
  else { m with behind := f m.behind (bitOf id) }

def updBoth (ids : List UInt8) (m : MsgMaps) : MsgMaps :=
  ids.foldl (updPost f) (ids.foldl (updPre f) m)

end MsgMaps

def addSender (id : UInt8) (m : MsgMaps) : MsgMaps :=
  let m := m.note .bitmap id
  if chkBitmapBit reg id then m.updBoth .addBit [id] else m

def setMsgBitmap (id : UInt8) (m : MsgMaps) : MsgMaps :=
  addSender reg id { m with premap := reg.bitmap, postmap := reg.bitmap }

def setMsgCustomBitmap (attr : SendAttr) (id : UInt8) (m : MsgMaps) : MsgMaps :=
  let m := if attr.skipNotifyOptMdl then { m with premap := reg.basemap, postmap := reg.basemap }
    else m
  addSender reg id (m.updBoth (if attr.blistPresent then .clrBit else .addBit) attr.ids)

def hasModule (id : UInt8) : Bool := reg.linked.any fun a => (reg.heap a).any (·.id.val = id.toNat)

def isDisprCtrl (id : UInt8) : Bool := id.toNat < 10

def getModuleById (id : UInt8) (m : MsgMaps) : Bool × MsgMaps :=
  if isDisprCtrl id then (env.ctrlPresent, m)
  else (chkBitmapBit env.reg id && hasModule env.reg id, m.note .bitmap id)

def mdlIdMax : UInt8 := 255

def getCurCmdReqId : Option CurCmdReq → UInt8
  | none => mdlIdMax
  | some req => if req.run = false ∨ req.cancel then mdlIdMax else req.moduleId

/-- `REQ_STATUS_LAST_PERMIT` in the status that `get_cur_cmd_req_id` hands out. -/
def reqLastPermit (cur : Option CurCmdReq) : Bool := cur.any (·.lastPermit)

/-- The test of `dispr_send_msg` for who may send. A status of 0 has no `REQ_STATUS_LAST_PERMIT`. -/
def sendAllowed (id : UInt8) (m : MsgMaps) : Bool × MsgMaps :=
  if isDisprCtrl id then (true, m)
  else
    let curReqId := getCurCmdReqId env.curCmdReq
    (chkBitmapBit env.reg id
      || !((curReqId ≠ mdlIdMax && curReqId ≠ id)
        || (curReqId = mdlIdMax && !reqLastPermit env.curCmdReq)),
      m.note .bitmap id)

inductive SendStatus where
  | success
  | failure
  | unexpectedError
  | invalidParam
  | resource
  deriving DecidableEq

def fillMaps (id : UInt8) (m : MsgMaps) : MsgMaps :=
  let m := setMsgBitmap reg id m
  match attr with
  | none => m
  | some attr => setMsgCustomBitmap reg attr id m

def sendFilled (id : UInt8) (m : MsgMaps) : SendStatus × MsgMaps :=
  let (found, m) := getModuleById env id (fillMaps env.reg attr id m)
  let curReqId := getCurCmdReqId env.curCmdReq
  let ownerReq := !found &&
    (curReqId = id || (curReqId = mdlIdMax && reqLastPermit env.curCmdReq))
  if ownerReq && reqLastPermit env.curCmdReq && !attr.any (·.sendInAbort) then (.failure, m)
  else (.success, m)

/-- `dispr_send_msg` of a message of module `id`; `behind` are the bytes behind its bitmaps. -/
def disprSendMsg (id : UInt8) (behind : ModlMask) : SendStatus × MsgMaps :=
  let m : MsgMaps := ⟨0, 0, behind, []⟩
  if env.reg.started = false then (.unexpectedError, m)
  else if env.shallStop then (.unexpectedError, m)
  else if attr.any SendAttr.err then (.invalidParam, m)
  else
    let (allowed, m) := sendAllowed env id m
    if allowed = false then (.invalidParam, m)
    else if env.idleMsg = false then (.resource, m)
    else sendFilled env attr id m

end SendCheck

end Rtl8852be

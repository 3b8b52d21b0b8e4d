import Rtl8852be.Basic
import Rtl8852be.Lib.CntQueue
import Rtl8852be.Lib.Keyed
import Rtl8852be.Lib.Run
import Mathlib.Data.Finset.Card

/-!
# Packets offloaded to the firmware

An entry per macid records, for each type of packet, the requests for it and the id under which the
firmware holds it. The first request downloads the packet and the last cancel deletes it.
-/

namespace Rtl8852be

def notUsed : ℕ := 0xFF

def pktOfldMaxCount : ℕ := 256

inductive PktOfldType where
  | probeRsp
  | psPoll
  | nullData
  | qosNull
  | cts2self
  | arpRsp
  | ndp
  | eapolKey
  | saQuery
  | realwowKapkt
  | realwowAck
  | realwowWp
  deriving DecidableEq

def PktOfldType.all : List PktOfldType :=
  [.probeRsp, .psPoll, .nullData, .qosNull, .cts2self, .arpRsp, .ndp, .eapolKey, .saQuery,
    .realwowKapkt, .realwowAck, .realwowWp]

structure PktOfldInfo where
  req : CntQueue ℕ
  id : ℕ

structure PktOfldEntry where
  macid : ℕ
  pktInfo : PktOfldType → PktOfldInfo

/-- `struct pkt_ofld_obj`, and the ids under which the firmware holds a packet. -/
structure PktOfld where
  entryQ : CntQueue PktOfldEntry
  curSeq : ℕ
  held : Finset ℕ

/-- The id that `mac_add_pkt_ofld` takes: the first free one, the last one not being tried. -/
def pktOfldAllocId (held : Finset ℕ) : ℕ :=
  ((List.range (pktOfldMaxCount - 1)).find? (· ∉ held)).getD (pktOfldMaxCount - 1)

def halPktOfldAdd (ok : Bool) (held : Finset ℕ) : Option ℕ × Finset ℕ :=
  if held.card = pktOfldMaxCount then (none, held)
  else if ok then (some (pktOfldAllocId held), insert (pktOfldAllocId held) held)
  else (none, held)

def halPktOfldDel (ok : Bool) (id : ℕ) (held : Finset ℕ) : Bool × Finset ℕ :=
  if id = pktOfldMaxCount - 1 then (false, held)
  else if id ∉ held then (false, held)
  else if ok then (true, held.erase id)
  else (false, held)

structure PktOfldReqEnv where
  allocReq : Bool
  allocName : Bool
  construct : Bool
  halAdd : Bool
  updateIds : Bool

variable (env : PktOfldReqEnv) (s : PktOfld) (type : PktOfldType) (info : PktOfldInfo)

def phlPktOfldIsPktOfld : Bool := info.id ≠ notUsed

def phlPktOfldGenReq : Option ℕ × PktOfld :=
  if env.allocReq then
    let s' := { s with curSeq := (s.curSeq + 1) % 2 ^ 32 }
    if env.allocName then (some s.curSeq, s') else (none, s')
  else (none, s)

def phlPktOfldAddReq (token : ℕ) (info : PktOfldInfo) : PktOfldInfo :=
  { info with req := info.req.pushFront token }

def phlPktOfldDelReq (token : ℕ) (info : PktOfldInfo) : PktOfldInfo :=
  { info with req := info.req.erase token }

/-- `_phl_pkt_ofld_construct_packet`: four types are not implemented. -/
def phlPktOfldConstructPacket : Bool :=
  match type with
  | .probeRsp | .psPoll | .qosNull | .cts2self => false
  | _ => env.construct

/-- `_phl_pkt_ofld_req_type`. When the ids cannot be updated the packet stays in the firmware. -/
def phlPktOfldReqType (held : Finset ℕ) : PhlStatus × PktOfldInfo × Finset ℕ :=
  if phlPktOfldIsPktOfld info then (.success, info, held)
  else if !phlPktOfldConstructPacket env type then (.failure, info, held)
  else
    match halPktOfldAdd env.halAdd held with
    | (none, held) => (.failure, { info with id := notUsed }, held)
    | (some id, held) =>
      if env.updateIds then (.success, { info with id := id }, held)
      else (.failure, { info with id := notUsed }, held)

def phlPktOfldCancelType (halDel : Bool) (info : PktOfldInfo) (held : Finset ℕ) :
    PhlStatus × PktOfldInfo × Finset ℕ :=
  if phlPktOfldIsPktOfld info = false then (.failure, info, held)
  else if info.req.cnt ≠ 1 then (.success, info, held)
  else
    match halPktOfldDel halDel info.id held with
    | (false, held) => (.failure, info, held)
    | (true, held) => (.success, { info with id := notUsed }, held)

def PktOfldEntry.setInfo (e : PktOfldEntry) : PktOfldEntry :=
  { e with pktInfo := Function.update e.pktInfo type info }

namespace PktOfld

def getEntry (macid : ℕ) : Option PktOfldEntry := Keyed.get PktOfldEntry.macid s.entryQ.items macid

def setInfo (s : PktOfld) (macid : ℕ) (type : PktOfldType) (info : PktOfldInfo) : PktOfld :=
  { s with entryQ :=
      ⟨Keyed.modify PktOfldEntry.macid macid (·.setInfo type info) s.entryQ.items, s.entryQ.cnt⟩ }

end PktOfld

def phlPktOfldInitEntry (macid : ℕ) : PktOfldEntry := ⟨macid, fun _ => ⟨⟨[], 0⟩, notUsed⟩⟩

/-- `phl_pkt_ofld_add_entry`. That the firmware does not get the ids is only warned about. -/
def phlPktOfldAddEntry (macid : ℕ) (alloc : Bool) (s : PktOfld) : PhlStatus × PktOfld :=
  if (s.getEntry macid).isSome then (.failure, s)
  else if !alloc then (.resource, s)
  else (.success, { s with entryQ := s.entryQ.pushFront (phlPktOfldInitEntry macid) })

def phlPktOfldDelOfldType (halDel : PktOfldType → Bool) (e : PktOfldEntry) (held : Finset ℕ) :
    List PktOfldType → Finset ℕ
  | [] => held
  | t :: ts =>
    if phlPktOfldIsPktOfld (e.pktInfo t) then
      phlPktOfldDelOfldType halDel e (halPktOfldDel (halDel t) (e.pktInfo t).id held).2 ts
    else phlPktOfldDelOfldType halDel e held ts

def phlPktOfldDelEntry (macid : ℕ) (halDel : PktOfldType → Bool) (s : PktOfld) :
    PhlStatus × PktOfld :=
  match s.getEntry macid with
  | none => (.failure, s)
  | some e =>
    (.success, { s with
      entryQ := ⟨Keyed.remove PktOfldEntry.macid macid s.entryQ.items, s.entryQ.cnt - 1⟩
      held := phlPktOfldDelOfldType halDel e s.held PktOfldType.all })

def phlPktOfldRequest (macid : ℕ) (type : PktOfldType) (env : PktOfldReqEnv) (s : PktOfld) :
    PhlStatus × Option ℕ × PktOfld :=
  match s.getEntry macid with
  | none => (.failure, none, s)
  | some e =>
    match phlPktOfldGenReq env s with
    | (none, s) => (.resource, none, s)
    | (some token, s) =>
      match phlPktOfldReqType env type (phlPktOfldAddReq token (e.pktInfo type)) s.held with
      | (.success, info, held) =>
        (.success, some token, { s.setInfo macid type info with held := held })
      | (_, info, held) =>
        (.failure, none, { s.setInfo macid type (phlPktOfldDelReq token info) with held := held })

def phlPktOfldCancel (macid : ℕ) (type : PktOfldType) (token : ℕ) (halDel : Bool) (s : PktOfld) :
    PhlStatus × PktOfld :=
  match s.getEntry macid with
  | none => (.failure, s)
  | some e =>
    if token ∉ (e.pktInfo type).req.items then (.failure, s)
    else
      match phlPktOfldCancelType halDel (e.pktInfo type) s.held with
      | (.success, info, held) =>
        (.success, { s.setInfo macid type (phlPktOfldDelReq token info) with held := held })
      | (_, _, _) => (.failure, s)

/-- `phl_pkt_ofld_get_id`. Where there is no entry the id is a status, `RTW_PHL_STATUS_FAILURE`. -/
def phlPktOfldGetId (macid : ℕ) (type : PktOfldType) (s : PktOfld) : ℕ :=
  match s.getEntry macid with
  | none => 1
  | some e => (e.pktInfo type).id

/-- `_mcc_pkt_offload_for_client`, of a macid that has a station or not. -/
def mccPktOffloadForClient (macid : ℕ) (sta : Bool) (env : PktOfldReqEnv) (s : PktOfld) :
    PhlStatus × PktOfld :=
  if !sta then (.failure, s)
  else if phlPktOfldGetId macid .nullData s ≠ notUsed then (.success, s)
  else
    match phlPktOfldRequest macid .nullData env s with
    | (.success, _, s) => (.success, s)
    | (_, _, s) => (.failure, s)

inductive PktOfldEv where
  | addEntry (macid : ℕ) (alloc : Bool)
  | delEntry (macid : ℕ) (halDel : PktOfldType → Bool)
  | request (macid : ℕ) (type : PktOfldType) (env : PktOfldReqEnv)
  | cancel (macid : ℕ) (type : PktOfldType) (token : ℕ) (halDel : Bool)

def pktOfldStep : PktOfldEv → PktOfld
  | .addEntry macid alloc => (phlPktOfldAddEntry macid alloc s).2
  | .delEntry macid halDel => (phlPktOfldDelEntry macid halDel s).2
  | .request macid type env => (phlPktOfldRequest macid type env s).2.2
  | .cancel macid type token halDel => (phlPktOfldCancel macid type token halDel s).2

def phlPktOfldInit : PktOfld := ⟨⟨[], 0⟩, 0, ∅⟩

end Rtl8852be

import Rtl8852be.Defrag
import Rtl8852be.Lib.CntQueue

/-!
# The receive path of the core

`rtw_core_rx_process` takes a frame from the free queue for each packet and attaches the request of
the PHL layer to it. Each function on the way may free the frame, leave it in the queue of a
station, or leave it to the loop, which frees it at `rx_next`.
-/

namespace Rtl8852be

/-- `struct recv_priv` and the queues of the stations, with the requests returned to the PHL layer
so far and how many were attached to a frame. -/
structure RecvPriv (σ : Type*) where
  freeRecvQueue : CntQueue ℕ
  defragQ : σ → List RecvFrame
  returned : List ℕ
  reqs : ℕ

variable {σ : Type*}

section Frames

def rtwAllocRecvframe (s : RecvPriv σ) : Option ℕ × RecvPriv σ :=
  (s.freeRecvQueue.items.head?, { s with freeRecvQueue := s.freeRecvQueue.dropFirst })

/-- `rtw_free_recvframe`. Its `rtw_list_delete` takes the frame out of whatever list it is in. -/
def rtwFreeRecvframe (precvframe : RecvFrame) (s : RecvPriv σ) : RecvPriv σ :=
  { s with
    returned := s.returned ++ precvframe.rxReq.toList
    defragQ := fun sta => (s.defragQ sta).filter fun f => f.id ≠ precvframe.id
    freeRecvQueue :=
      ⟨s.freeRecvQueue.items.erase precvframe.id ++ [precvframe.id], s.freeRecvQueue.cnt + 1⟩ }

def rtwFreeRecvframePtr (precvframe : Option RecvFrame) (s : RecvPriv σ) : RecvPriv σ :=
  match precvframe with
  | none => s
  | some f => rtwFreeRecvframe f s

def rtwFreeRecvframeQueue (frames : List RecvFrame) (s : RecvPriv σ) : RecvPriv σ :=
  frames.foldl (fun s f => rtwFreeRecvframe f s) s

variable [DecidableEq σ]

def rxChkDefrag (e : RxFragment σ) (s : RecvPriv σ) :
    CoreRxState × Option RecvFrame × RecvPriv σ :=
  let c := chkDefrag s.defragQ e
  (c.ret, c.frame, rtwFreeRecvframeQueue c.freed { s with defragQ := defragStep s.defragQ e })

end Frames

/-- What an interface finds out about a frame: its version, `validate_mgmt_protect`,
`validate_recv_data_frame`, and the stations. -/
structure Validation (σ : Type*) where
  verOk : Bool
  protectOk : Bool
  dataOk : Bool
  psta : Option σ
  bcmcSta : Option σ
  keytrack : ℕ

def Validation.fragment {σ : Type*} (v : Validation σ) (f : RecvFrame) : RxFragment σ :=
  ⟨f, v.psta, v.bcmcSta, v.keytrack⟩

section Validate

variable [DecidableEq σ]

/-- What `recvframe_chk_defrag` makes of its pointer is only used to dispatch the frame. -/
def validateRecvMgntFrame (v : Validation σ) (precvFrame : RecvFrame) (s : RecvPriv σ) :
    RecvPriv σ :=
  if v.protectOk then (rxChkDefrag (v.fragment precvFrame) s).2.2 else s

def validateRecvFrame (v : Validation σ) (precvFrame : RecvFrame) (s : RecvPriv σ) :
    Bool × RecvPriv σ :=
  if v.verOk = false then (false, s)
  else
    match precvFrame.type with
    | .mgmt => (false, validateRecvMgntFrame v precvFrame s)
    | .ctrl => (false, s)
    | .data => (v.dataOk, s)
    | .reserved => (false, s)

/-- Whether the skb can be duplicated for a further interface, and what that makes of the frame. -/
structure BuddyIo (σ : Type*) where
  duplicated : Bool
  validation : Validation σ

/-- A packet and what it meets. Identity, request and skb of `frame` are given by the driver. -/
structure Mpdu (σ : Type*) where
  /-- `rtw_phl_query_rx_pkt` gives a request. -/
  query : Bool
  frame : RecvFrame
  /-- The request comes with an skb, or one can be allocated. -/
  pktOk : Bool
  bmc : Bool
  iface : Bool
  buddies : List (BuddyIo σ)
  monitor : Bool
  /-- `icv_err` or `crc_err`. -/
  rxErr : Bool
  adapterUp : Bool
  validation : Validation σ
  decryptor : Bool
  /-- The frame has no privacy bit, or `recvframe_chkmic` accepts it. -/
  chkmic : Bool
  portctrl : Bool
  amsdu : Bool
  actIndicate : Bool
  actForward : Bool
  wlanhdrToEthhdr : Bool
  indicatepktCheck : Bool

def cloneBcmcPacket (precvframe : RecvFrame) (s : RecvPriv σ) (io : BuddyIo σ) : RecvPriv σ :=
  match rtwAllocRecvframe s with
  | (none, s) => s
  | (some x, s) =>
    let pcloneframe := { precvframe with id := x, rxReq := none, pkt := io.duplicated }
    rtwFreeRecvframe pcloneframe
      (if io.duplicated then (validateRecvFrame io.validation pcloneframe s).2 else s)

def rtwMiBuddyCloneBcmcPacket (ios : List (BuddyIo σ)) (precvframe : RecvFrame)
    (s : RecvPriv σ) : RecvPriv σ :=
  ios.foldl (cloneBcmcPacket precvframe) s

variable (m : Mpdu σ) (prframe : RecvFrame) (precvFrame : RecvFrame) (s : RecvPriv σ)

def attachReq : RecvFrame × RecvPriv σ :=
  ({ prframe with rxReq := some s.reqs }, { s with reqs := s.reqs + 1 })

def rtwCoreUpdateRecvframe : Bool × RecvFrame × RecvPriv σ :=
  if m.pktOk = false then (false, attachReq prframe s)
  else
    let prframe := { prframe with pkt := true }
    if m.bmc then
      (!m.monitor, attachReq prframe (rtwMiBuddyCloneBcmcPacket m.buddies prframe s))
    else (m.iface && !m.monitor, attachReq prframe s)

def rtwCoreRxDataPreProcess : CoreRxState × Option RecvFrame × RecvPriv σ :=
  if m.decryptor = false then (.drop, prframe, s)
  else
    match rxChkDefrag (m.validation.fragment prframe) s with
    | (.continue, prframe, s) =>
      if m.chkmic = false then (.drop, prframe, s)
      else if m.portctrl = false then (.drop, prframe, s)
      else (.continue, prframe, s)
    | res => res

def rtwRecvIndicatepkt : Bool × RecvPriv σ := (precvFrame.pkt, rtwFreeRecvframe precvFrame s)

def coreRxProcessMsdu : CoreRxState × RecvPriv σ :=
  if m.actIndicate = false ∧ m.actForward = false then (.drop, s)
  else if m.wlanhdrToEthhdr = false then (.drop, s)
  else if m.actForward ∧ m.actIndicate = false then
    (.done, rtwFreeRecvframe { prframe with pkt := false } s)
  else if m.indicatepktCheck = false then (.drop, s)
  else
    let res := rtwRecvIndicatepkt prframe s
    (if res.1 then .done else .drop, res.2)

/-- Whatever becomes of its subframes, `amsdu_to_msdu` frees the frame and succeeds. -/
def rtwCoreRxDataPostProcess : CoreRxState × RecvPriv σ :=
  if m.amsdu then (.done, rtwFreeRecvframe prframe s) else coreRxProcessMsdu m prframe s

def rxData : RecvPriv σ :=
  match rtwCoreRxDataPreProcess m prframe s with
  | (.defrag, _, s) => s
  | (.continue, some prframe, s) =>
    match rtwCoreRxDataPostProcess m prframe s with
    | (.done, s) => s
    | (_, s) => rtwFreeRecvframe prframe s
  | (_, prframe, s) => rtwFreeRecvframePtr prframe s

def rxIteration : Bool × RecvPriv σ :=
  match rtwAllocRecvframe s with
  | (none, s) => (false, s)
  | (some x, s) =>
    let prframe := { m.frame with id := x, rxReq := none, pkt := false }
    if m.query = false then (false, rtwFreeRecvframe prframe s)
    else
      match rtwCoreUpdateRecvframe m prframe s with
      | (false, prframe, s) => (true, rtwFreeRecvframe prframe s)
      | (true, prframe, s) =>
        if m.rxErr ∨ m.adapterUp = false then (true, rtwFreeRecvframe prframe s)
        else
          match validateRecvFrame m.validation prframe s with
          | (false, s) => (true, rtwFreeRecvframe prframe s)
          | (true, s) => (true, rxData m prframe s)

def rtwCoreRxProcess : List (Mpdu σ) → RecvPriv σ → RecvPriv σ
  | [], s => s
  | m :: ms, s =>
    match rxIteration m s with
    | (true, s) => rtwCoreRxProcess ms s
    | (false, s) => s

/-- An iteration of the receive loop, or the part of `rtw_free_stainfo` that frees the fragments of
a station. -/
inductive RecvEvent (σ : Type*) where
  | mpdu (m : Mpdu σ)
  | freeSta (sta : σ)

def recvStep : RecvEvent σ → RecvPriv σ
  | .mpdu m => (rxIteration m s).2
  | .freeSta sta => rtwFreeRecvframeQueue (s.defragQ sta) s

@[simp]
def recvInit (σ : Type*) (num : ℕ) : RecvPriv σ := ⟨⟨List.range num, num⟩, fun _ => [], [], 0⟩

end Validate

end Rtl8852be

import Rtl8852be.Basic
import Rtl8852be.Lib.CntQueue

/-!
# Receive buffers and packet objects

A receive buffer is idle, or busy: mapped to a receive descriptor (RXBD), or attached to a packet
object in use. `phl_rx_pcie` takes filled buffers from the busy list and maps idle ones to as many
descriptors.
-/

namespace Rtl8852be

/-- `struct rtw_phl_rx_pkt`: its identity, the buffer attached to it and its channel. -/
structure PhlRxPkt where
  id : ℕ
  rxbufPtr : Option ℕ
  dmaCh : ℕ
  deriving DecidableEq

/-- `struct rtw_rx_buf_ring` and `struct rx_base_desc`, with the buffers mapped since the last
reset. -/
structure RxChan where
  idle : CntQueue ℕ
  busy : CntQueue ℕ
  hostIdx : ℕ
  rxbd : ℕ → Option ℕ
  mapped : List ℕ

/-- The channels, the idle packet objects, and those in use, whoever holds them. -/
structure RxSys where
  chans : ℕ → RxChan
  pktIdle : CntQueue PhlRxPkt
  inUse : List PhlRxPkt

variable (c : RxChan) (phlRx : PhlRxPkt) (s : RxSys)

def RxSys.setChan (ch : ℕ) (c : RxChan) : RxSys := { s with chans := Function.update s.chans ch c }

def enqueueBusyRxBuf (rxBuf : ℕ) (first : Bool) (c : RxChan) : RxChan :=
  { c with busy := if first then c.busy.pushFront rxBuf else c.busy.pushTail rxBuf }

def enqueueIdleRxBuf (rxBuf : ℕ) (c : RxChan) : RxChan := { c with idle := c.idle.pushTail rxBuf }

def queryBusyRxBuf : Option ℕ × RxChan := (c.busy.items.head?, { c with busy := c.busy.dropFirst })

@[simp] def queryIdleRxBuf : Option ℕ × RxChan :=
  (c.idle.items.head?, { c with idle := c.idle.dropFirst })

def phlReleaseTargetRxBuf (rxBuf ch : ℕ) (s : RxSys) : RxSys :=
  s.setChan ch (enqueueIdleRxBuf rxBuf (s.chans ch))

def phlReleaseBusyRxBuf : ℕ → RxChan → RxChan
  | 0, c => c
  | releaseNum + 1, c =>
    match queryBusyRxBuf c with
    | (none, _) => c
    | (some rxBuf, c) => phlReleaseBusyRxBuf releaseNum (enqueueIdleRxBuf rxBuf c)

def rtwPhlQueryPhlRx : Option PhlRxPkt × RxSys :=
  (s.pktIdle.items.head?, { s with pktIdle := s.pktIdle.dropFirst })

def phlReleasePhlRx : RxSys :=
  { s with pktIdle := s.pktIdle.pushTail { phlRx with rxbufPtr := none, dmaCh := 0 } }

def phlRecycleRxBuf : RxSys :=
  match phlRx.rxbufPtr with
  | none => phlReleasePhlRx phlRx s
  | some rxBuf => phlReleasePhlRx phlRx (phlReleaseTargetRxBuf rxBuf phlRx.dmaCh s)

def rtwPhlReturnRxbuf (i : ℕ) (s : RxSys) : RxSys :=
  match s.inUse[i]? with
  | none => s
  | some phlRx => phlRecycleRxBuf phlRx { s with inUse := s.inUse.eraseIdx i }

def halUpdateRxbd (rxbdNum rxBuf : ℕ) (c : RxChan) : RxChan :=
  { c with
    rxbd := Function.update c.rxbd c.hostIdx (some rxBuf)
    hostIdx := (c.hostIdx + 1) % rxbdNum
    mapped := c.mapped ++ [rxBuf] }

def phlRefillRxbd (rxbdNum : ℕ) : ℕ → RxChan → RxChan
  | 0, c => c
  | refillCnt + 1, c =>
    match queryIdleRxBuf c with
    | (none, _) => c
    | (some rxBuf, c) =>
      phlRefillRxbd rxbdNum refillCnt (enqueueBusyRxBuf rxBuf false (halUpdateRxbd rxbdNum rxBuf c))

/-- `enum rtw_rx_type`, as far as it decides what becomes of a packet. -/
inductive RxType where
  | wifi
  | txWpReleaseHost
  | ppduStatus
  | c2h
  | unsupported
  deriving DecidableEq

/-- Whether a buffer is ready, its descriptor info and contents are accepted, its type, and which
objects come back while it is processed. -/
structure RxOutcome where
  rdy : Bool
  info : Bool
  parse : Bool
  type : RxType
  returns : List ℕ

/-- `phl_get_single_rx`. With `rxtag98d`, the workaround of that name, a buffer that is not ready is
dropped. -/
def phlGetSingleRx (rxtag98d : Bool) (ch : ℕ) (o : RxOutcome) (s : RxSys) :
    PhlStatus × Option PhlRxPkt × RxSys :=
  let q := rtwPhlQueryPhlRx s
  let b := queryBusyRxBuf (q.2.chans ch)
  let s' := q.2.setChan ch b.2
  match q.1, b.1 with
  | none, none => (.failure, none, s')
  | none, some rxBuf => (.failure, none, s'.setChan ch (enqueueBusyRxBuf rxBuf true b.2))
  | some phlRx, none => (.failure, none, phlReleasePhlRx phlRx s')
  | some phlRx, some rxBuf =>
    let phlRx := { phlRx with rxbufPtr := some rxBuf }
    if o.rdy = false ∧ rxtag98d = false then
      (.failure, none, phlReleasePhlRx phlRx (s'.setChan ch (enqueueBusyRxBuf rxBuf true b.2)))
    else if o.rdy = false ∨ o.info = false ∨ o.parse = false then
      (.frameDrop, none, phlRecycleRxBuf { phlRx with dmaCh := ch } s')
    else (.success, some phlRx, s')

/-- `phl_rx_process_pcie`: a frame is handed on, anything else is used up here. -/
def phlRxProcessPcie (o : RxOutcome) (phlRx : PhlRxPkt) (s : RxSys) : RxSys :=
  match o.type with
  | .wifi => { s with inUse := s.inUse ++ [phlRx] }
  | .txWpReleaseHost | .ppduStatus | .c2h | .unsupported => phlRecycleRxBuf phlRx s

def returnAll (is : List ℕ) (s : RxSys) : RxSys := is.foldl (fun s i => rtwPhlReturnRxbuf i s) s

def rxLoop (rxtag98d : Bool) (ch : ℕ) (o : ℕ → RxOutcome) : ℕ → ℕ → RxSys → ℕ × RxSys
  | 0, i, s => (i, s)
  | left + 1, i, s =>
    match phlGetSingleRx rxtag98d ch (o i) s with
    | (.frameDrop, _, s) => rxLoop rxtag98d ch o left (i + 1) (returnAll (o i).returns s)
    | (_, none, s) => (i, s)
    | (_, some phlRx, s) =>
      rxLoop rxtag98d ch o left (i + 1)
        (returnAll (o i).returns (phlRxProcessPcie (o i) { phlRx with dmaCh := ch } s))

structure RxIo where
  rxcnt : ℕ
  outcome : ℕ → RxOutcome

def phlRxPcieCh (rxtag98d : Bool) (rxbdNum ch : ℕ) (io : RxIo) (s : RxSys) : RxSys :=
  if (s.chans ch).idle.cnt = 0 then s
  else if io.rxcnt = 0 then s
  else
    let res := rxLoop rxtag98d ch io.outcome (min io.rxcnt (s.chans ch).idle.cnt) 0 s
    res.2.setChan ch (phlRefillRxbd rxbdNum res.1 (res.2.chans ch))

def phlRxPcie (rxtag98d : Bool) (rxbdNum total : ℕ) (io : ℕ → RxIo) (s : RxSys) : RxSys :=
  (List.range total).foldl (fun s ch => phlRxPcieCh rxtag98d rxbdNum ch (io ch) s) s

def phlResetRxbd : RxChan := { c with rxbd := fun _ => none, hostIdx := 0, mapped := [] }

def phlUpdateDefaultRxBd (rxbdNum total : ℕ) (s : RxSys) : RxSys :=
  (List.range total).foldl
    (fun s ch => s.setChan ch (phlRefillRxbd rxbdNum rxbdNum (s.chans ch))) s

def phlRxResetPcie (rxbdNum total : ℕ) (s : RxSys) : RxSys :=
  phlUpdateDefaultRxBd rxbdNum total <|
    (List.range total).foldl
      (fun s ch =>
        let c := phlResetRxbd (s.chans ch)
        s.setChan ch (phlReleaseBusyRxBuf c.busy.cnt c)) s

inductive RxBufEvent where
  | poll (io : ℕ → RxIo)
  | ret (i : ℕ)
  | reset

def rxBufStep (rxtag98d : Bool) (rxbdNum total : ℕ) (s : RxSys) : RxBufEvent → RxSys
  | .poll io => phlRxPcie rxtag98d rxbdNum total io s
  | .ret i => rtwPhlReturnRxbuf i s
  | .reset => phlRxResetPcie rxbdNum total s

def rxBufInit (rxbdNum total : ℕ) (bufs : ℕ → List ℕ) (pkts : List ℕ) : RxSys :=
  phlUpdateDefaultRxBd rxbdNum total
    { chans := fun ch => ⟨⟨bufs ch, (bufs ch).length⟩, ⟨[], 0⟩, 0, fun _ => none, []⟩
      pktIdle := ⟨pkts.map fun i => ⟨i, none, 0⟩, pkts.length⟩
      inUse := [] }

end Rtl8852be

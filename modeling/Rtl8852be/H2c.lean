import Rtl8852be.WdRing

/-!
# Commands to the firmware

A command for the firmware is taken from the idle list of its type, gets a descriptor, and is busy
until the hardware has passed it; then it waits in a work ring before it is idle again.
-/

namespace Rtl8852be

inductive H2cType where
  | cmd
  | data
  | longData
  deriving DecidableEq

structure H2cPkt where
  addr : ℕ
  type : H2cType
  dataLen : ℕ
  hostIdx : ℕ
  deriving DecidableEq

structure H2cWork where
  ring : List H2cPkt
  idx : ℕ

structure H2cChan where
  bd : TxBaseDesc
  busy : CntQueue H2cPkt
  idle : H2cType → CntQueue H2cPkt
  work : H2cType → H2cWork

def phlQueryIdleH2cPkt (type : H2cType) (c : H2cChan) : Option H2cPkt × H2cChan :=
  ((c.idle type).items.head?,
    { c with idle := Function.update c.idle type (c.idle type).dropFirst })

variable (pkt : H2cPkt) (c : H2cChan)

def phlEnqueueBusyH2cPkt : H2cChan := { c with busy := c.busy.pushTail pkt }

def phlEnqueueIdleH2cPkt : H2cChan :=
  { c with
    idle := Function.update c.idle pkt.type
      ((c.idle pkt.type).pushTail { pkt with dataLen := 0, hostIdx := 0 }) }

def enqueueH2cWorkRing : H2cChan :=
  let w := c.work pkt.type
  let c' := { c with
    work := Function.update c.work pkt.type ⟨w.ring.set w.idx pkt, (w.idx + 1) % w.ring.length⟩ }
  match w.ring[w.idx]? with
  | none => c'
  | some workDoneH2c => phlEnqueueIdleH2cPkt workDoneH2c c'

def releaseBusyH2cLoop : ℕ → PhlStatus → H2cChan → PhlStatus × H2cChan
  | 0, pstatus, c => (pstatus, c)
  | releaseNum + 1, pstatus, c =>
    match c.busy.items with
    | [] => (pstatus, c)
    | pkt :: _ =>
      releaseBusyH2cLoop releaseNum .success
        (enqueueH2cWorkRing pkt { c with busy := c.busy.dropFirst })

def phlReleaseBusyH2cPkt (releaseNum : ℕ) (c : H2cChan) : PhlStatus × H2cChan :=
  releaseBusyH2cLoop releaseNum .failure c

def releaseDoneH2c (bndy hwIdx : ℕ) (c : H2cChan) : PhlStatus × H2cChan :=
  match c.busy.items with
  | [] => (.failure, c)
  | pkt :: _ => phlReleaseBusyH2cPkt (busyReleaseNum bndy hwIdx pkt.hostIdx) c

def phlHandleBusyH2c (bndy hwIdx : ℕ) (c : H2cChan) : PhlStatus × H2cChan :=
  if c.busy.items = [] then (.success, c)
  else if bndy - 1 < c.busy.cnt then
    match phlReleaseBusyH2cPkt (c.busy.cnt - (bndy - 1)) c with
    | (.success, c) => releaseDoneH2c bndy hwIdx c
    | res => res
  else releaseDoneH2c bndy hwIdx c

def phlRecycleBusyH2c (txbdNum : ℕ) (c : H2cChan) : PhlStatus × H2cChan :=
  phlHandleBusyH2c txbdNum (halGetAvailTxbd txbdNum c.bd).2 c

/-- `phl_pltfm_tx_pcie`. The packet is described by a WD page that is otherwise zero. -/
def phlPltfmTxPcie (txbdNum : ℕ) (pkt : H2cPkt) (c : H2cChan) : PhlStatus × H2cChan :=
  let wd : WdPage Unit := ⟨pkt.addr, pkt.dataLen, true, 0, none⟩
  let u := halUpdateTxbd txbdNum 1 wd c.bd
  let c := phlEnqueueBusyH2cPkt { pkt with hostIdx := u.1.hostIdx } { c with bd := u.2 }
  (.success, { c with bd := halTriggerTxdma c.bd })

inductive H2cEvent where
  | tx (type : H2cType) (dataLen : ℕ)
  | recycle
  | hw (k : ℕ)

def h2cSend (txbdNum : ℕ) (type : H2cType) (dataLen : ℕ) (c : H2cChan) : H2cChan :=
  match phlQueryIdleH2cPkt type c with
  | (none, _) => c
  | (some pkt, c) => (phlPltfmTxPcie txbdNum { pkt with dataLen := dataLen } c).2

def h2cStep (txbdNum : ℕ) (c : H2cChan) : H2cEvent → H2cChan
  | .tx type dataLen => h2cSend txbdNum type dataLen c
  | .recycle => (phlRecycleBusyH2c txbdNum c).2
  | .hw k => { c with bd := hwAdvance txbdNum k c.bd }

def h2cInit (pool work : H2cType → List ℕ) : H2cChan where
  bd := txBaseDescInit
  busy := ⟨[], 0⟩
  idle type := ⟨(pool type).map fun a => ⟨a, type, 0, 0⟩, (pool type).length⟩
  work type := ⟨(work type).map fun a => ⟨a, type, 0, 0⟩, 0⟩

end Rtl8852be

import Rtl8852be.Basic
import Rtl8852be.Reorder

/-!
# Block-ack control frames

An ADDBA request opens a receive session of a station, a DELBA closes it, and a BlockAckReq moves
its head. The model logs the indices used on the `tid_rx` of one station.
-/

namespace Rtl8852be

def tidMaxNum : ℕ := 8

def phlMaxAggWsize : ℕ := 32

def rxAmpduSizeInvalid : ℕ := 0xFF

structure RecvReorderCtrl where
  enable : Bool
  ampduSize : ℕ
  indicateSeq : ℕ
  recAbbaRspAck : Bool

/-- A station. Behind its `tidMaxNum` sessions `tidRx` is the memory that follows them. -/
structure BaSta (α : Type*) where
  tidRx : ℕ → Option (RxCtx α)
  recvreorderCtrl : ℕ → RecvReorderCtrl
  used : List ℕ

variable {α : Type*}

namespace BaSta

def useTidRx (tid : ℕ) (s : BaSta α) : BaSta α := { s with used := s.used ++ [tid] }

def setTidRx (tid : ℕ) (r : Option (RxCtx α)) (s : BaSta α) : BaSta α :=
  { s with tidRx := Function.update s.tidRx tid r }

def setReorderCtrl (tid : ℕ) (f : RecvReorderCtrl → RecvReorderCtrl) (s : BaSta α) : BaSta α :=
  { s with recvreorderCtrl := Function.update s.recvreorderCtrl tid (f (s.recvreorderCtrl tid)) }

end BaSta

def rtwPhlStartRxBaSession (alloc : Bool) (startSeqNum baPolicy tid bufSize : ℕ) (s : BaSta α) :
    PhlStatus × BaSta α :=
  if baPolicy ≠ 0 then (.failure, s)
  else
    let bufSize := if bufSize = 0 then phlMaxAggWsize else bufSize
    if alloc then
      (.success, (s.useTidRx tid).setTidRx tid (some (phlTidAmpduRxAlloc startSeqNum bufSize)))
    else (.resource, s)

def rtwPhlStopRxBaSession (tid : ℕ) (s : BaSta α) : BaSta α :=
  if tidMaxNum ≤ tid then s
  else
    let s := s.useTidRx tid
    match s.tidRx tid with
    | none => s
    | some _ => s.setTidRx tid none

def rtwPhlRxBarSta (tid seq : ℕ) (s : BaSta α) : BaSta α :=
  let s := s.useTidRx tid
  match s.tidRx tid with
  | none => s
  | some r => s.setTidRx tid (some (rtwPhlRxBar seq r))

structure AddBaRspParm where
  tid : ℕ
  startSeq : ℕ
  status : ℕ
  size : ℕ
  deriving DecidableEq

inductive BaCmd where
  | addBaRsp (parm : AddBaRspParm)
  | delBa (tid : ℕ)
  deriving DecidableEq

/-- Whether the station is still known, and whether there is memory for a session. -/
structure BaCmdEnv where
  known : Bool
  alloc : Bool

def addBaRspHdl (env : BaCmdEnv) (parm : AddBaRspParm) (s : BaSta α) : BaSta α :=
  if env.known then
    let s :=
      if parm.status = 0 then
        (rtwPhlStartRxBaSession env.alloc parm.startSeq 0 parm.tid parm.size s).2
      else s
    s.setReorderCtrl parm.tid fun c =>
      let c := { c with recAbbaRspAck := true }
      if parm.status = 0 then { c with enable := true, ampduSize := parm.size }
      else if parm.status = 37 then { c with enable := false }
      else c
  else s

def delbaHdl (env : BaCmdEnv) (tid : ℕ) (s : BaSta α) : BaSta α :=
  if env.known then rtwPhlStopRxBaSession tid s else s

def baCmdHdl (env : BaCmdEnv) : BaCmd → BaSta α → BaSta α
  | .addBaRsp parm => addBaRspHdl env parm
  | .delBa tid => delbaHdl env tid

/-- What `OnAction_back` finds besides the frame; `size` is the window `process_addba_req` picks. -/
structure BaActionEnv where
  raMatches : Bool
  fwApState : Bool
  assocSuccess : Bool
  known : Bool
  htEnable : Bool
  accept : Bool
  size : ℕ
  queued : Bool

def getLe16 (bytes : ℕ → UInt8) (i : ℕ) : ℕ := (bytes i).toNat + 256 * (bytes (i + 1)).toNat

structure AddbaRequest where
  dialogToken : ℕ
  baParaSet : ℕ
  baTimeoutValue : ℕ
  baStartingSeqctrl : ℕ

def AddbaRequest.ofBytes (bytes : ℕ → UInt8) : AddbaRequest where
  dialogToken := (bytes 0).toNat
  baParaSet := getLe16 bytes 1
  baTimeoutValue := getLe16 bytes 3
  baStartingSeqctrl := getLe16 bytes 5

variable (env : BaActionEnv)

def processAddbaReq (req : AddbaRequest) : Option BaCmd :=
  if env.known ∧ env.queued then
    some (.addBaRsp
      { tid := req.baParaSet / 4 % 16
        startSeq := req.baStartingSeqctrl / 16
        status := if env.accept then 0 else 37
        size := env.size })
  else none

def recvDelba (tid : ℕ) (s : BaSta α) : BaSta α × Option BaCmd :=
  (s.setReorderCtrl tid fun c => { c with enable := false, ampduSize := rxAmpduSizeInvalid },
    if env.queued then some (.delBa tid) else none)

/-- `OnAction_back` on the bytes from the frame body on, with the command it queues. -/
def onActionBack (frameBody : ℕ → UInt8) (s : BaSta α) : BaSta α × Option BaCmd :=
  if env.raMatches ∧ (env.fwApState ∨ env.assocSuccess) ∧ env.known ∧ frameBody 0 = 3
      ∧ env.htEnable then
    if frameBody 1 = 0 then
      (s, processAddbaReq env (.ofBytes fun i => frameBody (i + 2)))
    else if frameBody 1 = 2 ∧ (frameBody 3).toNat / 8 % 2 = 1 then
      recvDelba env ((frameBody 3).toNat / 16 % 16) s
    else (s, none)
  else (s, none)

def rtwProcessBarFrame (known : Bool) (pframe : ℕ → UInt8) (s : BaSta α) : BaSta α :=
  if known then
    let tid := getLe16 pframe 16 / 4096
    let startSeq := getLe16 pframe 18 / 16
    rtwPhlRxBarSta tid startSeq
      (s.setReorderCtrl tid fun c => { c with indicateSeq := startSeq })
  else s

structure BaSys (α : Type*) where
  sta : BaSta α
  cmdq : List BaCmd

inductive BaEvent where
  | action (env : BaActionEnv) (frameBody : ℕ → UInt8)
  | bar (known : Bool) (pframe : ℕ → UInt8)
  | cmd (env : BaCmdEnv)

def baStep (s : BaSys α) : BaEvent → BaSys α
  | .action env frameBody =>
    let (sta, cmd) := onActionBack env frameBody s.sta
    { s with sta := sta, cmdq := s.cmdq ++ cmd.toList }
  | .bar known pframe => { s with sta := rtwProcessBarFrame known pframe s.sta }
  | .cmd env =>
    match s.cmdq with
    | [] => s
    | c :: cmdq => { sta := baCmdHdl env c s.sta, cmdq := cmdq }

end Rtl8852be

import Rtl8852be.Basic
import Rtl8852be.Lib.Run
import Rtl8852be.Lib.Table

/-!
# Notice-of-absence descriptors

A request records the descriptor of its kind and, unless the role is paused, enables it in the
firmware under an id. Pausing disables what the firmware has, and resuming enables what is recorded.
-/

namespace Rtl8852be

def noaidNone : ℕ := 0xFF

inductive P2ppsTrigTag where
  | go
  | gc
  | gc255
  | mcc
  | scc2g1ap1staBt
  deriving DecidableEq

/-- The tags in the order of `noa_desc`. -/
def P2ppsTrigTag.all : List P2ppsTrigTag := [.go, .gc, .gc255, .mcc, .scc2g1ap1staBt]

structure NoaDesc where
  enable : Bool
  tag : P2ppsTrigTag
  count : ℕ
  noaId : ℕ

/-- `struct rtw_phl_noa_info`, and the ids under which the firmware has descriptors enabled. -/
structure NoaInfo where
  paused : Bool
  enDescNum : ℕ
  noaDesc : P2ppsTrigTag → NoaDesc
  fw : P2ppsTrigTag → Option ℕ

/-- The outcomes of what is called, and `_phl_p2pps_query_mcc_inprog_wkard`. -/
structure NoaEnv where
  halEnable : P2ppsTrigTag → PhlStatus
  halDisable : P2ppsTrigTag → Bool
  mccInprog : Bool

variable (env : NoaEnv) (t : P2ppsTrigTag)

namespace NoaInfo

@[simp] def setDesc (d : NoaDesc) (s : NoaInfo) : NoaInfo :=
  { s with noaDesc := Function.update s.noaDesc t d }

def setFw (id : Option ℕ) (s : NoaInfo) : NoaInfo := { s with fw := Function.update s.fw t id }

end NoaInfo

def noaDescZero : NoaDesc := ⟨false, .go, 0, 0⟩

variable (s : NoaInfo)

def clearNoaDesc : NoaInfo := s.setDesc t noaDescZero

def noaShouldActivate (d : NoaDesc) : Bool :=
  if d.tag = .mcc then false
  else if d.count ≠ 255 ∧ env.mccInprog then false
  else true

def noaAssignNoaid : ℕ :=
  if s.enDescNum = 0 then 0
  else
    let max := (P2ppsTrigTag.all.map fun t => (s.noaDesc t).noaId).foldl
      (fun max id => if id = noaidNone then max else if max < id then id else max) 0
    if max ≠ 0 then (max + 1) % 2 ^ 8 else 0

def noaDisable (clearDesc : Bool) (s : NoaInfo) : PhlStatus × NoaInfo :=
  if s.paused ∧ clearDesc then (.success, clearNoaDesc t s)
  else if (s.noaDesc t).noaId ≠ noaidNone ∧ (s.noaDesc t).enable then
    if env.halDisable t then
      let s := { s.setFw t none with enDescNum := s.enDescNum - 1 }
      (.success, if clearDesc then clearNoaDesc t s else s)
    else (.failure, s)
  else (.success, if clearDesc then clearNoaDesc t s else s)

def noaEnable (inDesc : NoaDesc) (s : NoaInfo) : PhlStatus × NoaInfo :=
  let s := s.setDesc t inDesc
  if s.paused then (.success, s)
  else if noaShouldActivate env inDesc then
    let id := noaAssignNoaid s
    match env.halEnable t with
    | .success =>
      (.success, { (s.setDesc t { inDesc with noaId := id }).setFw t (some id) with
        enDescNum := s.enDescNum + 1 })
    | .resource => (.resource, s.setDesc t { inDesc with noaId := noaidNone })
    | _ => (.failure, s.setDesc t { inDesc with noaId := noaidNone })
  else (.success, s.setDesc t { inDesc with noaId := noaidNone })

def noaDisableAll : NoaInfo :=
  { P2ppsTrigTag.all.foldl (fun s t =>
      if (s.noaDesc t).enable then (noaDisable env t true s).2 else s) s with paused := false }

def noaResumeAll : NoaInfo :=
  if !s.paused then s
  else P2ppsTrigTag.all.foldl (fun s t =>
    if (s.noaDesc t).enable then (noaEnable env t (s.noaDesc t) s).2 else s)
    { s with paused := false }

def noaPauseAll : NoaInfo :=
  if s.paused then s
  else P2ppsTrigTag.all.foldl (fun s t => (noaDisable env t false s).2) { s with paused := true }

def noaUpdate (inDesc : NoaDesc) (s : NoaInfo) : PhlStatus × NoaInfo :=
  if inDesc.enable then noaEnable env inDesc.tag inDesc (noaDisable env inDesc.tag true s).2
  else noaDisable env inDesc.tag true s

inductive NoaEv where
  | update (env : NoaEnv) (inDesc : NoaDesc)
  | pauseAll (env : NoaEnv)
  | resumeAll (env : NoaEnv)
  | disableAll (env : NoaEnv)

def noaStep : NoaEv → NoaInfo
  | .update env inDesc => (noaUpdate env inDesc s).2
  | .pauseAll env => noaPauseAll env s
  | .resumeAll env => noaResumeAll env s
  | .disableAll env => noaDisableAll env s

/-- A time in two halves, the high one first. -/
def noaTime (t : UInt32 × UInt32) : ℕ := 2 ^ 32 * t.1.toNat + t.2.toNat

/-- `_phl_p2pps_calc_next_noa_s_time`, in 64 bits. -/
def calcNextNoaSTime (startT tsf : UInt32 × UInt32) (interval : ℕ) : UInt32 × UInt32 :=
  let deltaT := (2 ^ 64 + noaTime tsf - noaTime startT) % 2 ^ 64
  let intvCnt := deltaT / interval + 1
  let newSt := (noaTime startT + intvCnt * interval) % 2 ^ 64
  (UInt32.ofNat (newSt / 2 ^ 32), UInt32.ofNat newSt)

def noaInfoInit : NoaInfo := ⟨false, 0, fun _ => noaDescZero, fun _ => none⟩

end Rtl8852be

import Rtl8852be.Basic
import Rtl8852be.Lib.BitMap
import Rtl8852be.Lib.CntQueue
import Rtl8852be.Lib.Run

/-!
# Stations and macids

A station of the pool is free or associated to a role, and then it has a macid: an index into a
table of stations, with a bit in the maps of used macids, of its role and, for the one that stands
for broadcast, in a third map.
-/

namespace Rtl8852be

open Function BitMap

abbrev MacAddr := BitVec 48

def bcAddr : MacAddr := BitVec.allOnes 48

inductive RoleType where
  | none
  | station
  | ap
  | vap
  | adhoc
  | adhocMaster
  | mesh
  | monitor
  | p2pDevice
  | p2pGc
  | p2pGo
  | tdls
  | nan
  deriving DecidableEq

structure WifiRole where
  type : RoleType
  macAddr : MacAddr

structure PhlStainfo (roles : ℕ) where
  macAddr : MacAddr
  wrole : Option (Fin roles)
  macid : ℕ
  active : Bool

/-- `struct macid_ctl_t` and the queues of stations, and whether each was allocated with the
broadcast address. -/
structure StaCtl (roles : ℕ) where
  stainfo : ℕ → PhlStainfo roles
  freeStaQueue : CntQueue ℕ
  assocStaQueue : Fin roles → CntQueue ℕ
  usedMap : BitMap.Words
  wifiRoleUsedmap : Fin roles → BitMap.Words
  bmcMap : BitMap.Words
  sta : ℕ → Option ℕ
  wroleBmc : Fin roles → ℕ
  allocBmc : ℕ → Bool

variable {roles : ℕ} (wrole : Fin roles → WifiRole) (maxNum : ℕ)

variable (s : StaCtl roles) (r : Fin roles)

namespace StaCtl

@[simp] def setSta (i : ℕ) (sta : PhlStainfo roles) : StaCtl roles :=
  { s with stainfo := update s.stainfo i sta }

def setAssoc (q : CntQueue ℕ) : StaCtl roles :=
  { s with assocStaQueue := update s.assocStaQueue r q }

@[simp] def setFree (q : CntQueue ℕ) : StaCtl roles := { s with freeStaQueue := q }

end StaCtl

def StaCtl.setMacid (i mid : ℕ) : StaCtl roles :=
  let bmcSta : Bool := (s.stainfo i).macAddr = bcAddr
  { s with
    usedMap := set s.usedMap mid
    wifiRoleUsedmap := update s.wifiRoleUsedmap r (set (s.wifiRoleUsedmap r) mid)
    sta := update s.sta mid (some i)
    bmcMap := if bmcSta then set s.bmcMap mid else s.bmcMap
    wroleBmc := if bmcSta then update s.wroleBmc r mid else s.wroleBmc
    stainfo := update s.stainfo i { s.stainfo i with macid := mid } }

@[simp] def StaCtl.clrMacid (i : ℕ) : StaCtl roles :=
  let mid := (s.stainfo i).macid
  { s with
    usedMap := clr s.usedMap mid
    wifiRoleUsedmap := update s.wifiRoleUsedmap r (clr (s.wifiRoleUsedmap r) mid)
    sta := update s.sta mid none
    bmcMap := if (s.stainfo i).macAddr = bcAddr then clr s.bmcMap mid else s.bmcMap }

/-- `_phl_alloc_macid`: the first macid that is not used. -/
def phlAllocMacid (i : ℕ) (s : StaCtl roles) : PhlStatus × StaCtl roles :=
  match (s.stainfo i).wrole with
  | none => (.failure, s)
  | some r =>
    match (List.range maxNum).find? fun mid => !test s.usedMap mid with
    | none => (.failure, s.setSta i { s.stainfo i with macid := maxNum })
    | some mid => (.success, s.setMacid r i mid)

/-- `_phl_release_macid`. The station's macid is invalid afterwards in any case. -/
def phlReleaseMacid (i : ℕ) (s : StaCtl roles) : PhlStatus × StaCtl roles :=
  let sta := { s.stainfo i with macid := maxNum }
  match (s.stainfo i).wrole with
  | none => (.failure, s.setSta i sta)
  | some r =>
    if maxNum ≤ (s.stainfo i).macid then (.failure, s.setSta i sta)
    else if test s.usedMap (s.stainfo i).macid = false then (.failure, s.setSta i sta)
    else (.success, (s.clrMacid r i).setSta i sta)

def phlStainfoEnqueueFree (i : ℕ) (s : StaCtl roles) : StaCtl roles :=
  s.setFree (s.freeStaQueue.pushTail i)

def phlStainfoEnqueueAssoc (i : ℕ) (s : StaCtl roles) : StaCtl roles :=
  s.setAssoc r ((s.assocStaQueue r).pushTail i)

def phlStainfoQueueDel (i : ℕ) (s : StaCtl roles) : StaCtl roles :=
  let q := s.assocStaQueue r
  if q.cnt = 0 then s else s.setAssoc r (q.erase i)

/-- `_phl_self_stainfo_chk`, which for a client role writes the role's address to the station. -/
def phlSelfStainfoChk (role : WifiRole) (sta : PhlStainfo roles) : Bool × PhlStainfo roles :=
  match role.type with
  | .station | .p2pGc => (true, { sta with macAddr := role.macAddr })
  | .ap | .mesh | .p2pGo | .tdls => (role.macAddr = sta.macAddr, sta)
  | .none | .vap | .adhoc | .adhocMaster | .monitor | .p2pDevice | .nan => (false, sta)

def rtwPhlGetStainfoByAddr (addr : MacAddr) (s : StaCtl roles) : Option ℕ :=
  if addr = bcAddr then
    if maxNum ≤ s.wroleBmc r then none else s.sta (s.wroleBmc r)
  else (s.assocStaQueue r).items.find? fun i => (s.stainfo i).macAddr = addr

def rtwPhlGetStainfoSelf (s : StaCtl roles) : Option ℕ := (s.assocStaQueue r).items.head?

/-- `_phl_free_stainfo_sw`. -/
def phlFreeStainfoSw (i : ℕ) (s : StaCtl roles) : StaCtl roles := (phlReleaseMacid maxNum i s).2

def phlFreeStainfoHw (i : ℕ) (s : StaCtl roles) : StaCtl roles :=
  s.setSta i { s.stainfo i with active := false }

/-- The check of `__phl_free_stainfo_hw` and `__phl_free_stainfo_sw`: the station of the role itself
is not freed. -/
def phlKeepsSelf (i : ℕ) (s : StaCtl roles) : Bool × StaCtl roles :=
  if (s.stainfo i).macAddr = bcAddr then (false, s)
  else
    let chk := phlSelfStainfoChk (wrole r) (s.stainfo i)
    (chk.1, s.setSta i chk.2)

/-- `__phl_free_stainfo_sw`. -/
def phlFreeStainfoSwChk (i : ℕ) (s : StaCtl roles) : StaCtl roles :=
  match (s.stainfo i).wrole with
  | none => s
  | some r =>
    match phlKeepsSelf wrole r i s with
    | (true, s) => s
    | (false, s) =>
      phlStainfoEnqueueFree i (phlFreeStainfoSw maxNum i (phlStainfoQueueDel r i s))

/-- `__phl_free_stainfo_hw`. -/
def phlFreeStainfoHwChk (i : ℕ) (s : StaCtl roles) : StaCtl roles :=
  match (s.stainfo i).wrole with
  | none => s
  | some r =>
    match phlKeepsSelf wrole r i s with
    | (true, s) => s
    | (false, s) => phlFreeStainfoHw i s

def phlFreeStainfo (i : ℕ) (s : StaCtl roles) : StaCtl roles :=
  phlFreeStainfoSwChk wrole maxNum i (phlFreeStainfoHwChk wrole i s)

/-- `phl_wifi_role_free_stainfo`, as many times as the queue is long. -/
def phlWifiRoleFreeStainfoLoop : ℕ → StaCtl roles → StaCtl roles
  | 0, s => s
  | left + 1, s =>
    match (s.assocStaQueue r).items with
    | [] => s
    | i :: _ =>
      phlWifiRoleFreeStainfoLoop left
        (phlStainfoEnqueueFree i (phlFreeStainfoSw maxNum i
            (phlFreeStainfoHw i (s.setAssoc r (s.assocStaQueue r).dropFirst))))

def phlWifiRoleFreeStainfo (s : StaCtl roles) : StaCtl roles :=
  phlWifiRoleFreeStainfoLoop maxNum r (s.assocStaQueue r).items.length s

structure StaIo where
  txRing : Bool
  hal : Bool

variable (io : StaIo)

/-- `_phl_alloc_stainfo_sw`. When the ring cannot be registered, the macid is released and the
status is still that of the macid. -/
def phlAllocStainfoSwMacid (i : ℕ) (s : StaCtl roles) : PhlStatus × StaCtl roles :=
  match phlAllocMacid maxNum i s with
  | (.success, s) => (.success, if io.txRing then s else (phlReleaseMacid maxNum i s).2)
  | (_, s) => (.failure, s)

def StaCtl.takeFree (i : ℕ) (addr : MacAddr) (r : Fin roles) : StaCtl roles :=
  (s.setFree s.freeStaQueue.dropFirst).setSta i
    { s.stainfo i with macAddr := addr, wrole := some r }

def phlAllocStainfoNew (addr : MacAddr) (r : Fin roles) (s : StaCtl roles) : Option ℕ × StaCtl
    roles :=
  match s.freeStaQueue.items with
  | [] => (none, s)
  | i :: _ =>
    match phlAllocStainfoSwMacid maxNum io i (s.takeFree i addr r) with
    | (.success, s) =>
      let s := phlStainfoEnqueueAssoc r i s
      let s := s.setSta i (phlSelfStainfoChk (wrole r) (s.stainfo i)).2
      (some i, { s with allocBmc := update s.allocBmc i (addr = bcAddr) })
    | (_, s) => (none, phlStainfoEnqueueFree i s)

/-- A station role has one station, which gets the new address. -/
def phlAllocStainfoSw (addr : MacAddr) (r : Fin roles) (s : StaCtl roles) : Option ℕ × StaCtl
    roles :=
  match (if (wrole r).type = .station ∧ addr ≠ bcAddr then rtwPhlGetStainfoSelf r s else none) with
  | some i => (some i, s.setSta i { s.stainfo i with macAddr := addr })
  | none =>
    match rtwPhlGetStainfoByAddr maxNum r addr s with
    | some i => (some i, s)
    | none => phlAllocStainfoNew wrole maxNum io addr r s

def phlAllocStainfo (addr : MacAddr) (r : Fin roles) (s : StaCtl roles) : Option ℕ × StaCtl roles :=
  match phlAllocStainfoSw wrole maxNum io addr r s with
  | (none, s) => (none, s)
  | (some i, s) =>
    if (s.stainfo i).active then (some i, s)
    else if io.hal then (some i, s.setSta i { s.stainfo i with active := true })
    else (none, phlFreeStainfoSwChk wrole maxNum i s)

inductive StaEvent (roles : ℕ) where
  | allocSw (io : StaIo) (addr : MacAddr) (r : Fin roles)
  | alloc (io : StaIo) (addr : MacAddr) (r : Fin roles)
  | free (i : ℕ)
  | roleFree (r : Fin roles)

def staStep : StaEvent roles → StaCtl roles
  | .allocSw io addr r => (phlAllocStainfoSw wrole maxNum io addr r s).2
  | .alloc io addr r => (phlAllocStainfo wrole maxNum io addr r s).2
  | .free i => phlFreeStainfo wrole maxNum i s
  | .roleFree r => phlWifiRoleFreeStainfo maxNum r s

@[simp] def staInit (num : ℕ) : StaCtl roles where
  stainfo := fun _ => ⟨0, none, 0, false⟩
  freeStaQueue := ⟨List.range num, num⟩
  assocStaQueue := fun _ => ⟨[], 0⟩
  usedMap := empty
  wifiRoleUsedmap := fun _ => empty
  bmcMap := empty
  sta := fun _ => none
  wroleBmc := fun _ => maxNum
  allocBmc := fun _ => false

end Rtl8852be

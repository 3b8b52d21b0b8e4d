import Rtl8852be.Sta
import Rtl8852be.Lib.Buckets

/-!
# The station table of the core layer

An object of the core layer is free, or in the chain that the hash of its address selects. Its
address is read through the PHL part of the station, which is allocated and freed apart from it.
-/

namespace Rtl8852be

open Function

def numSta : ℕ := 32

variable (mac : MacAddr)

def macByte (i : ℕ) : BitVec 8 := mac.extractLsb' (8 * (5 - i)) 8

def isMcast : Bool := (macByte mac 0).getLsbD 0

def wifiMacHash : ℕ :=
  let x : BitVec 32 := (macByte mac 0).setWidth 32
  let x := (x <<< 2) ^^^ (macByte mac 1).setWidth 32
  let x := (x <<< 2) ^^^ (macByte mac 2).setWidth 32
  let x := (x <<< 2) ^^^ (macByte mac 3).setWidth 32
  let x := (x <<< 2) ^^^ (macByte mac 4).setWidth 32
  let x := (x <<< 2) ^^^ (macByte mac 5).setWidth 32
  let x := x ^^^ (x >>> 8)
  x.toNat &&& (numSta - 1)

/-- The switch on the role's type: the roles with one peer keep every station in their own chain. -/
def staHashIndex (role : WifiRole) (hwaddr : MacAddr) : ℕ :=
  match role.type with
  | .none | .station | .adhoc | .p2pDevice | .p2pGc => wifiMacHash role.macAddr
  | .ap | .vap | .adhocMaster | .mesh | .monitor | .p2pGo | .tdls | .nan => wifiMacHash hwaddr

/-- `struct sta_priv` with the `phl_sta` of its objects, and the role's stations in the PHL.
`allocFor` has the address of each object that was returned and not freed since. -/
structure StaPriv where
  freeStaQueue : List ℕ
  staHash : ℕ → List ℕ
  asocStaCount : ℤ
  phlSta : ℕ → Option ℕ
  macAddr : ℕ → MacAddr
  assocStaQueue : List ℕ
  allocFor : ℕ → Option MacAddr

namespace StaPriv

variable (s : StaPriv)

def chained (s : StaPriv) : List ℕ := Buckets.chained numSta s.staHash

def take (psta : ℕ) (rest : List ℕ) : StaPriv :=
  { s with freeStaQueue := rest, phlSta := update s.phlSta psta none }

def link (index psta : ℕ) (hwaddr : MacAddr) : StaPriv :=
  { s with
    staHash := Buckets.push s.staHash index psta
    asocStaCount := s.asocStaCount + 1
    allocFor := update s.allocFor psta (some hwaddr) }

def unlink (s : StaPriv) (psta : ℕ) : StaPriv := { s with staHash := Buckets.unlink s.staHash psta }

def release (psta : ℕ) : StaPriv :=
  { s with
    asocStaCount := s.asocStaCount - 1
    freeStaQueue := s.freeStaQueue ++ [psta]
    allocFor := update s.allocFor psta none }

@[simp] def setPhlSta (psta : ℕ) (sta : Option ℕ) : StaPriv :=
  { s with phlSta := update s.phlSta psta sta }

def setMacAddr (sta : ℕ) (mac : MacAddr) : StaPriv := { s with macAddr := update s.macAddr sta mac }

def setAssoc (q : List ℕ) : StaPriv := { s with assocStaQueue := q }

end StaPriv

@[simp] def staPrivInit : StaPriv where
  freeStaQueue := List.range numSta
  staHash := fun _ => []
  asocStaCount := 0
  phlSta := fun _ => none
  macAddr := fun _ => 0
  assocStaQueue := []
  allocFor := fun _ => none

variable (role : WifiRole)

/-! ## The PHL's part

What the PHL layer does to the role's queue. Whether it has a station to give, a macid and an entry
of the hardware for it, and whether it can free one, is up to the PHL. -/

def phlFindStainfo (addr : MacAddr) (s : StaPriv) : Option ℕ :=
  if role.type = .station ∧ s.assocStaQueue ≠ [] then s.assocStaQueue.head?
  else s.assocStaQueue.find? fun sta => s.macAddr sta = addr

/-- `__phl_alloc_stainfo`, where `phl` is the station of the PHL's pool that is fully set up, if
there is one. -/
def phlAllocRoleSta (addr : MacAddr) (phl : Option ℕ) (s : StaPriv) : Option ℕ × StaPriv :=
  match phlFindStainfo role addr s, phl with
  | some sta, _ => (some sta, s.setMacAddr sta addr)
  | none, some sta =>
    (some sta, (s.setMacAddr sta addr).setAssoc (s.assocStaQueue ++ [sta]))
  | none, none => (none, s)

def phlSelfRoleSta (sta : ℕ) (s : StaPriv) : Bool × StaPriv :=
  match role.type with
  | .station | .p2pGc => (true, s.setMacAddr sta role.macAddr)
  | .ap | .mesh | .p2pGo | .tdls => (role.macAddr = s.macAddr sta, s)
  | .none | .vap | .adhoc | .adhocMaster | .monitor | .p2pDevice | .nan => (false, s)

/-- `__phl_free_stainfo`. The station leaves the role's queue even if the status, `phl`, is a
failure. -/
def phlFreeRoleSta (sta : ℕ) (phl : Bool) (s : StaPriv) : Bool × StaPriv :=
  match phlSelfRoleSta role sta s with
  | (true, s) => (true, s)
  | (false, s) => (phl, s.setAssoc (s.assocStaQueue.erase sta))

variable (hwaddr : MacAddr)

def rtwAllocCoreStainfo (s : StaPriv) : Option ℕ × StaPriv :=
  match s.freeStaQueue with
  | [] => (none, s)
  | psta :: rest =>
    if numSta ≤ staHashIndex role hwaddr then (none, s.take psta rest)
    else (some psta, (s.take psta rest).link (staHashIndex role hwaddr) psta hwaddr)

/-- `_rtw_alloc_phl_stainfo`. A failure is only logged. -/
def rtwAllocPhlStainfo (psta : ℕ) (hwaddr : MacAddr) (phl : Option ℕ) (s : StaPriv) : StaPriv :=
  (phlAllocRoleSta role hwaddr phl s).2.setPhlSta psta (phlAllocRoleSta role hwaddr phl s).1

def rtwAllocStainfo (phl : Option ℕ) (s : StaPriv) : Option ℕ × StaPriv :=
  match rtwAllocCoreStainfo role hwaddr s with
  | (none, s) => (none, s)
  | (some psta, s) => (some psta, rtwAllocPhlStainfo role psta hwaddr phl s)

/-! ## Free

The result is `none` where the code reads through a null pointer. -/

/-- `_rtw_free_core_stainfo`, which reads `psta->phl_sta->aid` first. -/
def rtwFreeCoreStainfo (psta : ℕ) (s : StaPriv) : Option StaPriv :=
  if s.phlSta psta = none then none else some ((s.unlink psta).release psta)

/-- `_rtw_free_phl_stainfo`, which reads `sta->phl_sta->mac_addr` first. -/
def rtwFreePhlStainfo (psta : ℕ) (phl : Bool) (s : StaPriv) : Option StaPriv :=
  match s.phlSta psta with
  | none => none
  | some sta =>
    match phlFreeRoleSta role sta phl s with
    | (true, s) => some (s.setPhlSta psta none)
    | (false, s) => some s

def rtwFreeStainfo (psta : ℕ) (phl : Bool) (s : StaPriv) : Option StaPriv :=
  (rtwFreeCoreStainfo psta s).bind (rtwFreePhlStainfo role psta phl)

/-- The test on a station of the chain; `self` is `phl_sta_self`. A station without a PHL part is
passed over. -/
def StaPriv.hit (s : StaPriv) (self : Option ℕ) (hwaddr : MacAddr) (psta : ℕ) : Bool :=
  match s.phlSta psta with
  | none => false
  | some sta => self = some sta || s.macAddr sta = hwaddr

def rtwGetStainfo (s : StaPriv) : Option ℕ :=
  if isMcast hwaddr then
    -- `rtw_phl_get_stainfo_self`: the first station of the role's queue
    match s.assocStaQueue.head? with
    | none => none
    | some self => (s.staHash (wifiMacHash role.macAddr)).find? (s.hit (some self) hwaddr)
  else (s.staHash (staHashIndex role hwaddr)).find? (s.hit none hwaddr)

def rtwGetBcmcStainfo (s : StaPriv) : Option ℕ := rtwGetStainfo role bcAddr s

def freeAllNote (pbcmc : Option ℕ) (r : StaPriv × List ℕ) (psta : ℕ) : StaPriv × List ℕ :=
  if pbcmc = some psta then r
  else (r.1.unlink psta, if psta < numSta then r.2 ++ [psta] else r.2)

def freeAllChain (pbcmc : Option ℕ) (r : StaPriv × List ℕ) (index : ℕ) : StaPriv × List ℕ :=
  (r.1.staHash index).foldl (freeAllNote pbcmc) r

def freeAllFree (phl : ℕ → Bool) : List ℕ → StaPriv → Option StaPriv
  | [], s => some s
  | psta :: l, s => (rtwFreeStainfo role psta (phl psta) s).bind (freeAllFree phl l)

def rtwFreeAllStainfo (phl : ℕ → Bool) (s : StaPriv) : Option StaPriv :=
  if s.asocStaCount = 1 then some s
  else
    let r := (List.range numSta).foldl (freeAllChain (rtwGetBcmcStainfo role s)) (s, [])
    freeAllFree role phl r.2 r.1

inductive StaPrivEv where
  | alloc (hwaddr : MacAddr) (phl : Option ℕ)
  | free (psta : ℕ) (phl : Bool)
  | freeAll (phl : ℕ → Bool)

def staPrivStep (o : Option StaPriv) (e : StaPrivEv) : Option StaPriv :=
  o.bind fun s =>
    match e with
    | .alloc hwaddr phl => some (rtwAllocStainfo role hwaddr phl s).2
    | .free psta phl => rtwFreeStainfo role psta phl s
    | .freeAll phl => rtwFreeAllStainfo role phl s

def staPrivBoot (phl : Option ℕ) : Option StaPriv :=
  some (rtwAllocStainfo role role.macAddr phl staPrivInit).2

end Rtl8852be

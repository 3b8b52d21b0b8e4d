import Mathlib.Data.Fintype.Basic
import Rtl8852be.Basic
import Rtl8852be.Lib.Keyed

/-!
# Roles and CAMs of the MAC

`role.c` keeps a table of roles, one for each macid. A role has an entry of the address CAM of its
own and one of the BSSID CAM, which roles with the same BSSID and band share, and in seven key slots
entries of the security CAM. `mac_upd_addr_cam` works on the info that stands in the table, so its
search sees the role it is made for.
-/

namespace Rtl8852be

def macidNum : ℕ := 32

def bssidNum : ℕ := 20

def secCamEntryNum : ℕ := 0x10

def hwSupportEncTypeNum : ℕ := 0x0A

abbrev EthAddr := Fin 6 → UInt8

inductive MacSelfRole where
  | client
  | ap
  | apClient
  deriving DecidableEq

inductive MacNetType where
  | noLink
  | adhoc
  | infra
  | ap
  deriving DecidableEq

/-- `mac_ax_upd_mode`, and the values that are none of it. -/
inductive MacUpdMode where
  | create
  | remove
  | typeChange
  | infoChange
  | conDisconn
  | other
  deriving DecidableEq

inductive MacOpmode where
  | connect
  | disconn
  deriving DecidableEq

inductive AddrMskSel where
  | noMsk
  | smaMsk
  | tmaMsk
  | bssidMsk
  deriving DecidableEq

inductive MacRoleOpmode where
  | add
  | chg
  deriving DecidableEq

/-- A key slot: its bit of `sec_ent_valid`, `sec_ent_keyid` and `sec_ent`. -/
structure SecEnt where
  valid : Bool
  keyid : ℕ
  idx : ℕ

def secEntClear : SecEnt := ⟨false, 0, 0⟩

structure AddrCamInfo where
  addrCamIdx : ℕ
  valid : Bool
  addrMask : ℕ
  maskSel : AddrMskSel
  bssidCamIdx : ℕ
  secEntMode : ℕ
  secEnt : Fin 7 → SecEnt

structure BssidCamInfo where
  bssidCamIdx : ℕ
  valid : Bool
  bbSel : ℕ
  bssid : EthAddr

structure MacRoleInfo where
  selfRole : MacSelfRole
  netType : MacNetType
  updMode : MacUpdMode
  opmode : MacOpmode
  band : ℕ
  maskSel : AddrMskSel
  addrMask : ℕ
  macid : ℕ
  wmm : ℕ
  selfMac : EthAddr
  targetMac : EthAddr
  bssid : EthAddr
  isMulEnt : Bool
  secEntMode : ℕ
  aInfo : AddrCamInfo
  bInfo : BssidCamInfo

structure MacRole where
  macid : ℕ
  info : MacRoleInfo

variable (roles : List MacRole)

def macRoleSrch (macid : ℕ) : Option MacRole := Keyed.get MacRole.macid roles macid

def macRoleSrchByAddrCam (addrCamIdx : ℕ) : Option MacRole :=
  roles.find? fun r => r.info.aInfo.addrCamIdx = addrCamIdx ∧ r.info.aInfo.valid

def macRoleSrchByBssid (bssidCamIdx : ℕ) : Option MacRole :=
  roles.find? fun r => r.info.bInfo.bssidCamIdx = bssidCamIdx ∧ r.info.aInfo.valid

variable (info : MacRoleInfo)

/-- The checks of `role_info_valid` that are made for every operation. -/
def roleInfoChecks : MacStatus :=
  if info.netType = .infra ∧ (info.selfRole = .ap ∨ info.selfRole = .apClient) then .funcinput
  else if info.netType = .ap ∧ info.selfRole = .client then .funcinput
  else if info.selfRole = .ap ∧ info.netType = .ap ∧
      (info.selfMac ≠ info.bssid ∨ info.targetMac ≠ info.bssid) then .funcinput
  else if info.isMulEnt = decide
      ((info.netType ≠ .ap ∧ (info.selfMac 0).toNat.testBit 0 = false) ∨
        (info.netType = .ap ∧ (info.bssid 0).toNat.testBit 0 = false)) then .funcinput
  else if 2 ≤ info.wmm then .funcinput
  else if info.band = 1 then .funcinput
  else if 2 ≤ info.band then .funcinput
  else .success

def roleInfoValid : MacRoleOpmode → MacStatus
  | .add =>
    if info.opmode ≠ .disconn then .funcinput
    else if info.updMode ≠ .create then .funcinput
    else if (macRoleSrch roles info.macid).isSome then .samacid
    else roleInfoChecks info
  | .chg =>
    if info.updMode = .create then .funcinput
    else if (macRoleSrch roles info.macid).isNone then .noitem
    else roleInfoChecks info

def roleInfoInit : MacRoleInfo :=
  { info with
    aInfo := { info.aInfo with
      maskSel := info.maskSel
      addrMask := info.addrMask
      secEntMode := info.secEntMode }
    bInfo := { info.bInfo with
      valid := true
      bbSel := info.band
      bssid := info.bssid } }

def secInfoInit : MacRoleInfo :=
  { info with aInfo := { info.aInfo with secEnt := fun _ => secEntClear } }

def MacRoleInfo.setBssidCamIdx (i : ℕ) : MacRoleInfo :=
  { info with
    aInfo := { info.aInfo with bssidCamIdx := i }
    bInfo := { info.bInfo with bssidCamIdx := i } }

structure SecCamEntry where
  valid : Bool
  macId : ℕ
  keyId : ℕ
  keyType : ℕ

@[simp] def secCamEntryClear : SecCamEntry := ⟨false, 0, 0, 0⟩

structure SecCamTable where
  secCamEntry : ℕ → SecCamEntry
  nextCamStorageIdx : ℕ

structure BssidCamEnt where
  valid : Bool
  bbSel : ℕ
  bssid : EthAddr

/-- The role table, the size of the pool, the table of the security CAM, and the BSSID CAM. -/
structure MacRoles where
  table : List MacRole
  pool : ℕ
  secCam : Option SecCamTable
  bssidCam : ℕ → BssidCamEnt

/-- The outcomes of `set_macid_pause`, of the commands to the firmware, of what goes before and
after the selection in `mac_upd_addr_cam`, and of the first allocation of the security CAM table. -/
structure MacRoleEnv where
  pause : MacStatus
  fwRole : MacStatus
  join : MacStatus
  camPrep : MacStatus
  camSend : MacStatus
  secUpd : MacStatus
  secMalloc : Bool

/-- A command that need not reach the firmware: one that is not ready is skipped. -/
def fwSkips (st : MacStatus) : Bool := st = .success || st = .fwnonrdy

def getSetBitsOfMsk (msk : ℕ) : ℕ :=
  if msk = 0 then 0 else getSetBitsOfMsk (msk &&& (msk - 1)) + 1
termination_by msk
decreasing_by exact Nat.lt_of_le_of_lt Nat.and_le_right (by omega)

def maddrCmpLen : ℕ :=
  if info.aInfo.maskSel = .bssidMsk then getSetBitsOfMsk info.aInfo.addrMask else 6

def maddrEq (n : ℕ) (a b : EthAddr) : Prop := ∀ k : Fin 6, k.val < n → a k = b k
  deriving Decidable

variable (env : MacRoleEnv) (r : MacRole)

def bssidHit : Prop :=
  maddrEq (maddrCmpLen info) info.bssid r.info.bssid ∧ info.band = r.info.band
  deriving Decidable

def findAvailAddrCamEntry : MacStatus × MacRoleInfo :=
  match (List.range macidNum).find? fun i => (macRoleSrchByAddrCam roles i).isNone with
  | some i => (.success, { info with aInfo := { info.aInfo with addrCamIdx := i } })
  | none => (.addrcamfl, info)

def bssidScan : List ℕ → ℕ → ℕ × Option MacRole
  | [], cur => (cur, none)
  | i :: is, cur =>
    match macRoleSrchByBssid roles i with
    | some r =>
      if bssidHit info r then (r.info.aInfo.bssidCamIdx, some r) else bssidScan is cur
    | none => bssidScan is (if cur = bssidNum then i else cur)

def findAvailBssidCamEntry : MacStatus × MacRoleInfo :=
  let (idx, hit) := bssidScan roles info (List.range bssidNum) bssidNum
  let bssid := match hit with
    | some r => if maddrCmpLen info < 6 then r.info.bInfo.bssid else info.bInfo.bssid
    | none => info.bInfo.bssid
  let info := { info with bInfo := { info.bInfo with bssid := bssid } }
  (if idx = bssidNum then .bssidcamfl else .success, info.setBssidCamIdx idx)

/-- `init_addr_cam_info` and `change_addr_cam_info`. -/
def selectCamEntries : MacRoleOpmode → MacStatus × MacRoleInfo
  | .add =>
    match findAvailAddrCamEntry roles info with
    | (.success, info) => findAvailBssidCamEntry roles info
    | r => r
  | .chg => findAvailBssidCamEntry roles info

def writeBssidCam (cam : ℕ → BssidCamEnt) : ℕ → BssidCamEnt :=
  Function.update cam info.bInfo.bssidCamIdx ⟨info.bInfo.valid, info.bInfo.bbSel, info.bInfo.bssid⟩

def macUpdAddrCam (op : MacRoleOpmode) (roles : List MacRole) (info : MacRoleInfo)
    (cam : ℕ → BssidCamEnt) : MacStatus × MacRoleInfo × (ℕ → BssidCamEnt) :=
  if env.camPrep ≠ .success then (env.camPrep, info, cam)
  else match selectCamEntries roles info op with
    | (.success, info) =>
      if env.camSend = .success then (.success, info, writeBssidCam info cam)
      else (env.camSend, info, cam)
    | (st, info) => (st, info, cam)

variable (t : SecCamTable) (s : MacRoles)

namespace MacRoles

def setInfo (macid : ℕ) (info : MacRoleInfo) (s : MacRoles) : MacRoles :=
  { s with table := Keyed.modify MacRole.macid macid (fun r => { r with info := info }) s.table }

/-- The table as the search for `macid` sees it: the role's own index is out of range by then. -/
def hidden (macid : ℕ) (s : MacRoles) : List MacRole :=
  Keyed.modify MacRole.macid macid
    (fun r => { r with info := r.info.setBssidCamIdx bssidNum }) s.table

def updRole : MacStatus × MacRoles :=
  let (st, info, cam) := macUpdAddrCam env .chg (s.hidden r.macid) r.info s.bssidCam
  (st, { s.setInfo r.macid info with bssidCam := cam })

end MacRoles

def macAddRole (info : MacRoleInfo) (s : MacRoles) : MacStatus × MacRoles :=
  if s.pool = 0 then (.bufalloc, s)
  else
    let taken := { s with pool := s.pool - 1 }
    match roleInfoValid s.table info .add with
    | .success =>
      let info := { info with aInfo := { info.aInfo with valid := true } }
      if macidNum < s.table.length then (.macidfl, s)
      else
        let info := roleInfoInit (secInfoInit info)
        if env.pause ≠ .success then (.roleinitfl, s)
        else if fwSkips env.fwRole = false then (env.fwRole, s)
        else if info.selfRole = .ap ∧ fwSkips env.join = false then (env.join, taken)
        else
          match macUpdAddrCam env .add s.table info s.bssidCam with
          | (.addrcamfl, _, _) => (.addrcamfl, s)
          | (.bssidcamfl, _, _) => (.bssidcamfl, s)
          | (_, info, cam) =>
            (.success, { taken with table := s.table ++ [⟨info.macid, info⟩], bssidCam := cam })
    | st => (st, s)

def SecCamTable.clear (idx : ℕ) : SecCamTable :=
  { t with secCamEntry := Function.update t.secCamEntry idx secCamEntryClear }

def disconnectFlushKey (aInfo : AddrCamInfo) (t : SecCamTable) : SecCamTable :=
  (List.finRange 7).foldl
    (fun t k => if (aInfo.secEnt k).valid then t.clear (aInfo.secEnt k).idx else t) t

def secInfoDeinit : MacRoles :=
  match s.secCam with
  | none => s
  | some t =>
    let aInfo := { info.aInfo with secEntMode := 0, secEnt := fun _ => secEntClear }
    { s.setInfo info.macid { info with aInfo := aInfo } with
      secCam := some (disconnectFlushKey info.aInfo t) }

/-- What `mac_change_role` does for the update mode: the status it returns with, if it does. -/
def changeRoleUpd (info : MacRoleInfo) (s : MacRoles) : Option MacStatus × MacRoles :=
  match info.updMode with
  | .typeChange =>
    if fwSkips env.fwRole = false then (some env.fwRole, s)
    else if info.selfRole = .ap ∧ fwSkips env.join = false then (some env.join, s)
    else (none, s)
  | .remove => if fwSkips env.fwRole = false then (some env.fwRole, s) else (none, s)
  | .conDisconn =>
    let s := if info.opmode = .disconn then secInfoDeinit info s else s
    if fwSkips env.join = false then (some env.join, s) else (none, s)
  | .infoChange => if fwSkips env.join = false then (some env.join, s) else (none, s)
  | _ => (some .success, s)

def macChangeRole (info : MacRoleInfo) (s : MacRoles) : MacStatus × MacRoles :=
  match roleInfoValid s.table info .chg with
  | .success =>
    match macRoleSrch s.table info.macid with
    | none => (.noitem, s)
    | some role =>
      let info := roleInfoInit { info with aInfo := role.info.aInfo }
      match changeRoleUpd env info (s.setInfo info.macid info) with
      | (some st, s) => (st, s)
      | (none, s) =>
        match macRoleSrch s.table info.macid with
        | none => (.noitem, s)
        | some role => s.updRole env role
  | st => (st, s)

/-- The info of a role that `mac_remove_role` passes to `mac_change_role`. -/
def removeInfo : MacRoleInfo :=
  { info with
    aInfo := { info.aInfo with valid := false }
    updMode := .remove
    opmode := .disconn
    bInfo := { info.bInfo with
      valid := info.bInfo.valid && (macRoleSrchByBssid roles info.aInfo.bssidCamIdx).isSome } }

def macRemoveRole (macid : ℕ) (s : MacRoles) : MacStatus × MacRoles :=
  match macRoleSrch s.table macid with
  | none => (.norole, s)
  | some role =>
    let off := { role.info with aInfo := { role.info.aInfo with valid := false } }
    let info := removeInfo (s.setInfo macid off).table role.info
    match macChangeRole env info (s.setInfo macid info) with
    | (.success, s) =>
      (.success, { s with table := Keyed.remove MacRole.macid macid s.table, pool := s.pool + 1 })
    | (st, s) => (st, s)

inductive SecCamKeyType where
  | uni
  | group
  | bip
  | default
  deriving DecidableEq

def SecCamKeyType.code : SecCamKeyType → ℕ
  | uni => 0
  | group => 1
  | bip => 2
  | default => 3

def checkKeyIndex (mode : ℕ) (keyType : SecCamKeyType) (keyIndex : ℕ) : Bool :=
  match mode, keyType with
  | 0, .uni => keyIndex ≤ 6
  | 1, .uni => keyIndex ≤ 6
  | 2, .uni => keyIndex ≤ 1
  | 2, .group => 2 ≤ keyIndex && keyIndex ≤ 4
  | 2, .bip => 5 ≤ keyIndex && keyIndex ≤ 6
  | 3, .uni => keyIndex ≤ 1
  | 3, .group => 2 ≤ keyIndex && keyIndex ≤ 5
  | 3, .bip => keyIndex = 6
  | _, _ => false

def decideKeyIndex (mode : ℕ) (keyType : SecCamKeyType) : Option ℕ :=
  match mode, keyType with
  | 0, .group => none
  | 0, .bip => none
  | 1, .group => none
  | 1, .bip => none
  | 2, .group => some 2
  | 2, .bip => some 5
  | 3, .group => some 2
  | 3, .bip => some 6
  | _, _ => some 0

def decideSecCamIndex (secCam : Option SecCamTable) : MacStatus × ℕ × Option SecCamTable :=
  match secCam.orElse
      fun _ => if env.secMalloc then some ⟨fun _ => secCamEntryClear, 0⟩ else none with
  | none => (.nobuf, 0, none)
  | some t =>
    let idxs := (List.range secCamEntryNum).map fun i => (t.nextCamStorageIdx + i) % secCamEntryNum
    match idxs.find? fun i => (t.secCamEntry i).valid = false with
    | some i => (.success, i, some { t with nextCamStorageIdx := (i + 1) % secCamEntryNum })
    | none => (.seccamfl, 0, some t)

namespace MacRoles

def setSecEnt (k : Fin 7) (e : SecEnt) (s : MacRoles) : MacRoles :=
  s.setInfo r.macid
    { r.info with aInfo := { r.info.aInfo with secEnt := Function.update r.info.aInfo.secEnt k e } }

def updKeys (macid : ℕ) (s : MacRoles) : MacStatus × MacRoles :=
  match macRoleSrch s.table macid with
  | none => (.norole, s)
  | some role =>
    match s.updRole env role with
    | (.bssidcamfl, s) => (.bssidcamfl, s)
    | (_, s) => (.success, s)

end MacRoles

def insertKeyToAddrCam (role : MacRole) (keyType : SecCamKeyType) (keyId secCamIdx : ℕ)
    (s : MacRoles) : MacStatus × MacRoles :=
  let aInfo := role.info.aInfo
  match decideKeyIndex aInfo.secEntMode keyType with
  | none => (.wngkeytype, s)
  | some keyIndex =>
    match (List.finRange 7).find? fun k => keyIndex ≤ k.val ∧ (aInfo.secEnt k).valid = false with
    | none => (.addrcamkeyfl, s)
    | some k =>
      if checkKeyIndex aInfo.secEntMode keyType k = false then (.addrcamkeyfl, s)
      else (s.setSecEnt role k ⟨true, keyId, secCamIdx⟩).updKeys env role.macid

/-- `delete_key_from_addr_cam`, with the security CAM entry of the key. -/
def deleteKeyFromAddrCam (role : MacRole) (keyType : SecCamKeyType) (keyId : ℕ) (s : MacRoles) :
    MacStatus × ℕ × MacRoles :=
  let aInfo := role.info.aInfo
  match decideKeyIndex aInfo.secEntMode keyType with
  | none => (.wngkeytype, 0, s)
  | some keyIndex =>
    match (List.finRange 7).find? fun k =>
        keyIndex ≤ k.val ∧ (aInfo.secEnt k).keyid = keyId ∧ (aInfo.secEnt k).valid with
    | none => (.keynotext, 0, s)
    | some k =>
      if checkKeyIndex aInfo.secEntMode keyType k = false then (.addrcamkeyfl, 0, s)
      else
        let (st, s) := (s.setSecEnt role k secEntClear).updKeys env role.macid
        (st, (aInfo.secEnt k).idx, s)

def SecCamTable.put (idx : ℕ) (e : SecCamEntry) : SecCamTable :=
  { t with secCamEntry := Function.update t.secCamEntry idx e }

structure SecCamInfo where
  type : ℕ
  extKey : ℕ
  sppMode : ℕ
  key : Fin 4 → UInt32

structure SecCamHal where
  table : SecCamTable
  info : ℕ → SecCamInfo

/-- The calls of `m_security_cam_hal`: one `normal` for a key that is added, one `clear` for each
key that is deleted or flushed. -/
inductive SecCamOp where
  | normal (idx macId keyId keyType : ℕ) (info : Option SecCamInfo)
  | clear (idx : ℕ)

def mSecurityCamHal (s : SecCamHal) : SecCamOp → SecCamHal
  | .normal idx macId keyId keyType info =>
    ⟨s.table.put idx ⟨true, macId, keyId, keyType⟩,
      Function.update s.info idx (info.getD ⟨0, 0, 0, fun _ => 0⟩)⟩
  | .clear idx =>
    ⟨s.table.clear idx, Function.update s.info idx
      ⟨0, 0, 0, fun i => if i.val < 3 then 0 else (s.info idx).key i⟩⟩

/-- `mac_sta_add_key`; the index can be given by the caller. -/
def macStaAddKey (encType : ℕ) (forced : Option ℕ) (macid keyId : ℕ) (keyType : SecCamKeyType)
    (s : MacRoles) : MacStatus × MacRoles :=
  if hwSupportEncTypeNum < encType then (.wngkeytype, s)
  else match macRoleSrch s.table macid with
    | none => (.norole, s)
    | some role =>
      match forced.elim (decideSecCamIndex env s.secCam) fun i => (.success, i, s.secCam) with
      | (.success, secCamIdx, secCam) =>
        match insertKeyToAddrCam env role keyType keyId secCamIdx { s with secCam := secCam } with
        | (.success, s) =>
          if env.secUpd ≠ .success then (env.secUpd, s)
          else (.success, { s with
            secCam := s.secCam.map (·.put secCamIdx ⟨true, macid, keyId, keyType.code⟩) })
        | (st, s) => (st, s)
      | (st, _, secCam) => (st, { s with secCam := secCam })

def macStaDelKey (macid keyId : ℕ) (keyType : SecCamKeyType) (s : MacRoles) : MacStatus ×
    MacRoles :=
  match macRoleSrch s.table macid with
  | none => (.norole, s)
  | some role =>
    match deleteKeyFromAddrCam env role keyType keyId s with
    | (.success, secCamIdx, s) =>
      if env.secUpd ≠ .success then (env.secUpd, s)
      else (.success, { s with secCam := s.secCam.map (·.clear secCamIdx) })
    | (st, _, s) => (st, s)

inductive MacRoleEv where
  | add (env : MacRoleEnv) (info : MacRoleInfo)
  | change (env : MacRoleEnv) (info : MacRoleInfo)
  | remove (env : MacRoleEnv) (macid : ℕ)
  | addKey (env : MacRoleEnv) (encType : ℕ) (forced : Option ℕ) (macid keyId : ℕ)
      (keyType : SecCamKeyType)
  | delKey (env : MacRoleEnv) (macid keyId : ℕ) (keyType : SecCamKeyType)

def macRoleCall : MacRoleEv → MacStatus × MacRoles
  | .add env info => macAddRole env info s
  | .change env info => macChangeRole env info s
  | .remove env macid => macRemoveRole env macid s
  | .addKey env encType forced macid keyId keyType =>
    macStaAddKey env encType forced macid keyId keyType s
  | .delKey env macid keyId keyType => macStaDelKey env macid keyId keyType s

def macRoleStep (ev : MacRoleEv) : MacRoles := (macRoleCall s ev).2

def macRolesInit : MacRoles := ⟨[], macidNum, none, fun _ => ⟨false, 0, fun _ => 0⟩⟩

end Rtl8852be

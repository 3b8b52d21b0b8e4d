import Rtl8852be.Lib.Run
import Rtl8852be.MacRole

/-!
# The slots of the role table

Changing a role and its keys leaves the macids of the table and the pool alone (`TableKept`). One
way out of `mac_add_role` keeps the slot that was taken (`JoinLeaks`).
-/

namespace Rtl8852be

open List Keyed MacRoles

variable {s s' : MacRoles} {env : MacRoleEnv} {info : MacRoleInfo} {macid : ℕ} {r : MacRole}
variable {roles : List MacRole} {keyType : SecCamKeyType} {k : Fin 7} {aInfo : AddrCamInfo}
variable {st : MacStatus} {s'' : MacRoles} {role : MacRole}

def MacRoles.macids (s : MacRoles) : List ℕ := s.table.map MacRole.macid

section

variable (env : MacRoleEnv) (op : MacRoleOpmode) (roles : List MacRole)

section

variable (info : MacRoleInfo)

lemma macid_setInfo (r : MacRole) :
    MacRole.macid { r with info := info } = r.macid := rfl

structure SameSlots (s s' : MacRoles) : Prop where
  macids : s'.macids = s.macids
  pool : s'.pool = s.pool

lemma SameSlots.refl (s : MacRoles) : SameSlots s s := ⟨rfl, rfl⟩

lemma SameSlots.trans (h : SameSlots s s') (h' : SameSlots s' s'') : SameSlots s s'' :=
  ⟨h'.macids.trans h.macids, h'.pool.trans h.pool⟩

lemma SameSlots.length (h : SameSlots s s') : s'.table.length = s.table.length := by
  simpa [MacRoles.macids] using congrArg List.length h.macids

def placedInfo (roles : List MacRole) (info : MacRoleInfo) : MacRoleInfo :=
  (findAvailBssidCamEntry roles info).2

structure CamFrame (info info' : MacRoleInfo) : Prop where
  macid : info'.macid = info.macid
  bssid : info'.bssid = info.bssid
  band : info'.band = info.band
  checks : roleInfoChecks info' = roleInfoChecks info
  valid : info'.aInfo.valid = info.aInfo.valid
  secEnt : info'.aInfo.secEnt = info.aInfo.secEnt
  bValid : info'.bInfo.valid = info.bInfo.valid
  bbSel : info'.bInfo.bbSel = info.bInfo.bbSel

lemma CamFrame.refl : CamFrame info info := ⟨rfl, rfl, rfl, rfl, rfl, rfl, rfl, rfl⟩

lemma camFrame_selectCamEntries (op : MacRoleOpmode) :
    CamFrame info (selectCamEntries roles info op).2 := by
  cases op
  · unfold selectCamEntries findAvailAddrCamEntry
    rcases (range macidNum).find? fun i => (macRoleSrchByAddrCam roles i).isNone with _ | i
    · exact .refl info
    · exact ⟨rfl, rfl, rfl, rfl, rfl, rfl, rfl, rfl⟩
  · exact ⟨rfl, rfl, rfl, rfl, rfl, rfl, rfl, rfl⟩

lemma camFrame_macUpdAddrCam (cam : ℕ → BssidCamEnt) :
    CamFrame info (macUpdAddrCam env op roles info cam).2.1 := by
  unfold macUpdAddrCam
  by_cases hprep : env.camPrep ≠ .success
  · rw [if_pos hprep]
    exact .refl info
  rw [if_neg hprep]
  have hsel := camFrame_selectCamEntries roles info op
  rcases hres : selectCamEntries roles info op with ⟨st, info'⟩
  rw [hres] at hsel
  cases st with
  | success =>
    split_ifs <;> exact hsel
  | _ => exact hsel

end

/-- One role for each macid, and all have passed the checks. -/
structure TableOK (roles : List MacRole) : Prop where
  distinct : Keyed.Distinct MacRole.macid roles
  macid : ∀ r ∈ roles, r.info.macid = r.macid
  checks : ∀ r ∈ roles, roleInfoChecks r.info = .success

/-- The macids of the table and the pool stay, and the table stays as it has to be. -/
structure TableKept (s s' : MacRoles) : Prop extends SameSlots s s' where
  table : TableOK s.table → TableOK s'.table

lemma TableKept.refl (s : MacRoles) : TableKept s s := ⟨.refl s, id⟩

lemma TableKept.trans (h : TableKept s s') (h' : TableKept s' s'') : TableKept s s'' :=
  ⟨h.toSameSlots.trans h'.toSameSlots, h'.table ∘ h.table⟩

lemma TableKept.cams (h : TableKept s s') (secCam : Option SecCamTable)
    (bssidCam : ℕ → BssidCamEnt) :
    TableKept s { s' with secCam := secCam, bssidCam := bssidCam } :=
  ⟨⟨h.macids, h.pool⟩, h.table⟩

lemma tableKept_setInfo
    (hinfo : TableOK s.table → info.macid = macid ∧ roleInfoChecks info = .success) :
    TableKept s (s.setInfo macid info) := by
  refine ⟨⟨map_key_modify (macid_setInfo info) s.table, rfl⟩, fun h =>
    ⟨h.distinct.modify (macid_setInfo info), fun r hr => ?_, fun r hr => ?_⟩⟩
  · rcases mem_modify hr with hr | ⟨x, hx, rfl⟩
    · exact h.macid r hr
    · exact (hinfo h).1.trans (key_of_get hx).symm
  · rcases mem_modify hr with hr | ⟨x, -, rfl⟩
    · exact h.checks r hr
    · exact (hinfo h).2

lemma tableKept_updRole (hr : r ∈ s.table) : TableKept s (s.updRole env r).2 := by
  have hframe := camFrame_macUpdAddrCam env .chg (s.hidden r.macid) r.info s.bssidCam
  exact (tableKept_setInfo fun h => ⟨hframe.macid.trans (h.macid r hr),
    hframe.checks.trans (h.checks r hr)⟩).cams s.secCam _

lemma checks_of_roleInfoValid {op : MacRoleOpmode}
    (h : roleInfoValid s.table info op = .success) : roleInfoChecks info = .success := by
  cases op <;>
  · simp only [roleInfoValid] at h
    split_ifs at h
    exact h

/-- The only thing that changes before the CAM update are the keys of a role that disconnects. -/
lemma changeRoleUpd_snd (info : MacRoleInfo) (s : MacRoles) :
    (changeRoleUpd env info s).2
      = if info.updMode = .conDisconn ∧ info.opmode = .disconn then secInfoDeinit info s
        else s := by
  unfold changeRoleUpd
  cases hmode : info.updMode
  case conDisconn =>
    simp
    by_cases hjoin : fwSkips env.join = false
    · rw [if_pos hjoin]
    · rw [if_neg hjoin]
  all_goals
    simp [reduceCtorEq]
    try split_ifs <;> rfl

lemma tableKept_changeRoleUpd (hchecks : roleInfoChecks info = .success) :
    TableKept s (changeRoleUpd env info (s.setInfo info.macid info)).2 := by
  have hset : TableKept s (s.setInfo info.macid info) := tableKept_setInfo fun _ => ⟨rfl, hchecks⟩
  rw [changeRoleUpd_snd]
  split_ifs
  · unfold secInfoDeinit
    split
    · exact hset
    · refine (hset.trans ?_).cams _ _
      exact tableKept_setInfo fun _ => ⟨rfl, hchecks⟩
  · exact hset

end

lemma SameSlots.srch_isSome (h : SameSlots s s') (hs : macRoleSrch s.table macid = some r) :
    ∃ r', macRoleSrch s'.table macid = some r' := by
  have hmem : macid ∈ s'.macids := by
    rw [h.macids, ← key_of_get hs]
    exact mem_map_of_mem (mem_of_get hs)
  obtain ⟨q, hq, hqm⟩ := mem_map.1 hmem
  rcases hget : macRoleSrch s'.table macid with _ | r'
  · exact absurd hqm (get_eq_none.1 hget q hq)
  · exact ⟨r', rfl⟩

def changeInfo (info : MacRoleInfo) (role : MacRole) : MacRoleInfo :=
  roleInfoInit { info with aInfo := role.info.aInfo }

abbrev changeUpd (env : MacRoleEnv) (info : MacRoleInfo) (role : MacRole) (s : MacRoles) :
    Option MacStatus × MacRoles :=
  changeRoleUpd env (changeInfo info role) (s.setInfo info.macid (changeInfo info role))

inductive ChangeMove (s : MacRoles) (env : MacRoleEnv) (info : MacRoleInfo) :
    MacStatus × MacRoles → Prop
  | refused {st : MacStatus} (h : st ≠ .success) : ChangeMove s env info (st, s)
  | stopped {role : MacRole} {st : MacStatus} {s₁ : MacRoles}
      (hvalid : roleInfoValid s.table info .chg = .success)
      (hrole : macRoleSrch s.table info.macid = some role)
      (hupd : changeRoleUpd env (changeInfo info role)
        (s.setInfo info.macid (changeInfo info role)) = (some st, s₁)) :
      ChangeMove s env info (st, s₁)
  | updated {role role' : MacRole} {s₁ : MacRoles}
      (hvalid : roleInfoValid s.table info .chg = .success)
      (hrole : macRoleSrch s.table info.macid = some role)
      (hupd : changeRoleUpd env (changeInfo info role)
        (s.setInfo info.macid (changeInfo info role)) = (none, s₁))
      (hrole' : macRoleSrch s₁.table info.macid = some role') :
      ChangeMove s env info (s₁.updRole env role')

section

variable (env : MacRoleEnv) (info : MacRoleInfo) (macid keyId : ℕ) (keyType : SecCamKeyType)
variable (s : MacRoles)

variable {env info s} in
lemma macChangeRole_eq {role : MacRole} (hvalid : roleInfoValid s.table info .chg = .success)
    (hrole : macRoleSrch s.table info.macid = some role) :
    macChangeRole env info s = match changeUpd env info role s with
      | (some st, s) => (st, s)
      | (none, s) =>
        match macRoleSrch s.table info.macid with
        | none => (.noitem, s)
        | some role => s.updRole env role := by
  unfold macChangeRole
  simp only [hvalid, hrole]
  rfl

variable {info s} in
lemma tableKept_changeUpd (hvalid : roleInfoValid s.table info .chg = .success) (role : MacRole) :
    TableKept s (changeUpd env info role s).2 :=
  tableKept_changeRoleUpd env (checks_of_roleInfoValid hvalid :)

lemma macChangeRole_move : ChangeMove s env info (macChangeRole env info s) := by
  cases hvalid : roleInfoValid s.table info .chg
  · rcases hrole : macRoleSrch s.table info.macid with _ | role
    · simp only [macChangeRole, hvalid, hrole]
      exact .refused nofun
    · rw [macChangeRole_eq hvalid hrole]
      rcases hres : changeUpd env info role s with ⟨_ | st, s₁⟩
      · have hkept := tableKept_changeUpd env hvalid role
        rw [hres] at hkept
        obtain ⟨role', hrole'⟩ := hkept.srch_isSome hrole
        simp only [hrole']
        exact .updated hvalid hrole hres hrole'
      · exact .stopped hvalid hrole hres
  all_goals
    simp only [macChangeRole, hvalid]
    exact .refused nofun

lemma tableKept_macChangeRole : TableKept s (macChangeRole env info s).2 := by
  have hmove := macChangeRole_move env info s
  generalize macChangeRole env info s = res at hmove
  cases hmove with
  | refused => exact .refl s
  | @stopped role st s₁ hvalid hrole hupd =>
    have h := tableKept_changeUpd env hvalid role
    rwa [changeUpd, hupd] at h
  | @updated role role' s₁ hvalid hrole hupd hrole' =>
    have h := tableKept_changeUpd env hvalid role
    rw [changeUpd, hupd] at h
    exact h.trans (tableKept_updRole env (mem_of_get hrole'))

lemma tableKept_updKeys : TableKept s (s.updKeys env macid).2 := by
  unfold updKeys
  rcases hrole : macRoleSrch s.table macid with _ | role
  · exact .refl s
  have hupd := tableKept_updRole env (mem_of_get hrole)
  simp only
  rcases hres : s.updRole env role with ⟨st, s₁⟩
  rw [hres] at hupd
  cases st <;> exact hupd

/-- The first free slot for the type. -/
def InsertSlot (aInfo : AddrCamInfo) (keyType : SecCamKeyType) (k : Fin 7) : Prop :=
  ∃ keyIndex, decideKeyIndex aInfo.secEntMode keyType = some keyIndex ∧
    (finRange 7).find? (fun k => keyIndex ≤ k.val ∧ (aInfo.secEnt k).valid = false) = some k ∧
    checkKeyIndex aInfo.secEntMode keyType k = true

lemma InsertSlot.not_valid (h : InsertSlot aInfo keyType k) : (aInfo.secEnt k).valid = false := by
  obtain ⟨keyIndex, -, hk, -⟩ := h
  have hfound := find?_some hk
  exact (of_decide_eq_true hfound).2

inductive InsertMove (s : MacRoles) (env : MacRoleEnv) (role : MacRole) (keyType : SecCamKeyType)
    (keyId secCamIdx : ℕ) : MacStatus × MacRoles → Prop
  | refused {st : MacStatus} (h : st ≠ .success) :
      InsertMove s env role keyType keyId secCamIdx (st, s)
  | moved (k : Fin 7) (hk : InsertSlot role.info.aInfo keyType k) :
      InsertMove s env role keyType keyId secCamIdx
        ((s.setSecEnt role k ⟨true, keyId, secCamIdx⟩).updKeys env role.macid)

lemma insertKeyToAddrCam_move (role : MacRole) (keyType : SecCamKeyType) (keyId secCamIdx : ℕ)
    (s : MacRoles) :
    InsertMove s env role keyType keyId secCamIdx
      (insertKeyToAddrCam env role keyType keyId secCamIdx s) := by
  unfold insertKeyToAddrCam
  simp only
  split
  · exact .refused nofun
  rename_i keyIndex hindex
  split
  · exact .refused nofun
  rename_i k hk
  split_ifs with hcheck
  · exact .refused nofun
  · exact .moved k ⟨keyIndex, hindex, hk, Bool.eq_true_of_not_eq_false hcheck⟩

/-- The slot in which the key is found. -/
def DeleteSlot (aInfo : AddrCamInfo) (keyType : SecCamKeyType) (keyId : ℕ) (k : Fin 7) : Prop :=
  ∃ keyIndex, decideKeyIndex aInfo.secEntMode keyType = some keyIndex ∧
    (finRange 7).find? (fun k => keyIndex ≤ k.val ∧ (aInfo.secEnt k).keyid = keyId ∧
      (aInfo.secEnt k).valid) = some k ∧
    checkKeyIndex aInfo.secEntMode keyType k = true

lemma DeleteSlot.valid {keyId : ℕ} (h : DeleteSlot aInfo keyType keyId k) :
    (aInfo.secEnt k).valid = true := by
  obtain ⟨keyIndex, -, hk, -⟩ := h
  have hfound := find?_some hk
  exact (of_decide_eq_true hfound).2.2

inductive DeleteMove (s : MacRoles) (env : MacRoleEnv) (role : MacRole) (keyType : SecCamKeyType)
    (keyId : ℕ) : MacStatus × ℕ × MacRoles → Prop
  | refused {st : MacStatus} (h : st ≠ .success) : DeleteMove s env role keyType keyId (st, 0, s)
  | moved (k : Fin 7) (hk : DeleteSlot role.info.aInfo keyType keyId k) :
      DeleteMove s env role keyType keyId
        (((s.setSecEnt role k secEntClear).updKeys env role.macid).1,
        (role.info.aInfo.secEnt k).idx, ((s.setSecEnt role k secEntClear).updKeys env role.macid).2)

lemma deleteKeyFromAddrCam_move (role : MacRole) (keyType : SecCamKeyType) (keyId : ℕ)
    (s : MacRoles) :
    DeleteMove s env role keyType keyId (deleteKeyFromAddrCam env role keyType keyId s) := by
  unfold deleteKeyFromAddrCam
  simp only
  split
  · exact .refused nofun
  rename_i keyIndex hindex
  split
  · exact .refused nofun
  rename_i k hk
  split_ifs with hcheck
  · exact .refused nofun
  · exact .moved k ⟨keyIndex, hindex, hk, Bool.eq_true_of_not_eq_false hcheck⟩

def chosenIndex (env : MacRoleEnv) (forced : Option ℕ) (s : MacRoles) :
    MacStatus × ℕ × Option SecCamTable :=
  forced.elim (decideSecCamIndex env s.secCam) fun i => (.success, i, s.secCam)

/-- `mac_sta_add_key` gets to the update of the address CAM. -/
structure AddKeyReaches (s : MacRoles) (env : MacRoleEnv) (encType : ℕ) (forced : Option ℕ)
    (role : MacRole) (keyType : SecCamKeyType) : Prop where
  encType : encType ≤ hwSupportEncTypeNum
  index : (chosenIndex env forced s).1 = .success
  slot : ∃ k, InsertSlot role.info.aInfo keyType k

inductive AddKeyMove (s : MacRoles) (env : MacRoleEnv) (encType : ℕ) (forced : Option ℕ)
    (macid keyId : ℕ) (keyType : SecCamKeyType) : MacStatus × MacRoles → Prop
  | refused {st : MacStatus} {secCam : Option SecCamTable} (hst : st ≠ .success)
      (hcam : secCam = s.secCam ∨ secCam = (chosenIndex env forced s).2.2) :
      AddKeyMove s env encType forced macid keyId keyType (st, { s with secCam := secCam })
  | failed {role : MacRole} {k : Fin 7} {i : ℕ} {secCam : Option SecCamTable} {st st' : MacStatus}
      {s₁ : MacRoles} (hrole : macRoleSrch s.table macid = some role)
      (hreach : AddKeyReaches s env encType forced role keyType)
      (hidx : chosenIndex env forced s = (.success, i, secCam))
      (hk : InsertSlot role.info.aInfo keyType k)
      (hupd : (({ s with secCam := secCam } : MacRoles).setSecEnt role k
        ⟨true, keyId, i⟩).updKeys env role.macid = (st, s₁))
      (hst : st ≠ .success ∨ env.secUpd ≠ .success) :
      AddKeyMove s env encType forced macid keyId keyType (st', s₁)
  | added {role : MacRole} {k : Fin 7} {i : ℕ} {secCam : Option SecCamTable} {s₁ : MacRoles}
      (hrole : macRoleSrch s.table macid = some role)
      (hreach : AddKeyReaches s env encType forced role keyType)
      (hidx : chosenIndex env forced s = (.success, i, secCam))
      (hk : InsertSlot role.info.aInfo keyType k)
      (hupd : (({ s with secCam := secCam } : MacRoles).setSecEnt role k
        ⟨true, keyId, i⟩).updKeys env role.macid = (.success, s₁)) :
      AddKeyMove s env encType forced macid keyId keyType (.success, { s₁ with
        secCam := s₁.secCam.map (·.put i ⟨true, macid, keyId, keyType.code⟩) })

lemma macStaAddKey_move (encType : ℕ) (forced : Option ℕ) (macid keyId : ℕ)
    (keyType : SecCamKeyType) (s : MacRoles) :
    AddKeyMove s env encType forced macid keyId keyType
      (macStaAddKey env encType forced macid keyId keyType s) := by
  unfold macStaAddKey
  by_cases henc : hwSupportEncTypeNum < encType
  · rw [if_pos henc]
    exact .refused nofun (.inl rfl)
  rw [if_neg henc]
  rcases hrole : macRoleSrch s.table macid with _ | role
  · exact .refused nofun (.inl rfl)
  rcases hidx : chosenIndex env forced s with ⟨st, i, secCam⟩
  have hcam : secCam = (chosenIndex env forced s).2.2 := by rw [hidx]
  have hidx' := hidx
  unfold chosenIndex at hidx'
  simp only [hidx']
  cases st
  · simp only
    have hmove := insertKeyToAddrCam_move env role keyType keyId i { s with secCam := secCam }
    generalize insertKeyToAddrCam env role keyType keyId i _ = res at hmove
    cases hmove with
    | @refused st hst =>
      cases st <;> first | exact absurd rfl hst | exact .refused hst (.inr hcam)
    | moved k hk =>
      have hreach : AddKeyReaches s env encType forced role keyType :=
        ⟨Nat.le_of_not_lt henc, by rw [hidx], k, hk⟩
      rcases hupd : (({ s with secCam := secCam } : MacRoles).setSecEnt role k
        ⟨true, keyId, i⟩).updKeys env role.macid with ⟨_ | _, s₁⟩
      · split_ifs with hsec
        · exact .failed hrole hreach hidx hk hupd (.inr hsec)
        · exact .added hrole hreach hidx hk hupd
      all_goals exact .failed hrole hreach hidx hk hupd (.inl nofun)
  all_goals exact .refused nofun (.inr hcam)

inductive DelKeyMove (s : MacRoles) (env : MacRoleEnv) (macid keyId : ℕ) (keyType : SecCamKeyType) :
    MacStatus × MacRoles → Prop
  | refused {st : MacStatus} (hst : st ≠ .success) : DelKeyMove s env macid keyId keyType (st, s)
  | failed {role : MacRole} {k : Fin 7} {st st' : MacStatus} {s₁ : MacRoles}
      (hrole : macRoleSrch s.table macid = some role)
      (hk : DeleteSlot role.info.aInfo keyType keyId k)
      (hupd : (s.setSecEnt role k secEntClear).updKeys env role.macid = (st, s₁))
      (hst : st ≠ .success ∨ env.secUpd ≠ .success) :
      DelKeyMove s env macid keyId keyType (st', s₁)
  | deleted {role : MacRole} {k : Fin 7} {s₁ : MacRoles}
      (hrole : macRoleSrch s.table macid = some role)
      (hk : DeleteSlot role.info.aInfo keyType keyId k)
      (hupd : (s.setSecEnt role k secEntClear).updKeys env role.macid = (.success, s₁)) :
      DelKeyMove s env macid keyId keyType (.success, { s₁ with
        secCam := s₁.secCam.map (·.clear (role.info.aInfo.secEnt k).idx) })

lemma macStaDelKey_move :
    DelKeyMove s env macid keyId keyType (macStaDelKey env macid keyId keyType s) := by
  unfold macStaDelKey
  rcases hrole : macRoleSrch s.table macid with _ | role
  · exact .refused nofun
  simp only
  have hmove := deleteKeyFromAddrCam_move env role keyType keyId s
  generalize deleteKeyFromAddrCam env role keyType keyId s = res at hmove
  cases hmove with
  | @refused st hst => cases st <;> first | exact absurd rfl hst | exact .refused hst
  | moved k hk =>
    rcases hupd : (s.setSecEnt role k secEntClear).updKeys env role.macid with ⟨_ | _, s₁⟩
    · split_ifs with hsec
      · exact .failed hrole hk hupd (.inr hsec)
      · exact .deleted hrole hk hupd
    all_goals exact .failed hrole hk hupd (.inl nofun)

end

lemma tableKept_setSecEnt_updKeys {e : SecEnt}
    (hupd : (s.setSecEnt r k e).updKeys env r.macid = (st, s')) (hr : r ∈ s.table) :
    TableKept s s' := by
  have hset : TableKept s (s.setSecEnt r k e) :=
    tableKept_setInfo fun h => ⟨h.macid r hr, h.checks r hr⟩
  have hkept := hset.trans (tableKept_updKeys env r.macid _)
  rwa [hupd] at hkept

section

variable (env : MacRoleEnv) (macid keyId : ℕ) (keyType : SecCamKeyType) (s : MacRoles)

lemma tableKept_macStaAddKey (encType : ℕ) (forced : Option ℕ) (macid keyId : ℕ)
    (keyType : SecCamKeyType) (s : MacRoles) :
    TableKept s (macStaAddKey env encType forced macid keyId keyType s).2 := by
  have hmove := macStaAddKey_move env encType forced macid keyId keyType s
  have hcam := fun secCam => (TableKept.refl s).cams secCam s.bssidCam
  generalize macStaAddKey env encType forced macid keyId keyType s = res at hmove
  cases hmove with
  | refused => exact hcam _
  | failed hrole hreach hidx hk hupd =>
    exact (hcam _).trans (tableKept_setSecEnt_updKeys hupd (mem_of_get hrole))
  | @added role k i secCam s₁ hrole hreach hidx hk hupd =>
    have hkept := tableKept_setSecEnt_updKeys hupd (mem_of_get hrole)
    exact ((hcam _).trans hkept).cams _ s₁.bssidCam

lemma tableKept_macStaDelKey : TableKept s (macStaDelKey env macid keyId keyType s).2 := by
  have hmove := macStaDelKey_move env macid keyId keyType s
  generalize macStaDelKey env macid keyId keyType s = res at hmove
  cases hmove with
  | refused => exact .refl s
  | failed hrole hk hupd => exact tableKept_setSecEnt_updKeys hupd (mem_of_get hrole)
  | @deleted role k s₁ hrole hk hupd =>
    exact (tableKept_setSecEnt_updKeys hupd (mem_of_get hrole)).cams _ s₁.bssidCam

/-- A role is taken out of the table only after a successful change. -/
lemma macRemoveRole_kept :
    TableKept s (macRemoveRole env macid s).2 ∨
      ∃ role s₁, macRoleSrch s₁.table macid = some role ∧ TableKept s s₁ ∧
        (macRemoveRole env macid s).2 = { s₁ with
          table := remove MacRole.macid macid s₁.table, pool := s₁.pool + 1 } := by
  unfold macRemoveRole
  rcases hrole : macRoleSrch s.table macid with _ | role
  · exact .inl (.refl s)
  have hmem := mem_of_get hrole
  have hset : ∀ roles, TableKept s (s.setInfo macid (removeInfo roles role.info)) :=
    fun roles => tableKept_setInfo fun h =>
      ⟨(h.macid role hmem).trans (key_of_get hrole), h.checks role hmem⟩
  simp only
  generalize (s.setInfo macid { role.info with
    aInfo := { role.info.aInfo with valid := false } }).table = roles
  have hchg := (hset roles).trans (tableKept_macChangeRole env (removeInfo roles role.info) _)
  rcases hres : macChangeRole env (removeInfo roles role.info)
    (s.setInfo macid (removeInfo roles role.info)) with ⟨st, s₁⟩
  rw [hres] at hchg
  cases st
  · obtain ⟨role', hget⟩ := hchg.srch_isSome hrole
    exact .inr ⟨role', s₁, hget, hchg, rfl⟩
  all_goals exact .inl hchg

end

lemma srch_setInfo_self (h : macRoleSrch s.table macid = some role) :
    macRoleSrch (s.setInfo macid info).table macid = some ⟨macid, info⟩ := by
  rw [macRoleSrch, setInfo, get_modify_self (macid_setInfo info)]
  rw [macRoleSrch] at h
  rw [h, ← key_of_get h]
  rfl

lemma srch_setInfo_of_ne {m : ℕ} (h : m ≠ macid) :
    macRoleSrch (s.setInfo macid info).table m = macRoleSrch s.table m :=
  get_modify_of_ne (macid_setInfo info) h s.table

lemma MacRoles.setInfo_setInfo (s : MacRoles) (macid : ℕ) (info info' : MacRoleInfo) :
    (s.setInfo macid info).setInfo macid info' = s.setInfo macid info' :=
  congrArg (fun l => { s with table := l })
    (modify_modify (macid_setInfo info) (fun r => { r with info := info' }) s.table)

namespace MacRoles

def others (s : MacRoles) (macid : ℕ) : List MacRole := remove MacRole.macid macid s.table

lemma others_setInfo (s : MacRoles) (macid : ℕ) (info : MacRoleInfo) :
    (s.setInfo macid info).others macid = s.others macid :=
  remove_modify (macid_setInfo info) s.table

end MacRoles

lemma srchByBssid_modify (f : MacRole → MacRole) {i : ℕ}
    (hf : ∀ r, (f r).info.bInfo.bssidCamIdx ≠ i) : ∀ l : List MacRole,
    macRoleSrchByBssid (modify MacRole.macid macid f l) i
      = macRoleSrchByBssid (remove MacRole.macid macid l) i
  | [] => rfl
  | r :: l => by
    have ih := srchByBssid_modify f hf l
    unfold macRoleSrchByBssid Keyed.remove at ih ⊢
    unfold Keyed.modify
    by_cases hr : r.macid = macid
    · rw [if_pos hr, eraseP_cons_of_pos (by simpa using hr), find?_cons_of_neg (by simp [hf r])]
    · rw [if_neg hr, eraseP_cons_of_neg (by simpa using hr), find?_cons, find?_cons, ih]

lemma bssidScan_congr {roles' : List MacRole} {info info' : MacRoleInfo}
    (hhit : ∀ r, bssidHit info' r ↔ bssidHit info r) : ∀ (is : List ℕ) (cur : ℕ),
      (∀ i ∈ is, macRoleSrchByBssid roles' i = macRoleSrchByBssid roles i) →
      bssidScan roles' info' is cur = bssidScan roles info is cur
  | [], _, _ => rfl
  | i :: is, cur, h => by
    have ih := fun cur' => bssidScan_congr hhit is cur' fun j hj => h j (mem_cons_of_mem i hj)
    simp only [bssidScan, h i mem_cons_self, hhit, ih]

def BssidRoom (roles : List MacRole) (info : MacRoleInfo) : Prop :=
  (bssidScan roles info (range bssidNum) bssidNum).1 ≠ bssidNum
  deriving Decidable

lemma bssidRoom_congr {info info' : MacRoleInfo}
    (hhit : ∀ r, bssidHit info' r ↔ bssidHit info r) :
    BssidRoom roles info' ↔ BssidRoom roles info := by
  rw [BssidRoom, BssidRoom, bssidScan_congr hhit _ _ fun _ _ => rfl]

/-- Every call succeeds. -/
structure MacRoleEnv.Ok (env : MacRoleEnv) : Prop where
  pause : env.pause = .success
  fwRole : env.fwRole = .success
  join : env.join = .success
  camPrep : env.camPrep = .success
  camSend : env.camSend = .success
  secUpd : env.secUpd = .success
  secMalloc : env.secMalloc = true

@[local simp]
lemma findAvailBssidCamEntry_hidden (s : MacRoles) (macid : ℕ) (info : MacRoleInfo) :
    findAvailBssidCamEntry (s.hidden macid) info
      = findAvailBssidCamEntry (s.others macid) info := by
  have hscan : bssidScan (s.hidden macid) info (range bssidNum) bssidNum = _ :=
    bssidScan_congr (fun _ => Iff.rfl) _ _ fun i hi =>
      srchByBssid_modify _ (fun _ => (mem_range.1 hi).ne') s.table
  rw [findAvailBssidCamEntry, hscan]
  rfl

lemma findAvailBssidCamEntry_of_room (h : BssidRoom roles info) :
    findAvailBssidCamEntry roles info = (.success, placedInfo roles info) := by
  exact congrArg (·, _) (if_neg h)

lemma findAvailBssidCamEntry_of_not_room (h : ¬ BssidRoom roles info) :
    findAvailBssidCamEntry roles info = (.bssidcamfl, placedInfo roles info) := by
  exact congrArg (·, _) (if_pos (not_not.1 h))

lemma updRole_of_room (henv : env.Ok) (h : BssidRoom (s.others r.macid) r.info) :
    s.updRole env r = (.success, { s.setInfo r.macid (placedInfo (s.others r.macid) r.info) with
      bssidCam := writeBssidCam (placedInfo (s.others r.macid) r.info) s.bssidCam }) := by
  simp [updRole, macUpdAddrCam, henv.camPrep, selectCamEntries,
    findAvailBssidCamEntry_of_room h, henv.camSend]

lemma updRole_of_not_room (henv : env.Ok) (h : ¬ BssidRoom (s.others r.macid) r.info) :
    s.updRole env r = (.bssidcamfl, s.setInfo r.macid (placedInfo (s.others r.macid) r.info)) := by
  simp [updRole, macUpdAddrCam, henv.camPrep, selectCamEntries,
    findAvailBssidCamEntry_of_not_room h]
  rfl

/-- An AP is added and gets as far as its join info, which fails. -/
structure JoinLeaks (s : MacRoles) (env : MacRoleEnv) (info : MacRoleInfo) : Prop where
  pool : s.pool ≠ 0
  valid : roleInfoValid s.table info .add = .success
  room : s.table.length ≤ macidNum
  pause : env.pause = .success
  fwRole : fwSkips env.fwRole = true
  ap : info.selfRole = .ap
  join : fwSkips env.join = false

def addedInfo (info : MacRoleInfo) : MacRoleInfo :=
  roleInfoInit (secInfoInit { info with aInfo := { info.aInfo with valid := true } })

inductive AddMove (s : MacRoles) (env : MacRoleEnv) (info : MacRoleInfo) :
    MacStatus × MacRoles → Prop
  | refused {st : MacStatus} (h : st ≠ .success) : AddMove s env info (st, s)
  | leaked (h : JoinLeaks s env info) :
      AddMove s env info (env.join, { s with pool := s.pool - 1 })
  | added {st : MacStatus} {info' : MacRoleInfo} {cam : ℕ → BssidCamEnt} (hpool : s.pool ≠ 0)
      (hvalid : roleInfoValid s.table info .add = .success)
      (hcam : macUpdAddrCam env .add s.table (addedInfo info) s.bssidCam = (st, info', cam))
      (haddr : st ≠ .addrcamfl) (hbssid : st ≠ .bssidcamfl) :
      AddMove s env info (.success, { s with
        pool := s.pool - 1, table := s.table ++ [⟨info'.macid, info'⟩], bssidCam := cam })

lemma ne_success_of_not_fwSkips (h : fwSkips st = false) : st ≠ .success := by
  rintro rfl
  exact absurd h (by decide)

lemma macAddRole_move (env : MacRoleEnv) (info : MacRoleInfo) (s : MacRoles) :
    AddMove s env info (macAddRole env info s) := by
  unfold macAddRole
  by_cases hpool : s.pool = 0
  · rw [if_pos hpool]
    exact .refused nofun
  rw [if_neg hpool]
  cases hvalid : roleInfoValid s.table info .add
  · simp only
    split_ifs with hroom hpause hfw hjoin
    · exact .refused nofun
    · exact .refused nofun
    · exact .refused (ne_success_of_not_fwSkips hfw)
    · exact .leaked ⟨hpool, hvalid, Nat.le_of_not_lt hroom, not_not.1 hpause,
        Bool.eq_true_of_not_eq_false hfw, hjoin.1, hjoin.2⟩
    rcases hcam : macUpdAddrCam env .add s.table (addedInfo info) s.bssidCam
      with ⟨st, info', cam⟩
    have hcam' := hcam
    unfold addedInfo at hcam'
    simp only [hcam']
    cases st
    case addrcamfl => exact .refused nofun
    case bssidcamfl => exact .refused nofun
    all_goals exact .added hpool hvalid hcam nofun nofun
  all_goals exact .refused nofun

lemma srch_of_roleInfoValid_add (h : roleInfoValid s.table info .add = .success) :
    macRoleSrch s.table info.macid = none := by
  simp only [roleInfoValid] at h
  split_ifs at h with h1 h2 h3
  simpa using h3

lemma tableOK_macAddRole (env : MacRoleEnv) (info : MacRoleInfo) (h : TableOK s.table) :
    TableOK (macAddRole env info s).2.table := by
  have hmove := macAddRole_move env info s
  generalize macAddRole env info s = res at hmove
  cases hmove with
  | refused | leaked => exact h
  | @added st info' cam hpool hvalid hcam haddr hbssid =>
    have hframe := camFrame_macUpdAddrCam env .add s.table (addedInfo info) s.bssidCam
    rw [hcam] at hframe
    have hnone : macRoleSrch s.table info'.macid = none :=
      hframe.macid ▸ srch_of_roleInfoValid_add hvalid
    refine ⟨h.distinct.append_singleton hnone, forall_mem_append.2
      ⟨h.macid, forall_mem_singleton.2 rfl⟩, forall_mem_append.2 ⟨h.checks, ?_⟩⟩
    exact forall_mem_singleton.2 (hframe.checks.trans (checks_of_roleInfoValid hvalid :))

lemma changeRoleUpd_ok (henv : env.Ok) (hcreate : info.updMode ≠ .create)
    (hother : info.updMode ≠ .other) : (changeRoleUpd env info s).1 = none := by
  unfold changeRoleUpd
  have hsucc : fwSkips .success = true := rfl
  cases hmode : info.updMode
  case create => exact absurd hmode hcreate
  case other => exact absurd hmode hother
  all_goals
    simp [henv.fwRole, henv.join, hsucc]

lemma macChangeRole_ok {role' : MacRole} {s₁ : MacRoles} (henv : env.Ok)
    (hvalid : roleInfoValid s.table info .chg = .success)
    (hrole : macRoleSrch s.table info.macid = some role) (hmode : info.updMode ≠ .other)
    (hs₁ : (changeUpd env info role s).2 = s₁)
    (hrole' : macRoleSrch s₁.table info.macid = some role') :
    macChangeRole env info s = s₁.updRole env role' := by
  have hcreate : info.updMode ≠ .create := by
    intro hc
    simp [roleInfoValid, hc] at hvalid
  have hupd : changeUpd env info role s = (none, s₁) :=
    Prod.ext (changeRoleUpd_ok henv hcreate hmode) hs₁
  rw [macChangeRole_eq hvalid hrole, hupd]
  simp only [hrole']

def removedInfo (info : MacRoleInfo) : MacRoleInfo :=
  roleInfoInit { info with
    aInfo := { info.aInfo with valid := false }, updMode := .remove, opmode := .disconn }

section

variable (henv : env.Ok) (h : TableOK s.table) (hrole : macRoleSrch s.table macid = some r)
include henv h hrole

lemma macChangeRole_remove (roles : List MacRole) :
    macChangeRole env (removeInfo roles r.info) (s.setInfo macid (removeInfo roles r.info))
      = (s.setInfo macid (removedInfo r.info)).updRole env ⟨macid, removedInfo r.info⟩ := by
  have hmem := mem_of_get hrole
  set info := removeInfo roles r.info
  have hmacid : info.macid = macid := (h.macid r hmem).trans (key_of_get hrole)
  have hself : macRoleSrch (s.setInfo macid info).table info.macid = some ⟨macid, info⟩ := by
    rw [hmacid]
    exact srch_setInfo_self hrole
  have hvalid : roleInfoValid (s.setInfo macid info).table info .chg = .success := by
    rw [roleInfoValid, if_neg nofun, hself]
    exact h.checks r hmem
  refine macChangeRole_ok henv hvalid hself nofun ?_ ?_
  · rw [changeUpd, hmacid, setInfo_setInfo, changeRoleUpd_snd, if_neg fun hand => nomatch hand.1]
    rfl
  · rw [hmacid]
    exact srch_setInfo_self hrole

lemma macRemoveRole_of_room (hroom : BssidRoom (s.others macid) (removedInfo r.info)) :
    macRemoveRole env macid s = (.success, { s with
      table := s.others macid
      pool := s.pool + 1
      bssidCam := writeBssidCam (placedInfo (s.others macid) (removedInfo r.info))
        s.bssidCam }) := by
  have hothers := s.others_setInfo macid (removedInfo r.info)
  have hupd := updRole_of_room (s := s.setInfo macid (removedInfo r.info))
    (r := ⟨macid, removedInfo r.info⟩) henv (by rwa [hothers])
  have hrem : remove MacRole.macid macid ((s.setInfo macid (removedInfo r.info)).setInfo macid
      (placedInfo (s.others macid) (removedInfo r.info))).table = s.others macid := by
    rw [setInfo_setInfo]
    exact s.others_setInfo macid _
  simp only [hothers] at hupd
  simp only [macRemoveRole, hrole, macChangeRole_remove henv h hrole, hupd, hrem]
  rfl

lemma macRemoveRole_of_not_room (hroom : ¬ BssidRoom (s.others macid) (removedInfo r.info)) :
    macRemoveRole env macid s
      = (.bssidcamfl, s.setInfo macid (placedInfo (s.others macid) (removedInfo r.info))) := by
  have hothers := s.others_setInfo macid (removedInfo r.info)
  have hupd := updRole_of_not_room (s := s.setInfo macid (removedInfo r.info))
    (r := ⟨macid, removedInfo r.info⟩) henv (by rwa [hothers])
  simp only [hothers, setInfo_setInfo] at hupd
  simp only [macRemoveRole, hrole, macChangeRole_remove henv h hrole, hupd]

end

lemma tableOK_macRemoveRole (env : MacRoleEnv) (macid : ℕ) (h : TableOK s.table) :
    TableOK (macRemoveRole env macid s).2.table := by
  rcases macRemoveRole_kept env macid s with hs | ⟨role, s₁, hget, hs, hres⟩
  · exact hs.table h
  rw [hres]
  have h₁ := hs.table h
  refine ⟨h₁.distinct.remove, fun q hq => ?_, fun q hq => ?_⟩
  · exact h₁.macid q (h₁.distinct.mem_remove_iff.1 hq).1
  · exact h₁.checks q (h₁.distinct.mem_remove_iff.1 hq).1

lemma tableOK_step (ev : MacRoleEv) (h : TableOK s.table) : TableOK (macRoleStep s ev).table := by
  cases ev with
  | add env info => exact tableOK_macAddRole env info h
  | change env info => exact (tableKept_macChangeRole env info s).table h
  | remove env macid => exact tableOK_macRemoveRole env macid h
  | addKey env encType forced macid keyId keyType =>
    exact (tableKept_macStaAddKey env encType forced macid keyId keyType s).table h
  | delKey env macid keyId keyType =>
    exact (tableKept_macStaDelKey env macid keyId keyType s).table h

lemma tableOK_init : TableOK macRolesInit.table :=
  ⟨nodup_nil, fun _ hr => absurd hr not_mem_nil, fun _ hr => absurd hr not_mem_nil⟩

/-- Whatever the firmware answers. -/
theorem role_table_run (evs : List MacRoleEv) :
    TableOK (Run.run macRoleStep macRolesInit evs).table :=
  Run.run_inv_all (P := (TableOK ·.table)) macRoleStep (fun _ => tableOK_step) evs _ tableOK_init

/-- An AP is added only if its join info, where it comes to that, succeeds. -/
def SlotsOK (s : MacRoles) : MacRoleEv → Prop
  | .add env info => ¬ JoinLeaks s env info
  | _ => True

/-- Every slot is in the pool or in the table, and an addition that fails takes none. -/
structure SlotsConserved (s : MacRoles) : Prop where
  total : s.pool + s.table.length = macidNum
  failed : ∀ env info, macRoleSrch s.table info.macid = none → ¬ JoinLeaks s env info →
    (macAddRole env info s).1 ≠ .success →
    macRoleSrch (macAddRole env info s).2.table info.macid = none ∧
      (macAddRole env info s).2.pool = s.pool

lemma macAddRole_failed (hleak : ¬ JoinLeaks s env info)
    (hfail : (macAddRole env info s).1 ≠ .success) : (macAddRole env info s).2 = s := by
  have hmove := macAddRole_move env info s
  generalize macAddRole env info s = res at hmove hfail
  cases hmove with
  | refused => rfl
  | leaked h => exact absurd h hleak
  | added => exact absurd rfl hfail

lemma slots_step (ev : MacRoleEv) (h : s.pool + s.table.length = macidNum) (hok : SlotsOK s ev) :
    (macRoleStep s ev).pool + (macRoleStep s ev).table.length = macidNum := by
  have hsame : ∀ {s' : MacRoles}, SameSlots s s' → s'.pool + s'.table.length = macidNum :=
    fun hs => by rw [hs.pool, hs.length, h]
  cases ev with
  | add env info =>
    have hmove := macAddRole_move env info s
    simp only [macRoleStep, macRoleCall]
    generalize macAddRole env info s = res at hmove
    cases hmove with
    | refused => exact h
    | leaked hleak => exact absurd hleak hok
    | added hpool =>
      simp
      omega
  | change env info => exact hsame (tableKept_macChangeRole env info s).toSameSlots
  | remove env macid =>
    simp only [macRoleStep, macRoleCall]
    rcases macRemoveRole_kept env macid s with hs | ⟨role, s₁, hget, hs, hres⟩
    · exact hsame hs.toSameSlots
    have hlen := length_remove hget
    have hpos := length_pos_of_mem (mem_of_get hget)
    have htotal := hsame hs.toSameSlots
    rw [hres]
    simp only [hlen]
    omega
  | addKey env encType forced macid keyId keyType =>
    exact hsame (tableKept_macStaAddKey env encType forced macid keyId keyType s).toSameSlots
  | delKey env macid keyId keyType =>
    exact hsame (tableKept_macStaDelKey env macid keyId keyType s).toSameSlots

theorem role_slots_run (evs : List MacRoleEv)
    (hok : Run.RunOK macRoleStep SlotsOK macRolesInit evs) :
    SlotsConserved (Run.run macRoleStep macRolesInit evs) := by
  refine ⟨Run.run_inv macRoleStep SlotsOK (fun _ ev h hok => slots_step ev h hok) evs _ rfl hok,
    fun env info hnone hleak hfail => ?_⟩
  rw [macAddRole_failed hleak hfail]
  exact ⟨hnone, rfl⟩

def macRoleEnvOk : MacRoleEnv := ⟨.success, .success, .success, .success, .success, .success, true⟩

lemma macRoleEnvOk_ok : macRoleEnvOk.Ok := ⟨rfl, rfl, rfl, rfl, rfl, rfl, rfl⟩

def apRoleInfo (macid : ℕ) (bssid : EthAddr) : MacRoleInfo where
  selfRole := .ap
  netType := .ap
  updMode := .create
  opmode := .disconn
  band := 0
  maskSel := .noMsk
  addrMask := 0
  macid := macid
  wmm := 0
  selfMac := bssid
  targetMac := bssid
  bssid := bssid
  isMulEnt := false
  secEntMode := 0
  aInfo := ⟨0, false, 0, .noMsk, 0, 0, fun _ => secEntClear⟩
  bInfo := ⟨0, false, 0, bssid⟩

/-- An AP is added and removed. -/
theorem role_slots_ap : SlotsConserved (Run.run macRoleStep macRolesInit
      [.add macRoleEnvOk (apRoleInfo 0 fun _ => 0), .remove macRoleEnvOk 0]) := by
  refine role_slots_run _ ⟨fun h => ?_, trivial, trivial⟩
  exact absurd h.join (by decide)

/-- The join info of an AP fails, and its slot is in neither place. -/
theorem role_slots_fails :
    let s := Run.run macRoleStep macRolesInit
      [.add { macRoleEnvOk with join := .nobuf } (apRoleInfo 0 fun _ => 0)]
    s.pool + s.table.length ≠ macRolesInit.pool + macRolesInit.table.length := by
  decide

end Rtl8852be

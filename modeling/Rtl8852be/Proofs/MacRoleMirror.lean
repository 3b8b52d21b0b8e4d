import Rtl8852be.Proofs.MacRoleCam

/-!
# The BSSID CAM and the roles

Each update writes the BSSID of the role to the entry selected for it. The CAM goes on to mirror the
roles where the role keeps to its entry or leaves it to another (`Selects`), and where a removed
role writes to an entry still in use (`LeavesShared`).
-/

namespace Rtl8852be

open Function Keyed

variable {s s' : MacRoles} {env : MacRoleEnv} {info : MacRoleInfo} {macid : ℕ} {r : MacRole}
  {roles : List MacRole}
variable {role : MacRole}

def camImage (cam : ℕ → BssidCamEnt) (i : ℕ) : Option (EthAddr × ℕ) :=
  if (cam i).valid then some ((cam i).bssid, (cam i).bbSel) else none

def entKey (r : MacRole) : EthAddr × ℕ := (r.info.bInfo.bssid, r.info.bInfo.bbSel)

lemma camImage_writeBssidCam (hvalid : info.bInfo.valid = true) (cam : ℕ → BssidCamEnt) :
    camImage (writeBssidCam info cam) = update (camImage cam) info.bInfo.bssidCamIdx
      (some (info.bInfo.bssid, info.bInfo.bbSel)) := by
  funext i
  by_cases hi : i = info.bInfo.bssidCamIdx
  · rw [hi, update_self, camImage, writeBssidCam, update_self]
    exact if_pos hvalid
  · rw [update_of_ne hi, camImage, writeBssidCam, update_of_ne hi]
    rfl

/-- What is written to the CAM for the role is its own BSSID. -/
def OwnBssid (info : MacRoleInfo) : Prop := info.bInfo.bssid = info.bssid

structure MirrorInv (s : MacRoles) : Prop where
  table : TableOK s.table
  cam : RolesCamOK s.table
  own : ∀ r ∈ s.table, OwnBssid r.info
  mirrors : Mirrors bssidSlot entKey (roleSet s.table) (camImage s.bssidCam)

/-- The role that is shared with at the index, if the search ends there, has the same BSSID. -/
def KeepsAt (roles : List MacRole) (info : MacRoleInfo) (i : ℕ) : Prop :=
  NoHitBelow roles info i → ∀ q ∈ macRoleSrchByBssid roles i, bssidHit info q →
    info.bInfo.bssid = q.info.bInfo.bssid
  deriving Decidable

def KeepsEntry (roles : List MacRole) (info : MacRoleInfo) : Prop :=
  ∀ i < bssidNum, KeepsAt roles info i

instance (roles : List MacRole) (info : MacRoleInfo) : Decidable (KeepsEntry roles info) :=
  inferInstanceAs (Decidable (∀ i < bssidNum, _))

/-- The role `r` finds an entry beside the given ones. If it is alone there, it had nobody to share
with, and all lower indices are in use. -/
structure Selects (roles : List MacRole) (r : MacRole) (info : MacRoleInfo) : Prop where
  avail : BssidAvail roles info
  keeps : KeepsEntry roles info
  stays : (∀ q ∈ roles, bssidSlot q ≠ bssidSlot r) →
    NoHitBelow roles info bssidNum ∧ TakenBelow roles (bssidSlot r)

/-- The role `r` leaves an index that another one has, and what is written last goes to an entry in
use. -/
structure LeavesShared (roles : List MacRole) (r : MacRole) (info : MacRoleInfo) : Prop where
  shared : ∃ q ∈ roles, bssidSlot q = bssidSlot r
  hit : ¬ NoHitBelow roles info bssidNum
  keeps : KeepsEntry roles info

lemma placedInfo_bssid (hcam : RolesCamOK roles) (havail : BssidAvail roles info)
    (hkeeps : KeepsEntry roles info) : (placedInfo roles info).bInfo.bssid = info.bInfo.bssid := by
  cases placement hcam havail with
  | share hq hhit hidx hfirst hlt hfound hbssid =>
    rw [hbssid, hkeeps _ hlt hfirst _ hfound hhit, ite_self]
  | fresh hlt hfree hlow hno hbssid => exact hbssid

lemma entKey_placed (hcam : RolesCamOK roles) (hinfo : CamInfoOK info)
    (havail : BssidAvail roles info) (hkeeps : KeepsEntry roles info) {q : MacRole} (hq : q ∈ roles)
    (hhit : bssidHit info q) (hfirst : NoHitBelow roles info q.info.bInfo.bssidCamIdx)
    (hlt : q.info.bInfo.bssidCamIdx < bssidNum)
    (hfound : macRoleSrchByBssid roles q.info.bInfo.bssidCamIdx = some q) (macid : ℕ) :
    entKey ⟨macid, placedInfo roles info⟩ = entKey q := by
  refine Prod.ext ((placedInfo_bssid hcam havail hkeeps).trans (hkeeps _ hlt hfirst q hfound hhit))
    ?_
  calc info.bInfo.bbSel = info.band := hinfo.bbSel
    _ = q.info.band := hhit.2
    _ = q.info.bInfo.bbSel := (hcam q hq).bbSel.symm

lemma entKey_eq_placed {R : Set MacRole} {image : ℕ → Option (EthAddr × ℕ)}
    (h : Mirrors bssidSlot entKey R image) (hsub : roleSet roles ⊆ R) (hcam : RolesCamOK roles)
    (hinfo : CamInfoOK info) (havail : BssidAvail roles info) (hkeeps : KeepsEntry roles info)
    (macid : ℕ) : ∀ b ∈ roleSet roles, bssidSlot b = bssidSlot ⟨macid, placedInfo roles info⟩ →
      entKey b = entKey ⟨macid, placedInfo roles info⟩ := by
  intro b hb hslot
  cases placement hcam havail with
  | share hq hhit hidx hfirst hlt hfound =>
    rw [entKey_placed hcam hinfo havail hkeeps hq hhit hfirst hlt hfound]
    exact h.key_eq (hsub hb) (hsub hq) (hslot.trans hidx)
  | fresh hlt hfree => exact absurd hslot (srchByBssid_none hfree hb (hcam b hb).valid)

lemma Selects.slot_of_alone (hsel : Selects roles r info) (hcam : RolesCamOK roles)
    (halone : ∀ q ∈ roles, bssidSlot q ≠ bssidSlot r) (macid : ℕ) :
    bssidSlot ⟨macid, placedInfo roles info⟩ = bssidSlot r := by
  obtain ⟨hno, htaken⟩ := hsel.stays halone
  cases placement hcam hsel.avail with
  | share hq hhit hidx hfirst hlt hfound => exact absurd hhit (hno _ hlt _ hfound)
  | fresh hlt hfree hlow =>
    rcases Nat.lt_trichotomy (bssidSlot ⟨macid, placedInfo roles info⟩) (bssidSlot r)
      with hless | heq | hless
    · -- a lower index would be free
      have hsome := htaken _ hless
      rw [show macRoleSrchByBssid roles (bssidSlot ⟨macid, placedInfo roles info⟩) = none
        from hfree] at hsome
      cases hsome
    · exact heq
    · obtain ⟨q, hq⟩ := Option.isSome_iff_exists.1 (hlow _ hless)
      obtain ⟨hmem, hslot, -⟩ := srchByBssid_some hq
      exact absurd hslot (halone q hmem)

lemma mem_others_or_eq (h : TableOK s.table) (hrole : macRoleSrch s.table macid = some r)
    {q : MacRole} (hq : q ∈ s.table) : q = r ∨ q ∈ s.others macid := by
  by_cases hm : q.macid = macid
  · exact .inl (h.distinct.eq_of_key hq (mem_of_get hrole) (hm.trans (key_of_get hrole).symm))
  · exact .inr (h.distinct.mem_remove_iff.2 ⟨hq, hm⟩)

lemma MirrorInv.replaced (h : MirrorInv s) (hrole : macRoleSrch s.table macid = some r)
    (hinfo : CamInfoOK info) (hvalid : info.aInfo.valid = true) (hown : OwnBssid info)
    (hsel : Selects (s.others macid) r info) (hrep : Replaced s macid info s')
    (htable : TableOK s'.table) : MirrorInv s' := by
  have hothers := h.cam.others macid
  have hsub := others_subset s macid
  have hplaced := roleCamOK_placedInfo (s.others macid) hinfo hvalid
  refine ⟨htable, ?_, ?_, ?_⟩
  · rw [hrep.table]
    exact forall_setInfo h.cam hplaced
  · rw [hrep.table]
    exact forall_setInfo (P := OwnBssid) h.own
      ((placedInfo_bssid hothers hsel.avail hsel.keeps).trans hown)
  rw [hrep.table, hrep.bssidCam, roleSet_setInfo h.table hrole,
    camImage_writeBssidCam hplaced.bValid]
  refine h.mirrors.write (a := ⟨macid, placedInfo (s.others macid) info⟩) hsub
    (entKey_eq_placed h.mirrors hsub hothers hinfo hsel.avail hsel.keeps macid) fun b hb => ?_
  rcases mem_others_or_eq h.table hrole hb with rfl | hb
  · by_cases halone : ∀ q ∈ s.others macid, bssidSlot q ≠ bssidSlot b
    · exact .inl (hsel.slot_of_alone hothers halone macid).symm
    · push Not at halone
      exact .inr halone
  · exact .inr ⟨b, hb, rfl⟩

lemma mirrorInv_add (henv : env.Ok)
    (hkeeps : roleInfoValid s.table info .add = .success → KeepsEntry s.table (roleInfoInit info))
    (h : MirrorInv s) : MirrorInv (macAddRole env info s).2 := by
  have htable := tableOK_macAddRole env info h.table
  have hmove := macAddRole_move env info s
  generalize macAddRole env info s = res at hmove htable
  cases hmove with
  | refused => exact h
  | leaked => exact ⟨htable, h.cam, h.own, h.mirrors⟩
  | @added st info' cam hpool hvalid hcam haddr hbssid =>
    obtain ⟨i, hi, hfree, hroom, rfl, rfl⟩ := macUpdAddrCam_added henv hcam haddr hbssid
    have hinfo := camInfoOK_added info i
    have hplaced := roleCamOK_placedInfo s.table hinfo rfl
    have havail := (bssidRoom_iff h.cam).1 hroom
    have hown := placedInfo_bssid h.cam havail (hkeeps hvalid)
    refine ⟨htable, h.cam.append hplaced,
      List.forall_mem_append.2 ⟨h.own, List.forall_mem_singleton.2 hown⟩, ?_⟩
    rw [roleSet_append, camImage_writeBssidCam hplaced.bValid]
    exact h.mirrors.write (a := ⟨_, placedInfo s.table ((addedInfo info).atAddr i)⟩) subset_rfl
      (entKey_eq_placed h.mirrors subset_rfl h.cam hinfo havail (hkeeps hvalid) _)
      fun b hb => .inr ⟨b, hb, rfl⟩

/-- The info passed to `mac_change_role` has the index, the BSSID and the band of the role. -/
structure SameEntry (r : MacRole) (info : MacRoleInfo) : Prop where
  idx : info.bInfo.bssidCamIdx = r.info.bInfo.bssidCamIdx
  bssid : info.bssid = r.info.bInfo.bssid
  band : info.band = r.info.band

lemma macChangeRole_other (hvalid : roleInfoValid s.table info .chg = .success)
    (hrole : macRoleSrch s.table info.macid = some role) (hmode : info.updMode = .other) :
    (macChangeRole env info s).2 = s.setInfo info.macid (changeInfo info role) := by
  have hmode' : (changeInfo info role).updMode = .other := hmode
  rw [macChangeRole_eq hvalid hrole]
  simp only [changeUpd, changeRoleUpd, hmode']

lemma mirrorInv_change_other (h : MirrorInv s)
    (hvalid : roleInfoValid s.table info .chg = .success)
    (hrole : macRoleSrch s.table info.macid = some role) (hmode : info.updMode = .other)
    (hsame : SameEntry role info) : MirrorInv (macChangeRole env info s).2 := by
  have htable := (tableKept_macChangeRole env info s).table h.table
  have hmem := mem_of_get hrole
  have hok := h.cam role hmem
  rw [macChangeRole_other hvalid hrole hmode] at htable ⊢
  have hslot : bssidSlot ⟨info.macid, changeInfo info role⟩ = bssidSlot role := hsame.idx
  have hkey : entKey ⟨info.macid, changeInfo info role⟩ = entKey role :=
    Prod.ext hsame.bssid (hsame.band.trans hok.bbSel.symm)
  refine ⟨htable, forall_setInfo h.cam ⟨⟨rfl, rfl⟩, hok.valid, ?_⟩, ?_, ?_⟩
  · exact hok.idx.trans hsame.idx.symm
  · exact forall_setInfo (P := OwnBssid) h.own rfl
  have hwrite := h.mirrors.write (a := ⟨info.macid, changeInfo info role⟩)
    (others_subset s info.macid) (fun b hb heq => ?_) fun b hb => ?_
  · rw [hslot, hkey, ← h.mirrors.held role hmem, update_eq_self] at hwrite
    rwa [roleSet_setInfo h.table hrole]
  · rw [hkey]
    exact h.mirrors.key_eq (others_subset s info.macid hb) hmem (heq.trans hslot)
  · rcases mem_others_or_eq h.table hrole hb with rfl | hb
    · exact .inl hslot.symm
    · exact .inr ⟨b, hb, rfl⟩

lemma mirrorInv_change (henv : env.Ok) (hok : roleInfoValid s.table info .chg = .success →
      ∀ r ∈ macRoleSrch s.table info.macid, if info.updMode = .other then SameEntry r info
        else Selects (s.others info.macid) r (roleInfoInit info))
    (h : MirrorInv s) : MirrorInv (macChangeRole env info s).2 := by
  by_cases hvalid : roleInfoValid s.table info .chg = .success
  · by_cases hmode : info.updMode = .other
    · obtain ⟨role, hrole⟩ := srch_of_roleInfoValid_chg hvalid
      have hsame := hok hvalid role hrole
      rw [if_pos hmode] at hsame
      exact mirrorInv_change_other h hvalid hrole hmode hsame
    · obtain ⟨role, mode, ents, hrole, hrep, -⟩ := macChangeRole_replaced henv hvalid hmode
      have hsel := hok hvalid role hrole
      rw [if_neg hmode] at hsel
      have hsel' : Selects (s.others info.macid) role
          ((changeInfo info role).withKeys mode ents) := ⟨hsel.avail, hsel.keeps, hsel.stays⟩
      obtain ⟨-, hrep⟩ := hrep ((bssidRoom_iff (h.cam.others info.macid)).2 hsel'.avail)
      exact h.replaced hrole (camInfoOK_changed info role mode ents)
        (h.cam role (mem_of_get hrole)).valid rfl hsel' hrep
        ((tableKept_macChangeRole env info s).table h.table)
  · rwa [macChangeRole_of_not_valid hvalid]

lemma LeavesShared.avail (h : LeavesShared roles r info) : BssidAvail roles info := by
  have hhit := h.hit
  simp [NoHitBelow] at hhit
  obtain ⟨i, hi, q, hq, hhit⟩ := hhit
  refine ⟨i, hi, fun q' hq' => ?_⟩
  cases hq.symm.trans hq'
  exact hhit

lemma mirrorInv_remove (henv : env.Ok) (hok : ∀ r ∈ macRoleSrch s.table macid,
      LeavesShared (s.others macid) r (removedInfo r.info))
    (h : MirrorInv s) : MirrorInv (macRemoveRole env macid s).2 := by
  have htable := tableOK_macRemoveRole env macid h.table
  rcases hrole : macRoleSrch s.table macid with _ | r
  · simp only [macRemoveRole, hrole]
    exact h
  have hleaves := hok r hrole
  have hothers := h.cam.others macid
  have hroom := (bssidRoom_iff hothers).2 hleaves.avail
  rw [macRemoveRole_of_room henv h.table hrole hroom] at htable ⊢
  have hrest : Mirrors bssidSlot entKey (roleSet (s.others macid)) (camImage s.bssidCam) := by
    refine h.mirrors.leave (others_subset s macid) fun b hb => ?_
    rcases mem_others_or_eq h.table hrole hb with rfl | hb
    · exact hleaves.shared
    · exact ⟨b, hb, rfl⟩
  have hinfo : CamInfoOK (removedInfo r.info) := ⟨rfl, rfl⟩
  refine ⟨htable, hothers, fun q hq => h.own q (others_subset s macid hq), ?_⟩
  -- the write goes to an entry that holds what is written
  cases placement hothers hleaves.avail with
  | @share q hq hhit hidx hfirst hlt hfound =>
    have hkey := entKey_placed hothers hinfo hleaves.avail hleaves.keeps hq hhit hfirst hlt hfound
      macid
    have hheld := hrest.held q hq
    rw [← hkey] at hheld
    rw [camImage_writeBssidCam rfl, hidx]
    rw [show some ((placedInfo (s.others macid) (removedInfo r.info)).bInfo.bssid,
      (placedInfo (s.others macid) (removedInfo r.info)).bInfo.bbSel)
        = camImage s.bssidCam q.info.bInfo.bssidCamIdx from hheld.symm, update_eq_self]
    exact hrest
  | fresh hlt hfree hlow hno => exact absurd hno hleaves.hit

lemma MirrorInv.updKeys (h : MirrorInv s) {k : Fin 7} {e : SecEnt} {st : MacStatus} {t : MacRoles}
    (hupd : (t.setSecEnt r k e).updKeys env r.macid = (st, s')) (ht : t.table = s.table)
    (hcam : t.bssidCam = s.bssidCam) (henv : env.Ok)
    (hrole : macRoleSrch s.table macid = some r) (hsel : Selects (s.others macid) r r.info) :
    MirrorInv s' := by
  obtain rfl : r.macid = macid := key_of_get hrole
  have hmem := mem_of_get hrole
  have hok := h.cam r hmem
  have hroom := (bssidRoom_iff (h.cam.others r.macid)).2 hsel.avail
  have hrep := replaced_updKeys hupd ht hcam henv hrole hroom
  have hinfo : CamInfoOK (r.info.withKeys r.info.aInfo.secEntMode
      (update r.info.aInfo.secEnt k e)) := ⟨hok.bValid, hok.bbSel⟩
  have hsel' : Selects (s.others r.macid) r (r.info.withKeys r.info.aInfo.secEntMode
      (update r.info.aInfo.secEnt k e)) := ⟨hsel.avail, hsel.keeps, hsel.stays⟩
  have htable : TableOK s'.table :=
    (tableKept_setSecEnt_updKeys hupd (ht ▸ hmem)).table (ht ▸ h.table)
  exact h.replaced hrole hinfo hok.valid (h.own r hmem) hsel' hrep htable

lemma mirrorInv_addKey (henv : env.Ok) (encType : ℕ) (forced : Option ℕ) (keyId : ℕ)
    (keyType : SecCamKeyType) (hok : ∀ r ∈ macRoleSrch s.table macid,
      AddKeyReaches s env encType forced r keyType → Selects (s.others macid) r r.info)
    (h : MirrorInv s) : MirrorInv (macStaAddKey env encType forced macid keyId keyType s).2 := by
  have hmove := macStaAddKey_move env encType forced macid keyId keyType s
  generalize macStaAddKey env encType forced macid keyId keyType s = res at hmove
  cases hmove with
  | refused => exact ⟨h.table, h.cam, h.own, h.mirrors⟩
  | failed hrole hreach hidx hk hupd =>
    exact h.updKeys hupd rfl rfl henv hrole (hok _ hrole hreach)
  | added hrole hreach hidx hk hupd =>
    have hs₁ := h.updKeys hupd rfl rfl henv hrole (hok _ hrole hreach)
    exact ⟨hs₁.table, hs₁.cam, hs₁.own, hs₁.mirrors⟩

lemma mirrorInv_delKey (henv : env.Ok) (keyId : ℕ) (keyType : SecCamKeyType)
    (hok : ∀ r ∈ macRoleSrch s.table macid, (∃ k, DeleteSlot r.info.aInfo keyType keyId k) →
      Selects (s.others macid) r r.info)
    (h : MirrorInv s) : MirrorInv (macStaDelKey env macid keyId keyType s).2 := by
  have hmove := macStaDelKey_move env macid keyId keyType s
  generalize macStaDelKey env macid keyId keyType s = res at hmove
  cases hmove with
  | refused => exact h
  | failed hrole hk hupd =>
    exact h.updKeys hupd rfl rfl henv hrole (hok _ hrole ⟨_, hk⟩)
  | deleted hrole hk hupd =>
    have hs₁ := h.updKeys hupd rfl rfl henv hrole (hok _ hrole ⟨_, hk⟩)
    exact ⟨hs₁.table, hs₁.cam, hs₁.own, hs₁.mirrors⟩

/-- All calls succeed. A role that is added shares only an entry with its BSSID, one that is updated
selects as `Selects` has it, and one that is removed leaves its entry to another. -/
def MirrorOK (s : MacRoles) : MacRoleEv → Prop
  | .add env info => env.Ok ∧
      (roleInfoValid s.table info .add = .success → KeepsEntry s.table (roleInfoInit info))
  | .change env info => env.Ok ∧ (roleInfoValid s.table info .chg = .success →
      ∀ r ∈ macRoleSrch s.table info.macid, if info.updMode = .other then SameEntry r info
        else Selects (s.others info.macid) r (roleInfoInit info))
  | .remove env macid => env.Ok ∧ ∀ r ∈ macRoleSrch s.table macid,
      LeavesShared (s.others macid) r (removedInfo r.info)
  | .addKey env encType forced macid _ keyType => env.Ok ∧ ∀ r ∈ macRoleSrch s.table macid,
      AddKeyReaches s env encType forced r keyType → Selects (s.others macid) r r.info
  | .delKey env macid keyId keyType => env.Ok ∧ ∀ r ∈ macRoleSrch s.table macid,
      (∃ k, DeleteSlot r.info.aInfo keyType keyId k) → Selects (s.others macid) r r.info

lemma mirrorInv_step (ev : MacRoleEv) (h : MirrorInv s) (hok : MirrorOK s ev) :
    MirrorInv (macRoleStep s ev) := by
  cases ev with
  | add env info => exact mirrorInv_add hok.1 hok.2 h
  | change env info => exact mirrorInv_change hok.1 hok.2 h
  | remove env macid => exact mirrorInv_remove hok.1 hok.2 h
  | addKey env encType forced macid keyId keyType =>
    exact mirrorInv_addKey hok.1 encType forced keyId keyType hok.2 h
  | delKey env macid keyId keyType => exact mirrorInv_delKey hok.1 keyId keyType hok.2 h

lemma mirrorInv_init : MirrorInv macRolesInit := by
  have hnone : ∀ r, r ∉ roleSet macRolesInit.table := fun r => List.not_mem_nil
  refine ⟨tableOK_init, fun r hr => absurd hr (hnone r), fun r hr => absurd hr (hnone r),
    fun r hr => absurd hr (hnone r), ?_⟩
  intro i k hk
  cases hk

/-- An entry of the BSSID CAM is valid if a valid role has its index, and holds its BSSID and
band. -/
structure BssidCamMirrors (s : MacRoles) : Prop where
  valid_iff : ∀ i, (s.bssidCam i).valid = true ↔
    ∃ r ∈ s.table, r.info.aInfo.valid = true ∧ r.info.aInfo.bssidCamIdx = i
  holds : ∀ r ∈ s.table, r.info.aInfo.valid = true →
    (s.bssidCam r.info.aInfo.bssidCamIdx).bssid = r.info.bssid ∧
      (s.bssidCam r.info.aInfo.bssidCamIdx).bbSel = r.info.band

lemma MirrorInv.bssidCamMirrors (h : MirrorInv s) : BssidCamMirrors s := by
  have hent : ∀ r ∈ s.table, (s.bssidCam r.info.aInfo.bssidCamIdx).valid = true ∧
      (s.bssidCam r.info.aInfo.bssidCamIdx).bssid = r.info.bInfo.bssid ∧
      (s.bssidCam r.info.aInfo.bssidCamIdx).bbSel = r.info.bInfo.bbSel := by
    intro r hr
    rw [(h.cam r hr).idx]
    have himage := h.mirrors.held r hr
    unfold camImage at himage
    split_ifs at himage with hvalid
    exact ⟨hvalid, Prod.mk.inj (Option.some.inj himage)⟩
  refine ⟨fun i => ⟨fun hi => ?_, ?_⟩, fun r hr _ => ?_⟩
  · obtain ⟨r, hr, hslot⟩ := h.mirrors.owner i _ (if_pos hi)
    exact ⟨r, hr, (h.cam r hr).valid, (h.cam r hr).idx.trans hslot⟩
  · rintro ⟨r, hr, -, rfl⟩
    exact (hent r hr).1
  · obtain ⟨-, hbssid, hbb⟩ := hent r hr
    exact ⟨hbssid.trans (h.own r hr), hbb.trans (h.cam r hr).bbSel⟩

theorem bssid_cam_run (evs : List MacRoleEv)
    (hok : Run.RunOK macRoleStep MirrorOK macRolesInit evs) :
    BssidCamMirrors (Run.run macRoleStep macRolesInit evs) :=
  (Run.run_inv macRoleStep MirrorOK (fun _ ev h hok => mirrorInv_step ev h hok) evs _
    mirrorInv_init hok).bssidCamMirrors

/-- Two APs share a BSSID, one of them gets a key and leaves. -/
theorem bssid_cam_shared : BssidCamMirrors (Run.run macRoleStep macRolesInit
      [.add macRoleEnvOk (apRoleInfo 0 fun _ => 0), .add macRoleEnvOk (apRoleInfo 1 fun _ => 0),
        .addKey macRoleEnvOk 0 none 1 0 .uni, .remove macRoleEnvOk 1]) := by
  refine bssid_cam_run _ ⟨⟨macRoleEnvOk_ok, fun _ => by decide⟩,
    ⟨macRoleEnvOk_ok, fun _ => by decide⟩, ⟨macRoleEnvOk_ok, fun r hr hreach => ?_⟩,
    ⟨macRoleEnvOk_ok, fun r hr => ?_⟩, trivial⟩
  · clear hreach
    constructor
    all_goals
      revert r hr
      decide
  · constructor
    all_goals
      revert r hr
      decide

/-- An AP leaves, and the entry that only it had stays valid. -/
theorem bssid_cam_fails : ¬ BssidCamMirrors (Run.run macRoleStep macRolesInit
      [.add macRoleEnvOk (apRoleInfo 0 fun _ => 0), .remove macRoleEnvOk 0]) := by
  intro h
  obtain ⟨r, hr, -⟩ := (h.valid_iff 0).1 (by decide)
  have hlen := List.length_pos_of_mem hr
  exact absurd hlen (by decide)

end Rtl8852be

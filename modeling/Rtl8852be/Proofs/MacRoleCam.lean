import Rtl8852be.Lib.SharedSlots
import Rtl8852be.Proofs.MacRoleTable

/-!
# The entries of the address and BSSID CAM

Every update of a role selects its BSSID CAM entry again (`bssidScan_choice`): that of a role it can
share with, or the lowest that no other role has. The rest follows from the rules for slots shared
by key.
-/

namespace Rtl8852be

open Function List Keyed MacRoles Option Nat Prod

variable {s s' : MacRoles} {info : MacRoleInfo} {macid : ℕ} {r : MacRole} {roles : List MacRole}
variable {st : MacStatus}

lemma srchByBssid_some {i : ℕ} (h : macRoleSrchByBssid roles i = some r) :
    r ∈ roles ∧ r.info.bInfo.bssidCamIdx = i ∧ r.info.aInfo.valid = true := by
  have hfound := find?_some h
  exact ⟨mem_of_find?_eq_some h, of_decide_eq_true hfound⟩

lemma srchByBssid_none {i : ℕ} (h : macRoleSrchByBssid roles i = none) (hr : r ∈ roles)
    (hvalid : r.info.aInfo.valid = true) : r.info.bInfo.bssidCamIdx ≠ i := by
  intro hi
  have hnot := find?_eq_none.1 h r hr
  exact hnot (decide_eq_true ⟨hi, hvalid⟩)

lemma srchByBssid_of_mem (hr : r ∈ roles) (hvalid : r.info.aInfo.valid = true) :
    ∃ q, macRoleSrchByBssid roles r.info.bInfo.bssidCamIdx = some q := by
  rcases hq : macRoleSrchByBssid roles r.info.bInfo.bssidCamIdx with _ | q
  · exact absurd rfl (srchByBssid_none hq hr hvalid)
  · exact ⟨q, rfl⟩

def NoHitBelow (roles : List MacRole) (info : MacRoleInfo) (n : ℕ) : Prop :=
  ∀ j < n, ∀ q ∈ macRoleSrchByBssid roles j, ¬ bssidHit info q

instance (roles : List MacRole) (info : MacRoleInfo) (n : ℕ) :
    Decidable (NoHitBelow roles info n) :=
  inferInstanceAs (Decidable (∀ j < n, _))

def TakenBelow (roles : List MacRole) (n : ℕ) : Prop := ∀ j < n, (macRoleSrchByBssid roles j).isSome

instance (roles : List MacRole) (n : ℕ) : Decidable (TakenBelow roles n) :=
  inferInstanceAs (Decidable (∀ j < n, _))

inductive BssidChoice (roles : List MacRole) (info : MacRoleInfo) : ℕ × Option MacRole → Prop
  | share {i : ℕ} {q : MacRole} (hi : i < bssidNum) (hq : macRoleSrchByBssid roles i = some q)
      (hhit : bssidHit info q) (hfirst : NoHitBelow roles info i) :
      BssidChoice roles info (q.info.aInfo.bssidCamIdx, some q)
  | fresh {i : ℕ} (hi : i < bssidNum) (hfree : macRoleSrchByBssid roles i = none)
      (hlow : TakenBelow roles i) (hno : NoHitBelow roles info bssidNum) :
      BssidChoice roles info (i, none)
  | full (htaken : TakenBelow roles bssidNum) (hno : NoHitBelow roles info bssidNum) :
      BssidChoice roles info (bssidNum, none)

lemma NoHitBelow.succ {k : ℕ} (h : NoHitBelow roles info k)
    (hk : ∀ q ∈ macRoleSrchByBssid roles k, ¬ bssidHit info q) : NoHitBelow roles info (k + 1) := by
  intro j hj
  rcases Nat.lt_succ_iff_lt_or_eq.1 hj with hj | rfl
  · exact h j hj
  · exact hk

/-- The search from `k` on, with the lowest free index below `k` at hand. -/
lemma bssidScan_range : ∀ (m k cur : ℕ), k + m = bssidNum → NoHitBelow roles info k →
    ((cur = bssidNum ∧ TakenBelow roles k) ∨
      (cur < k ∧ macRoleSrchByBssid roles cur = none ∧ TakenBelow roles cur)) →
    BssidChoice roles info (bssidScan roles info (range' k m) cur)
  | 0, k, cur, hk, hno, hcur => by
    obtain rfl : k = bssidNum := hk
    rcases hcur with ⟨rfl, htaken⟩ | ⟨hlt, hfree, hlow⟩
    · exact .full htaken hno
    · exact .fresh hlt hfree hlow hno
  | m + 1, k, cur, hk, hno, hcur => by
    have ih := bssidScan_range m (k + 1)
    rw [range'_succ, bssidScan]
    rcases hq : macRoleSrchByBssid roles k with _ | q
    · have hno' : NoHitBelow roles info (k + 1) := hno.succ (by simp [hq])
      refine ih _ (by omega) hno' (.inr ?_)
      rcases hcur with ⟨rfl, htaken⟩ | ⟨hlt, hfree, hlow⟩
      · exact ⟨k.lt_succ_self, hq, htaken⟩
      · rw [if_neg (by omega)]
        exact ⟨by omega, hfree, hlow⟩
    · simp only
      split_ifs with hhit
      · exact .share (by omega) hq hhit hno
      refine ih _ (by omega) (hno.succ ?_) ?_
      · rintro q' hq'
        cases hq.symm.trans hq'
        exact hhit
      · rcases hcur with ⟨rfl, htaken⟩ | ⟨hlt, hfree, hlow⟩
        · refine .inl ⟨rfl, fun j hj => ?_⟩
          rcases Nat.lt_succ_iff_lt_or_eq.1 hj with hj | rfl
          · exact htaken j hj
          · rw [hq]
            rfl
        · exact .inr ⟨by omega, hfree, hlow⟩

lemma bssidScan_choice (roles : List MacRole) (info : MacRoleInfo) :
    BssidChoice roles info (bssidScan roles info (range bssidNum) bssidNum) := by
  refine bssidScan_range bssidNum 0 bssidNum (zero_add _) (fun j hj => ?_)
    (.inl ⟨rfl, fun j hj => ?_⟩)
  · exact absurd hj (not_lt_zero j)
  · exact absurd hj (not_lt_zero j)

/-- No index is free, and no role has the BSSID. -/
def BssidFull (roles : List MacRole) (info : MacRoleInfo) : Prop :=
  TakenBelow roles bssidNum ∧ NoHitBelow roles info bssidNum
  deriving Decidable

lemma BssidFull.scan (h : BssidFull roles info) :
    bssidScan roles info (range bssidNum) bssidNum = (bssidNum, none) := by
  have hchoice := bssidScan_choice roles info
  generalize bssidScan roles info (range bssidNum) bssidNum = res at hchoice
  cases hchoice with
  | @share i q hi hq hhit => exact absurd hhit (h.2 i hi q hq)
  | @fresh i hi hfree => simpa [hfree] using h.1 i hi
  | full => rfl

/-- An index is free, or used with the BSSID. -/
def BssidAvail (roles : List MacRole) (info : MacRoleInfo) : Prop :=
  ∃ i < bssidNum, ∀ q ∈ macRoleSrchByBssid roles i, bssidHit info q

instance (roles : List MacRole) (info : MacRoleInfo) : Decidable (BssidAvail roles info) :=
  inferInstanceAs (Decidable (∃ i < bssidNum, _))

lemma not_bssidAvail (htaken : TakenBelow roles bssidNum)
    (hno : NoHitBelow roles info bssidNum) : ¬ BssidAvail roles info := by
  rintro ⟨i, hi, hall⟩
  obtain ⟨q, hq⟩ := isSome_iff_exists.1 (htaken i hi)
  exact hno i hi q hq (hall q hq)

structure CamInfoOK (info : MacRoleInfo) : Prop where
  bValid : info.bInfo.valid = true
  bbSel : info.bInfo.bbSel = info.band

structure RoleCamOK (info : MacRoleInfo) : Prop extends CamInfoOK info where
  valid : info.aInfo.valid = true
  idx : info.aInfo.bssidCamIdx = info.bInfo.bssidCamIdx

def RolesCamOK (roles : List MacRole) : Prop := ∀ r ∈ roles, RoleCamOK r.info

lemma bssidRoom_iff (h : RolesCamOK roles) : BssidRoom roles info ↔ BssidAvail roles info := by
  have hchoice := bssidScan_choice roles info
  unfold BssidRoom
  generalize bssidScan roles info (range bssidNum) bssidNum = res at hchoice
  cases hchoice with
  | @share i q hi hq hhit hfirst =>
    obtain ⟨hmem, hidx, -⟩ := srchByBssid_some hq
    refine iff_of_true ?_ ⟨i, hi, fun q' hq' => ?_⟩
    · rw [(h q hmem).idx, hidx]
      exact hi.ne
    · cases hq.symm.trans hq'
      exact hhit
  | @fresh i hi hfree hlow hno =>
    refine iff_of_true hi.ne ⟨i, hi, fun q hq => ?_⟩
    rw [hfree] at hq
    exact absurd hq (not_mem_none q)
  | full htaken hno => exact iff_of_false (not_not.2 rfl) (not_bssidAvail htaken hno)

inductive Placement (roles : List MacRole) (info info' : MacRoleInfo) : Prop
  | share {q : MacRole} (hq : q ∈ roles) (hhit : bssidHit info q)
      (hidx : info'.bInfo.bssidCamIdx = q.info.bInfo.bssidCamIdx)
      (hfirst : NoHitBelow roles info q.info.bInfo.bssidCamIdx)
      (hlt : q.info.bInfo.bssidCamIdx < bssidNum)
      (hfound : macRoleSrchByBssid roles q.info.bInfo.bssidCamIdx = some q)
      (hbssid : info'.bInfo.bssid
        = if maddrCmpLen info < 6 then q.info.bInfo.bssid else info.bInfo.bssid)
  | fresh (hlt : info'.bInfo.bssidCamIdx < bssidNum)
      (hfree : macRoleSrchByBssid roles info'.bInfo.bssidCamIdx = none)
      (hlow : TakenBelow roles info'.bInfo.bssidCamIdx) (hno : NoHitBelow roles info bssidNum)
      (hbssid : info'.bInfo.bssid = info.bInfo.bssid)

lemma placement (h : RolesCamOK roles) (havail : BssidAvail roles info) :
    Placement roles info (placedInfo roles info) := by
  have hchoice := bssidScan_choice roles info
  unfold placedInfo findAvailBssidCamEntry
  generalize bssidScan roles info (range bssidNum) bssidNum = res at hchoice
  cases hchoice with
  | @share i q hi hq hhit hfirst =>
    obtain ⟨hmem, rfl, -⟩ := srchByBssid_some hq
    exact .share hmem hhit (h q hmem).idx hfirst hi hq rfl
  | fresh hi hfree hlow hno => exact .fresh hi hfree hlow hno rfl
  | full htaken hno => exact absurd havail (not_bssidAvail htaken hno)

lemma roleCamOK_placedInfo (roles : List MacRole) (hinfo : CamInfoOK info)
    (hvalid : info.aInfo.valid = true) : RoleCamOK (placedInfo roles info) :=
  ⟨⟨hinfo.bValid, hinfo.bbSel⟩, hvalid, rfl⟩

/-- The role of the macid has the info, with entries selected beside the others and written. -/
structure Replaced (s : MacRoles) (macid : ℕ) (info : MacRoleInfo) (s' : MacRoles) : Prop where
  table : s'.table = (s.setInfo macid (placedInfo (s.others macid) info)).table
  bssidCam : s'.bssidCam = writeBssidCam (placedInfo (s.others macid) info) s.bssidCam

section Update

variable {t : MacRoles} (ht : t.table = (s.setInfo macid info).table)
include ht

lemma others_of_table : t.others macid = s.others macid := by
  rw [others, ht]
  exact s.others_setInfo macid info

lemma table_setInfo_of_table (info' : MacRoleInfo) :
    (t.setInfo macid info').table = (s.setInfo macid info').table := by
  rw [← s.setInfo_setInfo macid info info', setInfo, ht]
  rfl

lemma replaced_updRole (hcam : t.bssidCam = s.bssidCam) (henv : env.Ok)
    (hroom : BssidRoom (s.others macid) info) :
    (t.updRole env ⟨macid, info⟩).1 = .success ∧
      Replaced s macid info (t.updRole env ⟨macid, info⟩).2 := by
  have hothers := others_of_table ht
  have hupd := updRole_of_room (s := t) (r := ⟨macid, info⟩) henv (by rwa [hothers])
  simp only [hothers, hcam] at hupd
  rw [hupd]
  exact ⟨rfl, table_setInfo_of_table ht _, rfl⟩

lemma unplaced_updRole (henv : env.Ok) (hroom : ¬ BssidRoom (s.others macid) info) :
    (t.updRole env ⟨macid, info⟩).1 = .bssidcamfl ∧
      (t.updRole env ⟨macid, info⟩).2.others macid = s.others macid := by
  have hothers := others_of_table ht
  have hupd := updRole_of_not_room (s := t) (r := ⟨macid, info⟩) henv (by rwa [hothers])
  rw [hupd]
  exact ⟨rfl, (others_setInfo t macid _).trans hothers⟩

end Update

def MacRoleInfo.withKeys (info : MacRoleInfo) (mode : ℕ) (ents : Fin 7 → SecEnt) : MacRoleInfo :=
  { info with aInfo := { info.aInfo with secEntMode := mode, secEnt := ents } }

lemma replaced_updKeys {k : Fin 7} {e : SecEnt} {t : MacRoles}
    (hupd : (t.setSecEnt r k e).updKeys env r.macid = (st, s')) (ht : t.table = s.table)
    (hcam : t.bssidCam = s.bssidCam) (henv : env.Ok)
    (hrole : macRoleSrch s.table r.macid = some r) (hroom : BssidRoom (s.others r.macid) r.info) :
    Replaced s r.macid (r.info.withKeys r.info.aInfo.secEntMode
      (update r.info.aInfo.secEnt k e)) s' := by
  set info := r.info.withKeys r.info.aInfo.secEntMode (update r.info.aInfo.secEnt k e)
  have hself : macRoleSrch (t.setSecEnt r k e).table r.macid = some ⟨r.macid, info⟩ :=
    srch_setInfo_self (ht ▸ hrole)
  have hhit : ∀ q, bssidHit info q ↔ bssidHit r.info q := fun _ => Iff.rfl
  have htable : (t.setSecEnt r k e).table = (s.setInfo r.macid info).table := by
    rw [setSecEnt, setInfo, ht]
    rfl
  obtain ⟨hst, hrep⟩ := replaced_updRole htable hcam henv ((bssidRoom_congr hhit).2 hroom)
  rw [updKeys, hself] at hupd
  rcases hres : (t.setSecEnt r k e).updRole env ⟨r.macid, _⟩ with ⟨st', s₁⟩
  rw [hres] at hst hrep
  obtain rfl : st' = .success := hst
  simp only [hres] at hupd
  obtain ⟨-, rfl⟩ := mk.inj hupd
  exact hrep

/-- What `mac_change_role` has stored before `mac_upd_addr_cam`: the info given, without the keys
of the role if it disconnects. -/
def flushedInfo (info : MacRoleInfo) (role : MacRole) (s : MacRoles) : MacRoleInfo :=
  if info.updMode = .conDisconn ∧ info.opmode = .disconn ∧ s.secCam.isSome then
    (changeInfo info role).withKeys 0 fun _ => secEntClear
  else changeInfo info role

lemma changeRoleUpd_flushed (env : MacRoleEnv) (info : MacRoleInfo) (role : MacRole)
    (s : MacRoles) :
    ∃ s₁, changeUpd env info role s = ((changeRoleUpd env info s).1, s₁) ∧
      s₁.table = (s.setInfo info.macid (flushedInfo info role s)).table ∧
      s₁.bssidCam = s.bssidCam := by
  refine ⟨(changeUpd env info role s).2, Prod.ext ?_ rfl, ?_⟩
  · unfold changeUpd changeRoleUpd
    simp [show (changeInfo info role).updMode = info.updMode from rfl, show (changeInfo info
      role).selfRole = info.selfRole from rfl]
    cases info.updMode <;> simp only <;> split_ifs <;> rfl
  · rw [changeUpd, changeRoleUpd_snd, flushedInfo]
    simp [show (changeInfo info role).updMode = info.updMode from rfl, show (changeInfo info
      role).opmode = info.opmode from rfl, ← and_assoc]
    by_cases hdis : info.updMode = .conDisconn ∧ info.opmode = .disconn
    · rw [if_pos hdis, secInfoDeinit]
      rcases hcam : s.secCam with _ | t
      · simp [setInfo, hcam]
      · simp only [setInfo, hcam, hdis, isSome_some, and_self, if_true]
        exact ⟨table_setInfo_of_table rfl _, trivial⟩
    · simp [hdis, setInfo]

lemma srch_of_roleInfoValid_chg (h : roleInfoValid s.table info .chg = .success) :
    ∃ role, macRoleSrch s.table info.macid = some role := by
  simp only [roleInfoValid] at h
  split_ifs at h with hmode hnone
  exact ne_none_iff_exists'.1 fun hn => hnone (by rw [hn]; rfl)

lemma macChangeRole_of_not_valid (h : roleInfoValid s.table info .chg ≠ .success) :
    (macChangeRole env info s).2 = s := by
  unfold macChangeRole
  generalize roleInfoValid s.table info .chg = st at h
  cases st <;> first | exact absurd rfl h | rfl

lemma macChangeRole_replaced (henv : env.Ok)
    (hvalid : roleInfoValid s.table info .chg = .success) (hmode : info.updMode ≠ .other) :
    ∃ role mode ents, macRoleSrch s.table info.macid = some role ∧
      (BssidRoom (s.others info.macid) ((changeInfo info role).withKeys mode ents) →
        (macChangeRole env info s).1 = .success ∧
        Replaced s info.macid ((changeInfo info role).withKeys mode ents)
          (macChangeRole env info s).2) ∧
      (¬ BssidRoom (s.others info.macid) ((changeInfo info role).withKeys mode ents) →
        (macChangeRole env info s).1 = .bssidcamfl ∧
        (macChangeRole env info s).2.others info.macid = s.others info.macid) := by
  obtain ⟨role, hrole⟩ := srch_of_roleInfoValid_chg hvalid
  obtain ⟨s₁, hupd, ht, hcam⟩ := changeRoleUpd_flushed env info role s
  obtain ⟨mode, ents, hinfo⟩ : ∃ mode ents,
      flushedInfo info role s = (changeInfo info role).withKeys mode ents := by
    unfold flushedInfo
    split_ifs
    · exact ⟨_, _, rfl⟩
    · exact ⟨(changeInfo info role).aInfo.secEntMode, _, rfl⟩
  rw [hinfo] at ht
  have hself : macRoleSrch (s.setInfo info.macid ((changeInfo info role).withKeys mode ents)).table
      info.macid = some ⟨info.macid, (changeInfo info role).withKeys mode ents⟩ :=
    srch_setInfo_self hrole
  rw [← ht] at hself
  refine ⟨role, mode, ents, hrole, ?_⟩
  rw [macChangeRole_ok henv hvalid hrole hmode (congrArg snd hupd) hself]
  exact ⟨replaced_updRole ht hcam henv, unplaced_updRole ht henv⟩

def MacRoleInfo.atAddr (info : MacRoleInfo) (i : ℕ) : MacRoleInfo :=
  { info with aInfo := { info.aInfo with addrCamIdx := i } }

lemma macUpdAddrCam_added {info' : MacRoleInfo} {cam cam' : ℕ → BssidCamEnt} (henv : env.Ok)
    (hcam : macUpdAddrCam env .add roles info cam = (st, info', cam')) (haddr : st ≠ .addrcamfl)
    (hbssid : st ≠ .bssidcamfl) :
    ∃ i < macidNum, macRoleSrchByAddrCam roles i = none ∧ BssidRoom roles (info.atAddr i) ∧
      info' = placedInfo roles (info.atAddr i) ∧ cam' = writeBssidCam info' cam := by
  simp [macUpdAddrCam, henv.camPrep, henv.camSend, selectCamEntries, findAvailAddrCamEntry] at hcam
  rcases hfind : (range macidNum).find? fun i => (macRoleSrchByAddrCam roles i).isNone with _ | i
  · simp only [hfind] at hcam
    exact absurd (mk.inj hcam).1.symm haddr
  have hfree := find?_some hfind
  have hlt := mem_range.1 (mem_of_find?_eq_some hfind)
  simp only [hfind] at hcam
  rw [← MacRoleInfo.atAddr] at hcam
  by_cases hroom : BssidRoom roles (info.atAddr i)
  · simp only [findAvailBssidCamEntry_of_room hroom] at hcam
    obtain ⟨-, rfl, rfl⟩ := hcam
    exact ⟨i, hlt, isNone_iff_eq_none.1 hfree, hroom, rfl, rfl⟩
  · simp only [findAvailBssidCamEntry_of_not_room hroom] at hcam
    exact absurd (mk.inj hcam).1.symm hbssid

lemma camInfoOK_added (info : MacRoleInfo) (i : ℕ) : CamInfoOK ((addedInfo info).atAddr i) :=
  ⟨rfl, rfl⟩

lemma camInfoOK_changed (info : MacRoleInfo) (role : MacRole) (mode : ℕ) (ents : Fin 7 → SecEnt) :
    CamInfoOK ((changeInfo info role).withKeys mode ents) :=
  ⟨rfl, rfl⟩

def roleSet (roles : List MacRole) : Set MacRole := { r | r ∈ roles }

lemma roleSet_append (roles : List MacRole) (r : MacRole) :
    roleSet (roles ++ [r]) = insert r (roleSet roles) := by
  ext q
  simp [roleSet, or_comm]

lemma roleSet_setInfo (h : TableOK s.table) (hrole : macRoleSrch s.table macid = some r)
    (info : MacRoleInfo) :
    roleSet (s.setInfo macid info).table = insert ⟨macid, info⟩ (roleSet (s.others macid)) := by
  ext q
  have hmacid : r.macid = macid := key_of_get hrole
  have hmem := h.distinct.mem_modify_iff (k := macid) (y := q) (macid_setInfo info)
  have hothers : q ∈ s.others macid ↔ q ∈ s.table ∧ q.macid ≠ macid := h.distinct.mem_remove_iff
  refine hmem.trans ?_
  rw [Set.mem_insert_iff, roleSet, Set.mem_ofPred_eq, hothers]
  constructor
  · rintro (hq | ⟨x, hx, rfl⟩)
    · exact .inr hq
    · cases hrole.symm.trans hx
      rw [hmacid]
      exact .inl rfl
  · rintro (rfl | hq)
    · refine .inr ⟨r, hrole, ?_⟩
      rw [hmacid]
    · exact .inl hq

lemma others_subset (s : MacRoles) (macid : ℕ) : roleSet (s.others macid) ⊆ roleSet s.table :=
  fun _ hq => mem_of_mem_eraseP hq

lemma RolesCamOK.others (h : RolesCamOK s.table) (macid : ℕ) : RolesCamOK (s.others macid) :=
  fun q hq => h q (others_subset s macid hq)

lemma forall_setInfo {P : MacRoleInfo → Prop} (h : ∀ q ∈ s.table, P q.info) (hinfo : P info) :
    ∀ q ∈ (s.setInfo macid info).table, P q.info := by
  intro q hq
  rcases mem_modify hq with hq | ⟨x, -, rfl⟩
  · exact h q hq
  · exact hinfo

lemma RolesCamOK.append (h : RolesCamOK roles) (hr : RoleCamOK r.info) :
    RolesCamOK (roles ++ [r]) := by
  exact forall_mem_append.2 ⟨h, forall_mem_singleton.2 hr⟩

def addrSlot (r : MacRole) : ℕ := r.info.aInfo.addrCamIdx

def bssidSlot (r : MacRole) : ℕ := r.info.bInfo.bssidCamIdx

def bssidKey (r : MacRole) : EthAddr × ℕ := (r.info.bssid, r.info.band)

lemma bssidHit_iff (hmask : info.aInfo.maskSel ≠ .bssidMsk) (q : MacRole) :
    bssidHit info q ↔ (info.bssid, info.band) = bssidKey q := by
  have hlen : maddrCmpLen info = 6 := if_neg hmask
  rw [bssidHit, bssidKey, Prod.mk.injEq, hlen, maddrEq]
  refine and_congr_left fun _ => ⟨fun h => ?_, fun h k _ => ?_⟩
  · exact funext fun k => h k k.isLt
  · rw [h]

lemma sharedSlots_placed (hcam : RolesCamOK roles)
    (h : SharedSlots bssidSlot bssidKey bssidNum (roleSet roles))
    (hmask : info.aInfo.maskSel ≠ .bssidMsk) (havail : BssidAvail roles info) (macid : ℕ) :
    SharedSlots bssidSlot bssidKey bssidNum
      (insert ⟨macid, placedInfo roles info⟩ (roleSet roles)) := by
  cases placement hcam havail with
  | share hq hhit hidx => exact h.insert_share hq hidx ((bssidHit_iff hmask _).1 hhit)
  | fresh hlt hfree hlow hno =>
    refine h.insert_fresh hlt (fun b hb => ?_) fun b hb hkey => ?_
    · exact srchByBssid_none hfree hb (hcam b hb).valid
    -- the search meets a role in the slot of `b`, which has the key of `b`
    obtain ⟨q, hq⟩ := srchByBssid_of_mem hb (hcam b hb).valid
    obtain ⟨hmem, hslot, -⟩ := srchByBssid_some hq
    refine hno _ (h.lt b hb) q hq ((bssidHit_iff hmask q).2 ?_)
    rw [(h.share q hmem b hb).1 hslot, hkey]
    rfl

structure AssignInv (s : MacRoles) : Prop where
  table : TableOK s.table
  cam : RolesCamOK s.table
  mask : ∀ r ∈ s.table, r.info.maskSel ≠ .bssidMsk
  addr : SharedSlots addrSlot MacRole.macid macidNum (roleSet s.table)
  bssid : SharedSlots bssidSlot bssidKey bssidNum (roleSet s.table)

/-- The operations the indices are about: all calls succeed, no BSSID mask, a valid update mode. -/
def AssignEv : MacRoleEv → Prop
  | .add env info => env.Ok ∧ info.maskSel ≠ .bssidMsk
  | .change env info => env.Ok ∧ info.maskSel ≠ .bssidMsk ∧ info.updMode ≠ .other
  | .remove env _ => env.Ok
  | _ => False

/-- A role that is changed finds an index, free or of a role with its new BSSID and band. -/
def AssignOK (s : MacRoles) : MacRoleEv → Prop
  | .change env info => AssignEv (.change env info) ∧ (roleInfoValid s.table info .chg = .success →
        BssidAvail (s.others info.macid) (roleInfoInit info))
  | ev => AssignEv ev

lemma assignInv_add (hok : AssignEv (.add env info)) (h : AssignInv s) :
    AssignInv (macRoleStep s (.add env info)) := by
  obtain ⟨henv, hmask⟩ := hok
  have htable := tableOK_macAddRole env info h.table
  have hmove := macAddRole_move env info s
  simp only [macRoleStep, macRoleCall]
  generalize macAddRole env info s = res at hmove htable
  cases hmove with
  | refused => exact h
  | leaked => exact ⟨htable, h.cam, h.mask, h.addr, h.bssid⟩
  | @added st info' cam hpool hvalid hcam haddr hbssid =>
    obtain ⟨i, hi, hfree, hroom, rfl, -⟩ := macUpdAddrCam_added henv hcam haddr hbssid
    have hmask' : ((addedInfo info).atAddr i).aInfo.maskSel ≠ .bssidMsk := hmask
    refine ⟨htable, h.cam.append ?_, forall_mem_append.2 ⟨h.mask, forall_mem_singleton.2 hmask⟩,
      ?_, ?_⟩
    · exact roleCamOK_placedInfo s.table (camInfoOK_added info i) rfl
    · rw [roleSet_append]
      refine h.addr.insert_fresh hi (fun b hb hslot => ?_) fun b hb hkey => ?_
      · have hnot := find?_eq_none.1 hfree b hb
        exact hnot (decide_eq_true ⟨hslot, (h.cam b hb).valid⟩)
      · exact get_eq_none.1 (srch_of_roleInfoValid_add hvalid) b hb hkey
    · rw [roleSet_append]
      exact sharedSlots_placed h.cam h.bssid hmask' ((bssidRoom_iff h.cam).1 hroom) _

lemma assignInv_change (hok : AssignOK s (.change env info)) (h : AssignInv s) :
    AssignInv (macRoleStep s (.change env info)) := by
  obtain ⟨⟨henv, hmask, hmode⟩, havail⟩ := hok
  have htable := (tableKept_macChangeRole env info s).table h.table
  simp only [macRoleStep, macRoleCall]
  by_cases hvalid : roleInfoValid s.table info .chg = .success
  · obtain ⟨role, mode, ents, hrole, hrep, -⟩ := macChangeRole_replaced henv hvalid hmode
    have hmem := mem_of_get hrole
    have hothers := h.cam.others info.macid
    have hav : BssidAvail (s.others info.macid) ((changeInfo info role).withKeys mode ents) :=
      havail hvalid
    obtain ⟨-, hrep⟩ := hrep ((bssidRoom_iff hothers).2 hav)
    refine ⟨htable, ?_, ?_, ?_, ?_⟩
    · rw [hrep.table]
      exact forall_setInfo h.cam
        (roleCamOK_placedInfo _ (camInfoOK_changed info role mode ents) (h.cam role hmem).valid)
    · rw [hrep.table]
      intro r hr
      rcases mem_modify hr with hr | ⟨x, -, rfl⟩
      · exact h.mask r hr
      · exact hmask
    · rw [hrep.table, roleSet_setInfo h.table hrole]
      exact h.addr.replace hmem (others_subset s info.macid) rfl (key_of_get hrole).symm
    · rw [hrep.table, roleSet_setInfo h.table hrole]
      exact sharedSlots_placed hothers (h.bssid.mono (others_subset s info.macid)) hmask hav _
  · rw [macChangeRole_of_not_valid hvalid]
    exact h

lemma bssidAvail_removed (h : AssignInv s) (hrole : macRoleSrch s.table macid = some r) :
    BssidAvail (s.others macid) (removedInfo r.info) := by
  have hmem := mem_of_get hrole
  refine ⟨bssidSlot r, h.bssid.lt r hmem, fun q hq => ?_⟩
  obtain ⟨hq', hslot, -⟩ := srchByBssid_some hq
  have hkey := (h.bssid.share q (others_subset s macid hq') r hmem).1 hslot
  exact (bssidHit_iff (h.mask r hmem) q).2 hkey.symm

lemma assignInv_remove (henv : env.Ok) (h : AssignInv s) :
    AssignInv (macRoleStep s (.remove env macid)) := by
  have htable := tableOK_macRemoveRole env macid h.table
  simp only [macRoleStep, macRoleCall]
  rcases hrole : macRoleSrch s.table macid with _ | r
  · simp only [macRemoveRole, hrole]
    exact h
  have hroom := (bssidRoom_iff (h.cam.others macid)).2 (bssidAvail_removed h hrole)
  have hres := macRemoveRole_of_room henv h.table hrole hroom
  rw [hres] at htable ⊢
  have hsub := others_subset s macid
  exact ⟨htable, h.cam.others macid, fun q hq => h.mask q (hsub hq), h.addr.mono hsub,
    h.bssid.mono hsub⟩

lemma assignInv_step (ev : MacRoleEv) (h : AssignInv s) (hok : AssignOK s ev) :
    AssignInv (macRoleStep s ev) := by
  cases ev with
  | add env info => exact assignInv_add hok h
  | change env info => exact assignInv_change hok h
  | remove env macid => exact assignInv_remove hok h
  | addKey | delKey => exact hok.elim

/-- Roles have entries of their own in the address CAM, and share one in the BSSID CAM exactly
if BSSID and band agree. -/
structure WellAssigned (s : MacRoles) : Prop where
  addr_lt : ∀ r ∈ s.table, r.info.aInfo.valid = true → r.info.aInfo.addrCamIdx < macidNum
  addr_inj : ∀ r ∈ s.table, ∀ r' ∈ s.table, r.info.aInfo.valid = true →
    r'.info.aInfo.valid = true → r.info.aInfo.addrCamIdx = r'.info.aInfo.addrCamIdx → r = r'
  bssid_eq : ∀ r ∈ s.table, r.info.aInfo.valid = true →
    r.info.aInfo.bssidCamIdx = r.info.bInfo.bssidCamIdx
  bssid_lt : ∀ r ∈ s.table, r.info.aInfo.valid = true → r.info.aInfo.bssidCamIdx < bssidNum
  share : ∀ r ∈ s.table, ∀ r' ∈ s.table, r.info.aInfo.valid = true → r'.info.aInfo.valid = true →
    (r.info.aInfo.bssidCamIdx = r'.info.aInfo.bssidCamIdx ↔
      r.info.bssid = r'.info.bssid ∧ r.info.band = r'.info.band)

lemma AssignInv.wellAssigned (h : AssignInv s) : WellAssigned s := by
  refine ⟨fun r hr _ => h.addr.lt r hr, fun r hr r' hr' _ _ heq => ?_,
    fun r hr _ => (h.cam r hr).idx, fun r hr _ => ?_, fun r hr r' hr' _ _ => ?_⟩
  · exact h.table.distinct.eq_of_key hr hr' ((h.addr.share r hr r' hr').1 heq)
  · rw [(h.cam r hr).idx]
    exact h.bssid.lt r hr
  · rw [(h.cam r hr).idx, (h.cam r' hr').idx]
    refine (h.bssid.share r hr r' hr').trans ?_
    rw [bssidKey, bssidKey, Prod.mk.injEq]

def MacRoleEv.target : MacRoleEv → ℕ
  | add _ info | change _ info => info.macid
  | remove _ macid => macid
  | addKey _ _ _ macid _ _ => macid
  | delKey _ macid _ _ => macid

/-- An operation that cannot keep this fails for want of an entry and leaves the other roles alone.
-/
structure CamAssigned (s : MacRoles) : Prop extends WellAssigned s where
  kept : ∀ ev, AssignEv ev → WellAssigned (macRoleStep s ev) ∨
    (((macRoleCall s ev).1 = .addrcamfl ∨ (macRoleCall s ev).1 = .bssidcamfl) ∧
      (macRoleStep s ev).others ev.target = s.others ev.target)

/-- A change that finds no index fails, and is the only operation that does not keep them. -/
lemma AssignInv.change_fails (h : AssignInv s) (hev : AssignEv (.change env info))
    (hok : ¬ AssignOK s (.change env info)) :
    (macChangeRole env info s).1 = .bssidcamfl ∧
      (macChangeRole env info s).2.others info.macid = s.others info.macid := by
  rw [AssignOK, and_iff_right hev, Classical.not_imp] at hok
  obtain ⟨hvalid, hnot⟩ := hok
  obtain ⟨henv, hmask, hmode⟩ := hev
  obtain ⟨role, mode, ents, hrole, -, hunplaced⟩ := macChangeRole_replaced henv hvalid hmode
  rw [bssidRoom_iff (h.cam.others info.macid)] at hunplaced
  exact hunplaced hnot

lemma AssignInv.camAssigned (h : AssignInv s) : CamAssigned s := by
  refine ⟨h.wellAssigned, fun ev hev => ?_⟩
  cases ev with
  | add env info => exact .inl (assignInv_add hev h).wellAssigned
  | change env info =>
    by_cases hok : AssignOK s (.change env info)
    · exact .inl (assignInv_change hok h).wellAssigned
    · obtain ⟨hst, hothers⟩ := h.change_fails hev hok
      exact .inr ⟨.inr hst, hothers⟩
  | remove env macid => exact .inl (assignInv_remove hev h).wellAssigned
  | addKey | delKey => exact hev.elim

lemma assignInv_init : AssignInv macRolesInit := by
  have hnone : ∀ {P : MacRole → Prop}, ∀ r ∈ roleSet macRolesInit.table, P r :=
    fun r hr => absurd hr not_mem_nil
  exact ⟨tableOK_init, hnone, hnone, ⟨hnone, hnone⟩, ⟨hnone, hnone⟩⟩

theorem cam_indices_run (evs : List MacRoleEv)
    (hok : Run.RunOK macRoleStep AssignOK macRolesInit evs) :
    CamAssigned (Run.run macRoleStep macRolesInit evs) :=
  (Run.run_inv macRoleStep AssignOK (fun _ ev h hok => assignInv_step ev h hok) evs _
    assignInv_init hok).camAssigned

/-- Of two APs with BSSIDs of their own the second changes to that of the first, which leaves. -/
theorem cam_indices_shared : CamAssigned (Run.run macRoleStep macRolesInit
      [.add macRoleEnvOk (apRoleInfo 0 fun _ => 0), .add macRoleEnvOk (apRoleInfo 1 fun _ => 2),
        .change macRoleEnvOk { apRoleInfo 1 fun _ => 0 with updMode := .infoChange },
        .remove macRoleEnvOk 0]) := by
  refine cam_indices_run _ ⟨⟨macRoleEnvOk_ok, nofun⟩, ⟨macRoleEnvOk_ok, nofun⟩,
    ⟨⟨macRoleEnvOk_ok, nofun, nofun⟩, fun _ => ?_⟩, macRoleEnvOk_ok, trivial⟩
  decide

/-- As many APs as there are indices, with BSSIDs of their own, and one more that shares. -/
def fullCam : List MacRoleEv :=
  (range (bssidNum + 1)).map fun n =>
    .add macRoleEnvOk (apRoleInfo n fun _ => UInt8.ofNat (2 * (n % bssidNum)))

/-- The AP that shares changes to a BSSID of its own, and is left with no index. -/
theorem cam_indices_fails : ¬ WellAssigned (Run.run macRoleStep macRolesInit (fullCam ++
      [.change macRoleEnvOk { apRoleInfo bssidNum fun _ => 80 with updMode := .infoChange }])) := by
  intro h
  have hlt := h.bssid_lt
  exact absurd hlt (by decide +kernel)

def chgUpdAddrCam (env : MacRoleEnv) (info : MacRoleInfo) (role : MacRole) (s : MacRoles) :
    MacStatus × MacRoleInfo × (ℕ → BssidCamEnt) :=
  macUpdAddrCam env .chg ((s.setInfo info.macid (flushedInfo info role s)).hidden info.macid)
    (flushedInfo info role s) s.bssidCam

/-- The firmware takes the commands, and `mac_upd_addr_cam` succeeds. -/
def ChangeReaches (env : MacRoleEnv) (info : MacRoleInfo) (role : MacRole) (s : MacRoles) : Prop :=
  (changeRoleUpd env info s).1 = none ∧ (chgUpdAddrCam env info role s).1 = .success

/-- The info given is the one stored. If the change gets to the search for a BSSID CAM entry, the
role stored has the entry selected, or index `bssidNum` if the BSSID CAM is full. -/
def ChangesNothing (env : MacRoleEnv) (info : MacRoleInfo) (role : MacRole) (s : MacRoles) : Prop :=
  let given := flushedInfo info role s
  if (changeRoleUpd env info s).1 = none ∧ env.camPrep = .success then
    if BssidFull (s.others info.macid) given then given.setBssidCamIdx bssidNum = role.info
    else placedInfo (s.others info.macid) given = role.info
  else given = role.info

lemma BssidFull.placed (h : BssidFull roles info) :
    placedInfo roles info = info.setBssidCamIdx bssidNum := by
  simp only [placedInfo, findAvailBssidCamEntry, h.scan]

lemma chgUpdAddrCam_info (env : MacRoleEnv) (info : MacRoleInfo) (role : MacRole) (s : MacRoles) :
    (chgUpdAddrCam env info role s).2.1 = if env.camPrep = .success then
      placedInfo (s.others info.macid) (flushedInfo info role s) else flushedInfo info role s := by
  simp only [chgUpdAddrCam, macUpdAddrCam, selectCamEntries, findAvailBssidCamEntry_hidden,
    others_setInfo, placedInfo, ite_not]
  split_ifs
  · split <;> rename_i hres <;> rw [hres]
  · split <;> rename_i hres <;> rw [hres]
  · rfl

lemma changesNothing_iff {role : MacRole} : ChangesNothing env info role s ↔
    (if (changeRoleUpd env info s).1 = none then (chgUpdAddrCam env info role s).2.1
      else flushedInfo info role s) = role.info := by
  rw [ChangesNothing, chgUpdAddrCam_info, ← ite_and]
  split_ifs with hsel hfull
  · rw [hfull.placed]
  · rfl
  · rfl

lemma changeRoleUpd_success (env : MacRoleEnv) (s : MacRoles) (hmode : info.updMode ≠ .create) :
    (changeRoleUpd env info s).1 = some .success ↔ info.updMode = .other := by
  unfold changeRoleUpd
  cases hm : info.updMode <;> simp only [] <;> try split_ifs
  all_goals simp_all [fwSkips]

/-- A change that gets nowhere fails and leaves the role as it was. -/
def FailedAlone (env : MacRoleEnv) (info : MacRoleInfo) (s : MacRoles) : Prop :=
  (∀ role, roleInfoValid s.table info .chg = .success →
      macRoleSrch s.table info.macid = some role → ¬ ChangeReaches env info role s) →
    (macChangeRole env info s).1 ≠ .success ∧
    macRoleSrch (macChangeRole env info s).2.table info.macid = macRoleSrch s.table info.macid

theorem change_role_alone_iff (env : MacRoleEnv) (info : MacRoleInfo) (s : MacRoles) :
    FailedAlone env info s ↔
    ∀ role, roleInfoValid s.table info .chg = .success →
      macRoleSrch s.table info.macid = some role → ¬ ChangeReaches env info role s →
        info.updMode ≠ .other ∧ ChangesNothing env info role s := by
  by_cases hvalid : roleInfoValid s.table info .chg = .success
  · obtain ⟨role, hrole⟩ := srch_of_roleInfoValid_chg hvalid
    obtain ⟨s₁, hupd, htable, hcam⟩ := changeRoleUpd_flushed env info role s
    have hself : macRoleSrch s₁.table info.macid = some ⟨_, flushedInfo info role s⟩ :=
      htable ▸ srch_setInfo_self hrole
    have hsame (i : MacRoleInfo) : some ⟨info.macid, i⟩ = some role ↔ i = role.info := by
      obtain ⟨m, i'⟩ := role
      obtain rfl : m = info.macid := key_of_get hrole
      simp
    have hmode : info.updMode ≠ .create := by
      intro h
      simp [roleInfoValid, h] at hvalid
    simp [FailedAlone, macChangeRole_eq hvalid hrole, hvalid, hrole, hupd]
    refine imp_congr_right fun hreach => ?_
    rw [changesNothing_iff]
    have hcode := changeRoleUpd_success env s hmode
    rcases hfst : (changeRoleUpd env info s).1 with _ | st
    · have hupd : s₁.updRole env ⟨info.macid, flushedInfo info role s⟩
          = ((chgUpdAddrCam env info role s).1,
            { s₁.setInfo info.macid (chgUpdAddrCam env info role s).2.1 with
              bssidCam := (chgUpdAddrCam env info role s).2.2 }) := by
        rw [MacRoles.updRole, MacRoles.hidden, htable, hcam]
        rfl
      have hfail : (chgUpdAddrCam env info role s).1 ≠ .success := fun h => hreach ⟨hfst, h⟩
      simp [hself, hupd, hfst, srch_setInfo_self hself, hsame, hfail, ← hcode]
    · rw [hfst, some.injEq] at hcode
      simp [hself, hsame, reduceCtorEq, hcode]
  · unfold FailedAlone macChangeRole
    generalize roleInfoValid s.table info .chg = st at hvalid
    cases st <;> simp_all

/-- The mode is none of the four: success is returned, and the role has the info given. -/
theorem change_role_alone_fails : ¬ FailedAlone macRoleEnvOk
    { apRoleInfo 0 fun _ => 0 with updMode := .other, netType := .noLink }
    (macAddRole macRoleEnvOk (apRoleInfo 0 fun _ => 0) macRolesInit).2 := by
  intro h
  refine (h fun role _ _ hreach => ?_).1 (by decide)
  cases hreach.1

end Rtl8852be

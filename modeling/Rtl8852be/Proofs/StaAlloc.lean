import Rtl8852be.Proofs.Sta

/-!
# What an allocation leaves behind

The number of a role's broadcast station is set when the station is allocated and never reset, so it
is right as long as no broadcast station is freed. An allocation that fails is undone when the
hardware fails, unless the station counts as the role's own, and not when its ring does.
-/

namespace Rtl8852be

open Run Function StaCtl List BitMap

variable {roles : ℕ} {wrole : Fin roles → WifiRole} {maxNum num : ℕ} {s s' s'' : StaCtl roles}
  {i j mid : ℕ} {r : Fin roles}
variable {e : StaEvent roles} {w : StaCtl roles}

section Broadcast

variable {r' : Fin roles}

/-- `wrole_bmc` of a role is the macid of a station allocated for it with the broadcast address. -/
def BmcFresh (maxNum : ℕ) (s : StaCtl roles) (r : Fin roles) : Prop :=
  maxNum ≤ s.wroleBmc r ∨ ∃ i, s.Has r i (s.wroleBmc r) ∧ s.allocBmc i = true

/-- The same by the bits of the maps. -/
def BmcBits (maxNum : ℕ) (s : StaCtl roles) (r : Fin roles) : Prop :=
  maxNum ≤ s.wroleBmc r ∨ test s.bmcMap (s.wroleBmc r) = true ∧
    test (s.wifiRoleUsedmap r) (s.wroleBmc r) = true

lemma StaInv.fresh (h : StaInv wrole maxNum num s) (hs : BmcBits maxNum s r) :
    BmcFresh maxNum s r := by
  refine hs.imp_right fun ⟨hb, hu⟩ => ?_
  obtain ⟨i, hi⟩ := (h.tables.role r _).1 hu
  obtain ⟨r', j, hj, hbj⟩ := (h.tables.bmc _).1 hb
  obtain rfl := h.tables.unique hi hj
  exact ⟨i, hi, hbj⟩

lemma StaInv.not_bmc (h : StaInv wrole maxNum num s) (hi : i ∈ (s.assocStaQueue r).items)
    (hb : s.allocBmc i = false) : test s.bmcMap (s.stainfo i).macid = false := by
  by_contra hbit
  obtain ⟨r', j, hj, hbj⟩ := (h.tables.bmc _).1 (Bool.eq_true_of_not_eq_false hbit)
  obtain rfl := h.tables.unique hj ⟨hi, rfl⟩
  simp [hb] at hbj

lemma release_frame (maxNum i : ℕ) (s : StaCtl roles) :
    (phlFreeStainfoSw maxNum i s).freeStaQueue = s.freeStaQueue ∧
      (phlFreeStainfoSw maxNum i s).wroleBmc = s.wroleBmc ∧
      ∀ m, m ≠ (s.stainfo i).macid → ∀ r,
        test (phlFreeStainfoSw maxNum i s).bmcMap m = test s.bmcMap m ∧
          test ((phlFreeStainfoSw maxNum i s).wifiRoleUsedmap r) m =
            test (s.wifiRoleUsedmap r) m := by
  unfold phlFreeStainfoSw phlReleaseMacid
  repeat' split
  case h_2.isFalse.isFalse r₀ _ _ _ =>
    refine ⟨rfl, rfl, fun m hm r => ⟨?_, ?_⟩⟩
    · simp only [setSta, clrMacid]
      split_ifs <;> simp [hm]
    · by_cases hr : r = r₀
      · subst hr
        simp [hm]
      · simp [hr]
  all_goals exact ⟨rfl, rfl, fun _ _ _ => ⟨rfl, rfl⟩⟩

lemma BmcBits.release (hb : test s.bmcMap (s.stainfo i).macid = false)
    (h : BmcBits maxNum s r) : BmcBits maxNum (phlFreeStainfoSw maxNum i s) r := by
  obtain ⟨-, hw, hbits⟩ := release_frame maxNum i s
  unfold BmcBits
  rw [hw]
  refine h.imp_right fun hs => ?_
  have hne : s.wroleBmc r ≠ (s.stainfo i).macid := fun he => by simp [he, hb] at hs
  rwa [(hbits _ hne r).1, (hbits _ hne r).2]

lemma bmcBits_setMacid (h : BmcBits maxNum s r) (mid : ℕ) :
    BmcBits maxNum (s.setMacid r' i mid) r := by
  unfold BmcBits at h ⊢
  rcases eq_or_ne r r' with rfl | hr
  · by_cases hbc : (s.stainfo i).macAddr = bcAddr
    · simp [setMacid, hbc]
    · simp [setMacid, hbc, test_set_iff]
      tauto
  · by_cases hbc : (s.stainfo i).macAddr = bcAddr
    · simp [setMacid, hbc, update_of_ne hr, test_set_iff]
      tauto
    · simpa [setMacid, hbc, hr] using h

lemma bmcBits_alloc {io : StaIo} (htx : io.txRing = true) (addr : MacAddr)
    (h : BmcBits maxNum s r) :
    BmcBits maxNum (phlAllocStainfoSw wrole maxNum io addr r' s).2 r := by
  unfold phlAllocStainfoSw phlAllocStainfoNew
  split
  · exact h
  split
  · exact h
  split
  · exact h
  rename_i i rest hfree
  have hr : ((s.takeFree i addr r').stainfo i).wrole = some r' := by
    simp [takeFree]
  rcases phlAllocMacid_cases maxNum hr with hmac | ⟨mid, -, -, hmac⟩ <;>
    simp [phlAllocStainfoSwMacid, hmac, htx]
  · exact h
  · exact bmcBits_setMacid (s := s.takeFree i addr r') h mid

section

variable (h : BmcBits maxNum s r') (hr : (s.stainfo i).wrole = some r)
  (hbit : test s.bmcMap (s.stainfo i).macid = false)
include h hr hbit

lemma BmcBits.free_sw :
    BmcBits maxNum (phlFreeStainfoSwChk wrole maxNum i s) r' := by
  simp only [phlFreeStainfoSwChk, hr]
  rcases phlKeepsSelf_cases wrole r i s with ⟨addr, hkeep, -⟩ | ⟨hkeep, -⟩ <;> rw [hkeep]
  · exact h
  simp only [phlStainfoQueueDel]
  split_ifs
  · exact h.release hbit
  · exact BmcBits.release (s := s.setAssoc r _) hbit h

lemma BmcBits.free : BmcBits maxNum (phlFreeStainfo wrole maxNum i s) r' := by
  have hset : ∀ {x : PhlStainfo roles}, x.wrole = some r → x.macid = (s.stainfo i).macid →
      BmcBits maxNum (phlFreeStainfoSwChk wrole maxNum i (s.setSta i x)) r' := fun hx hm =>
    BmcBits.free_sw (s := s.setSta i _) h (by simpa using hx)
      (by simpa [hm] using hbit)
  simp only [phlFreeStainfo, phlFreeStainfoHwChk, hr]
  rcases phlKeepsSelf_cases wrole r i s with ⟨addr, hkeep, -⟩ | ⟨hkeep, -⟩ <;> rw [hkeep] <;>
    exact hset hr rfl

end

/-- Rings and hardware are there, only associated stations are freed, and no broadcast station. -/
def BmcStepOK (s : StaCtl roles) : StaEvent roles → Prop
  | .allocSw io _ _ | .alloc io _ _ => io.txRing = true ∧ io.hal = true
  | .free i => (∃ r, i ∈ (s.assocStaQueue r).items) ∧ s.allocBmc i = false
  | .roleFree r => ∀ i ∈ (s.assocStaQueue r).items, s.allocBmc i = false

lemma StaInv.stepOK_of_bmc (h : StaInv wrole maxNum num s) (hok : BmcStepOK s e) :
    StaStepOK s e := by
  cases e with
  | allocSw | alloc | free => exact hok.1
  | roleFree r => exact fun i hi hbit => absurd hbit (by simp [h.not_bmc hi (hok i hi)])

lemma StaInv.bmcBits_step (h : StaInv wrole maxNum num s) (hs : ∀ r, BmcBits maxNum s r)
    (hok : BmcStepOK s e) (r' : Fin roles) : BmcBits maxNum (staStep wrole maxNum s e) r' := by
  cases e with
  | allocSw io addr r => exact bmcBits_alloc hok.1 addr (hs r')
  | alloc io addr r =>
    have hsw : BmcBits maxNum (phlAllocStainfoSw wrole maxNum io addr r s).2 r' :=
      bmcBits_alloc hok.1 addr (hs r')
    simp only [staStep, phlAllocStainfo]
    split
    · rename_i heq
      exact heq ▸ hsw
    rename_i i t heq
    rw [heq] at hsw
    rw [hok.2]
    split_ifs
    · exact hsw
    · exact hsw
    · contradiction
  | free i =>
    obtain ⟨⟨r, hi⟩, hb⟩ := hok
    exact (hs r').free (h.role r i hi) (h.not_bmc hi hb)
  | roleFree r =>
    refine (role_free_rule (P := fun s => StaInv wrole maxNum num s ∧ BmcBits maxNum s r')
      (D := fun b _ => b = false) r (fun h => h.1.placed.nodup (some r))
      (fun {s i} h hi hb => ⟨(h.1.setActive i false).release hi fun hb' => ?_, ?_⟩) _ ⟨h, hs r'⟩
      hok).2
    · simp [hb] at hb'
    · have hbit := h.1.not_bmc hi hb
      exact BmcBits.release (by simpa [phlFreeStainfoHw, StaCtl.setAssoc] using hbit)
        h.2

/-- The lookup with the broadcast address finds nothing or a broadcast station of the role. -/
structure BmcLookup (maxNum : ℕ) (s : StaCtl roles) : Prop where
  fresh : ∀ r, BmcFresh maxNum s r
  lookup : ∀ r i, rtwPhlGetStainfoByAddr maxNum r bcAddr s = some i →
    i ∈ (s.assocStaQueue r).items ∧ s.allocBmc i = true

lemma StaInv.bmcLookup (h : StaInv wrole maxNum num s) (hs : ∀ r, BmcFresh maxNum s r) :
    BmcLookup maxNum s where
  fresh := hs
  lookup := fun r i hfound => by
    rw [rtwPhlGetStainfoByAddr, if_pos rfl] at hfound
    split_ifs at hfound with hmax
    obtain ⟨j, hj, hb⟩ := (hs r).resolve_left hmax
    have hsta : s.sta (s.wroleBmc r) = some j := (h.tables.sta _ _).2 ⟨r, hj⟩
    cases hfound.symm.trans hsta
    exact ⟨hj.1, hb⟩

/-- In every run in which no broadcast station is freed, in every state. -/
theorem bmc_lookup_run (wrole : Fin roles → WifiRole) (maxNum num : ℕ) (es : List (StaEvent roles))
    (hok : RunOK (staStep wrole maxNum) BmcStepOK (staInit maxNum num) es)
    (es' : List (StaEvent roles)) (hp : es' <+: es) :
    BmcLookup maxNum (run (staStep wrole maxNum) (staInit maxNum num) es') := by
  have hinv := run_inv (staStep wrole maxNum) BmcStepOK
    (P := fun s => StaInv wrole maxNum num s ∧ ∀ r, BmcBits maxNum s r)
    (fun s e h hok => ⟨h.1.step e (h.1.stepOK_of_bmc hok), h.1.bmcBits_step h.2 hok⟩) es' _
    ⟨staInit_inv wrole maxNum num, fun _ => .inl (Nat.le_refl _)⟩ (hok.of_prefix hp)
  exact hinv.1.bmcLookup fun r => hinv.1.fresh (hinv.2 r)

/-- An access point gets its broadcast station and a peer, which is freed. -/
theorem bmc_lookup_peer :
    let evs := [.allocSw ⟨true, true⟩ bcAddr 0, .alloc ⟨true, true⟩ 7 0, .free 1]
    RunOK (staStep staSampleRoles 8) BmcStepOK (staInit 8 4) evs ∧
      BmcLookup 8 (run (staStep staSampleRoles 8) (staInit 8 4) evs) := by
  refine ⟨?hok, bmc_lookup_run staSampleRoles 8 4 _ ?hok _ (prefix_refl _)⟩
  exact ⟨⟨rfl, rfl⟩, ⟨rfl, rfl⟩, ⟨⟨0, by decide +kernel⟩, by decide +kernel⟩, trivial⟩

/-- The broadcast station of the first access point is freed, and a peer of the second one gets its
macid: the lookup finds it for the first one. -/
theorem bmc_lookup_stale : ¬ BmcLookup 8 (run (staStep (fun _ : Fin 2 => ⟨.ap, 5⟩) 8) (staInit 8 4)
    [.allocSw ⟨true, true⟩ bcAddr 0, .free 0, .alloc ⟨true, true⟩ 7 1]) := by
  intro h
  obtain ⟨hi, -⟩ := h.lookup 0 1 (by decide +kernel)
  exact absurd hi (by decide +kernel)

end Broadcast

section Undo

variable {addr : MacAddr} {io : StaIo}

structure SameTables (s s' : StaCtl roles) : Prop where
  used : s'.usedMap = s.usedMap
  role : s'.wifiRoleUsedmap = s.wifiRoleUsedmap
  bmc : s'.bmcMap = s.bmcMap
  sta : s'.sta = s.sta

lemma SameTables.trans (h : SameTables s s') (h' : SameTables s' s'') : SameTables s s'' :=
  ⟨h'.used.trans h.used, h'.role.trans h.role, h'.bmc.trans h.bmc, h'.sta.trans h.sta⟩

/-- A call for a station that is not there, the free station `i` and the unused macid `mid` it gets,
of which the tables of its role and of the stations say nothing. -/
structure NewSta (wrole : Fin roles → WifiRole) (maxNum : ℕ) (addr : MacAddr) (r : Fin roles)
    (s : StaCtl roles) (i mid : ℕ) : Prop where
  self : (wrole r).type = .station ∧ addr ≠ bcAddr → rtwPhlGetStainfoSelf r s = none
  absent : rtwPhlGetStainfoByAddr maxNum r addr s = none
  free : ∃ rest, s.freeStaQueue.items = i :: rest
  counted : s.freeStaQueue.Counted
  notAssoc : i ∉ (s.assocStaQueue r).items
  macid : (range maxNum).find? (fun mid => !test s.usedMap mid) = some mid
  roleBit : test (s.wifiRoleUsedmap r) mid = false
  sta : s.sta mid = none

lemma SameTables.symm (h : SameTables s s') : SameTables s' s :=
  ⟨h.used.symm, h.role.symm, h.bmc.symm, h.sta.symm⟩

lemma NewSta.mid_lt (h : NewSta wrole maxNum addr r s i mid) : mid < maxNum :=
  mem_range.1 (mem_of_find?_eq_some h.macid)

lemma NewSta.unused (h : NewSta wrole maxNum addr r s i mid) : test s.usedMap mid = false := by
  simpa using find?_some h.macid

/-- Where the tables are right, only the call has to be looked at. -/
lemma StaInv.newSta (h : StaInv wrole maxNum num s) {rest : List ℕ}
    (hself : (wrole r).type = .station ∧ addr ≠ bcAddr → rtwPhlGetStainfoSelf r s = none)
    (habsent : rtwPhlGetStainfoByAddr maxNum r addr s = none)
    (hfree : s.freeStaQueue.items = i :: rest)
    (hmacid : (range maxNum).find? (fun mid => !test s.usedMap mid) = some mid) :
    NewSta wrole maxNum addr r s i mid := by
  have hunused : ∀ r' j, ¬ s.Has r' j mid := fun r' j hj => by
    simpa [(h.tables.used mid).2 ⟨r', j, hj⟩] using find?_some hmacid
  refine ⟨hself, habsent, ⟨rest, hfree⟩, h.placed.counted none,
    h.not_assoc_of_free (by simp [hfree]) r, hmacid, ?_, ?_⟩
  · simp [← Bool.not_eq_true, h.tables.role, hunused]
  · simp [Option.eq_none_iff_forall_ne_some, h.tables.sta, hunused]

lemma NewSta.release_iff (h : NewSta wrole maxNum addr r s i mid) {t : StaCtl roles}
    (ht : SameTables ((s.takeFree i addr r).setMacid r i mid) t)
    (hr : (t.stainfo i).wrole = some r) (hm : (t.stainfo i).macid = mid)
    (haddr : addr = bcAddr → (t.stainfo i).macAddr = bcAddr) :
    SameTables s (phlReleaseMacid maxNum i t).2 ↔
      (test s.bmcMap mid = true → (t.stainfo i).macAddr ≠ bcAddr) := by
  have hused : t.usedMap = set s.usedMap mid := ht.used
  have hrole : t.wifiRoleUsedmap =
      update s.wifiRoleUsedmap r (set (s.wifiRoleUsedmap r) mid) := ht.role
  have hsta : t.sta = update s.sta mid (some i) := ht.sta
  have hset : t.bmcMap = if addr = bcAddr then set s.bmcMap mid else s.bmcMap := by
    rw [ht.bmc]
    simp [setMacid, takeFree]
  rw [phlReleaseMacid_eq hr (hm ▸ h.mid_lt) (by simp [hused, hm])]
  have hbmc : (t.clrMacid r i).bmcMap =
      if (t.stainfo i).macAddr = bcAddr then clr s.bmcMap mid else s.bmcMap := by
    simp only [clrMacid, hset, hm]
    split_ifs with hcur hbc hbc
    · exact clr_set
    · rfl
    · exact absurd (haddr hbc) hcur
    · rfl
  refine ⟨fun h' hstale hcur => ?_, fun hkeep => ⟨?_, ?_, ?_, ?_⟩⟩
  · have hclr := hbmc.symm.trans h'.bmc
    rw [if_pos hcur, clr_eq_iff, hstale] at hclr
    cases hclr
  · simp only [setSta, clrMacid, hused, hm]
    rw [clr_set, clr_eq_iff.2 h.unused]
  · simp only [setSta, clrMacid, hrole, hm, update_idem, update_self]
    rw [clr_set, clr_eq_iff.2 h.roleBit, update_eq_self]
  · refine hbmc.trans ?_
    split_ifs with hcur
    · exact clr_eq_iff.2 (Bool.eq_false_iff.2 fun hstale => hkeep hstale hcur)
    · rfl
  · simp only [setSta, clrMacid, hsta, hm, update_idem]
    rw [← h.sta, update_eq_self]

/-- Whether a station that got the address counts as the role's own. -/
def WifiRole.keeps (role : WifiRole) (addr : MacAddr) : Bool :=
  match role.type with
  | .station | .p2pGc => role.macAddr ≠ bcAddr
  | .ap | .mesh | .p2pGo | .tdls => addr ≠ bcAddr && role.macAddr = addr
  | .none | .vap | .adhoc | .adhocMaster | .monitor | .p2pDevice | .nan => false

/-- A failure is reported, and the queues and tables are as they were. -/
structure AllocUndone (r : Fin roles) (s : StaCtl roles) (res : Option ℕ × StaCtl roles) :
    Prop where
  status : res.1 = none
  free : res.2.freeStaQueue.items.Perm s.freeStaQueue.items
  cnt : res.2.freeStaQueue.cnt = s.freeStaQueue.cnt
  assoc : res.2.assocStaQueue r = s.assocStaQueue r
  tables : SameTables s res.2

structure Entered (role : WifiRole) (maxNum : ℕ) (addr : MacAddr) (r : Fin roles) (i : ℕ)
    (keep : MacAddr → Prop) (s w : StaCtl roles) : Prop where
  free : w.freeStaQueue = s.freeStaQueue.dropFirst
  assoc : w.assocStaQueue = update s.assocStaQueue r ((s.assocStaQueue r).pushTail i)
  wrole : (w.stainfo i).wrole = some r
  active : (w.stainfo i).active = (s.stainfo i).active
  client : role.IsClient → (w.stainfo i).macAddr = role.macAddr
  other : ¬ role.IsClient → (w.stainfo i).macAddr = addr
  release : (addr = bcAddr → (w.stainfo i).macAddr = bcAddr) →
    ∀ q, SameTables s (phlReleaseMacid maxNum i (w.setAssoc r q)).2 ↔ keep (w.stainfo i).macAddr

lemma phlReleaseMacid_invalid (h : maxNum ≤ (s.stainfo i).macid) :
    SameTables s (phlReleaseMacid maxNum i s).2 := by
  unfold phlReleaseMacid
  split
  · exact ⟨rfl, rfl, rfl, rfl⟩
  · rw [if_pos h]
    exact ⟨rfl, rfl, rfl, rfl⟩

lemma entered_of {role : WifiRole} {v : StaCtl roles} {m : ℕ} {b : ℕ → Bool}
    {keep : MacAddr → Prop}
    (hfree : v.freeStaQueue = s.freeStaQueue.dropFirst) (hassoc : v.assocStaQueue = s.assocStaQueue)
    (hsta : v.stainfo i = { s.stainfo i with macAddr := addr, wrole := some r, macid := m })
    (hrel : ∀ t, SameTables v t → (t.stainfo i).wrole = some r → (t.stainfo i).macid = m →
      (addr = bcAddr → (t.stainfo i).macAddr = bcAddr) →
      (SameTables s (phlReleaseMacid maxNum i t).2 ↔ keep (t.stainfo i).macAddr)) :
    Entered role maxNum addr r i keep s { (phlStainfoEnqueueAssoc r i v).setSta i
          (phlSelfStainfoChk role ((phlStainfoEnqueueAssoc r i v).stainfo i)).2 with
        allocBmc := b } := by
  have hv : (phlStainfoEnqueueAssoc r i v).stainfo i = v.stainfo i := rfl
  obtain ⟨hrole, hmacid, -⟩ := phlSelfStainfoChk_fields role (v.stainfo i)
  rw [hv]
  rw [hsta] at hrole hmacid ⊢
  refine ⟨hfree, ?_, ?_, ?_, fun hc => ?_, fun hc => ?_, fun haddr q => hrel _ ⟨rfl, rfl, rfl, rfl⟩
    ?_ ?_ ?_⟩
  · simp [phlStainfoEnqueueAssoc, setAssoc, hassoc]
  · simp [hrole]
  · by_cases hc : role.IsClient
    · simp [phlSelfStainfoChk_client hc]
    · simp [phlSelfStainfoChk_other hc]
  · simp [phlSelfStainfoChk_client hc]
  · simp [phlSelfStainfoChk_other hc]
  · simp [setAssoc, hrole]
  · simp [setAssoc, hmacid]
  · exact haddr

lemma NewSta.entered (h : NewSta wrole maxNum addr r s i mid) (io : StaIo) :
    ∃ w, phlAllocStainfoSw wrole maxNum io addr r s = (some i, w) ∧
      Entered (wrole r) maxNum addr r i (fun a => test s.bmcMap mid = true →
        addr ≠ bcAddr ∧ (io.txRing = true → a ≠ bcAddr)) s w := by
  obtain ⟨rest, hfree⟩ := h.free
  have hself : (if (wrole r).type = .station ∧ addr ≠ bcAddr then rtwPhlGetStainfoSelf r s
      else none) = none := by
    split_ifs with hc
    · exact h.self hc
    · rfl
  have hmac : phlAllocMacid maxNum i (s.takeFree i addr r) =
      (.success, (s.takeFree i addr r).setMacid r i mid) := by
    have hmacid : (range maxNum).find?
        (fun mid => !test (s.takeFree i addr r).usedMap mid) = some mid := h.macid
    simp only [phlAllocMacid, hmacid]
    simp [takeFree]
  simp only [phlAllocStainfoSw, hself, h.absent, phlAllocStainfoNew, hfree, phlAllocStainfoSwMacid,
    hmac]
  refine ⟨_, rfl, ?_⟩
  have hu := takeFree_setMacid s r i mid addr
  set u := (s.takeFree i addr r).setMacid r i mid with hdef
  have hui : u.stainfo i = { s.stainfo i with macAddr := addr, wrole := some r, macid := mid } := by
    rw [hu, update_self]
  by_cases htx : io.txRing
  · simp [htx]
    exact entered_of rfl rfl hui fun t ht hr hm haddr =>
      (h.release_iff ht hr hm haddr).trans (imp_congr_right fun _ => by tauto)
  have hrel : (phlReleaseMacid maxNum i u).2 =
      (u.clrMacid r i).setSta i { u.stainfo i with macid := maxNum } := by
    rw [phlReleaseMacid_eq (by rw [hui]) (by rw [hui]; exact h.mid_lt) (by simp [hdef, setMacid])]
  have hsame := h.release_iff (t := u) ⟨rfl, rfl, rfl, rfl⟩ (by rw [hui]) (by rw [hui])
    fun hbc => by rw [hui, hbc]
  rw [hui] at hsame
  simp [htx]
  refine entered_of (m := maxNum) (by rw [hrel]; rfl) (by rw [hrel]; rfl) ?_ fun t ht _ hm _ => ?_
  · simp [hrel, hui]
  · have ht' := ht.trans (phlReleaseMacid_invalid hm.ge)
    rw [← hsame]
    exact ⟨fun h' => h'.trans ht'.symm, fun h' => h'.trans ht'⟩

lemma Entered.keeps (h : Entered (wrole r) maxNum addr r i keep s w) :
    (phlKeepsSelf wrole r i w).1 = (wrole r).keeps addr := by
  unfold phlKeepsSelf WifiRole.keeps
  by_cases hc : (wrole r).IsClient
  · have hmac := h.client hc
    rcases hc with hc | hc <;> simp only [hc, hmac, phlSelfStainfoChk] <;> split_ifs <;> simp_all
  · cases htype : (wrole r).type <;> simp only [phlSelfStainfoChk, htype] <;> split_ifs <;>
      simp_all [h.other hc, WifiRole.IsClient]

lemma Entered.freed (hent : Entered (wrole r) maxNum addr r i keep s w)
    (h : NewSta wrole maxNum addr r s i mid)
    (haddr : addr = bcAddr → (w.stainfo i).macAddr = bcAddr) :
    AllocUndone r s (none, phlStainfoEnqueueFree i
      (phlFreeStainfoSw maxNum i (phlStainfoQueueDel r i w))) ↔ keep (w.stainfo i).macAddr := by
  obtain ⟨rest, hfree⟩ := h.free
  have hdel : phlStainfoQueueDel r i w = w.setAssoc r (s.assocStaQueue r) := by
    have herase : ((s.assocStaQueue r).pushTail i).erase i = s.assocStaQueue r := by
      simp [CntQueue.erase, CntQueue.pushTail, erase_append_right _ h.notAssoc]
    simp only [phlStainfoQueueDel, hent.assoc, update_self, herase]
    exact if_neg (Nat.succ_ne_zero _)
  rw [hdel]
  obtain ⟨hq, -⟩ := release_frame maxNum i (w.setAssoc r (s.assocStaQueue r))
  obtain ⟨hassoc, -, -⟩ := freed_frame maxNum i (w.setAssoc r (s.assocStaQueue r))
  have hq' : (phlFreeStainfoSw maxNum i (w.setAssoc r (s.assocStaQueue r))).freeStaQueue =
      s.freeStaQueue.dropFirst := hq.trans hent.free
  rw [← hent.release haddr (s.assocStaQueue r)]
  refine ⟨fun hu => ⟨hu.tables.used, hu.tables.role, hu.tables.bmc, hu.tables.sta⟩,
    fun ht => ⟨rfl, ?_, ?_, ?_, ht.used, ht.role, ht.bmc, ht.sta⟩⟩
  · simp [phlStainfoEnqueueFree, hq', hfree]
  · have hcnt := h.counted
    simp [CntQueue.Counted, hfree] at hcnt
    simp [phlStainfoEnqueueFree, hq', CntQueue.pushTail, CntQueue.dropFirst, hfree, hcnt]
  · exact (congrFun hassoc r).trans (update_self _ _ _)

/-- A failed allocation is undone exactly when the hardware refuses the station, which was not
active, it does not count as the role's own, and the release clears no stale broadcast bit. -/
theorem alloc_undone_iff (h : NewSta wrole maxNum addr r s i mid) :
    AllocUndone r s (phlAllocStainfo wrole maxNum io addr r s) ↔
      io.hal = false ∧ (s.stainfo i).active = false ∧ (wrole r).keeps addr = false ∧
        (test s.bmcMap mid = true → addr ≠ bcAddr ∧ (io.txRing = true → ¬ (wrole r).IsClient)) := by
  obtain ⟨w, hw, hent⟩ := h.entered io
  simp only [phlAllocStainfo, hw, hent.active]
  cases hact : (s.stainfo i).active with
  | true => exact iff_of_false (fun hu => by simpa using hu.status) (by simp)
  | false =>
    cases hhal : io.hal with
    | true => exact iff_of_false (fun hu => by simpa using hu.status) (by simp)
    | false =>
      simp [phlFreeStainfoSwChk, hent.wrole]
      have hkeeps := hent.keeps
      rcases phlKeepsSelf_cases wrole r i w with ⟨a, hkeep, -⟩ | ⟨hkeep, haddr⟩ <;>
        rw [hkeep] at hkeeps ⊢
      · refine iff_of_false (fun hu => ?_) (by simp [← hkeeps])
        have hassoc := congrArg CntQueue.items hu.assoc
        simp [hent.assoc] at hassoc
      · rw [hent.freed h fun hbc => haddr.elim id fun hc => (hent.other hc).trans hbc, ← hkeeps]
        simp
        refine forall_congr' fun _ => and_congr_right fun hne => imp_congr_right fun _ => ?_
        by_cases hc : (wrole r).IsClient
        · simp [hc, haddr.resolve_right (not_not.2 hc)]
        · simp [hc, hent.other hc, hne]

/-- The hardware refuses the first peer of an access point. -/
theorem alloc_undone_peer : NewSta staSampleRoles 8 7 0 (staInit 8 4) 0 0 ∧
      AllocUndone 0 (staInit 8 4)
        (phlAllocStainfo staSampleRoles 8 ⟨true, false⟩ 7 0 (staInit 8 4)) := by
  have hnew : NewSta staSampleRoles 8 7 0 (staInit 8 4) 0 0 :=
    (staInit_inv staSampleRoles 8 4).newSta (fun _ => rfl) rfl rfl rfl
  exact ⟨hnew, (alloc_undone_iff hnew).2 ⟨rfl, rfl, rfl, nofun⟩⟩

/-- The ring of the peer cannot be registered, and the station is returned. -/
theorem alloc_undone_ring : ¬ AllocUndone 0 (staInit 8 4)
    (phlAllocStainfo staSampleRoles 8 ⟨false, true⟩ 7 0 (staInit 8 4)) := by
  intro h
  exact absurd h.status (by decide +kernel)

end Undo

end Rtl8852be

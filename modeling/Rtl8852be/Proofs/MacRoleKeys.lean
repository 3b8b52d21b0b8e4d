import Rtl8852be.Lib.SoleOwner
import Rtl8852be.Proofs.MacRoleTable

/-!
# Key slots and the security CAM

What the key slots and the table of the security CAM have to do with each other is said of the slots
alone (`KeyInv`).
-/

namespace Rtl8852be

open Function Keyed MacRoles SecCamTable List Option

variable {s s' : MacRoles} {env : MacRoleEnv} {info : MacRoleInfo} {macid : ℕ} {r : MacRole}
variable {i : ℕ} {o : Option (Fin 7 → SecEnt)} {t : Option SecCamTable} {m' : ℕ}

def MacRoles.keySlots (s : MacRoles) (macid : ℕ) : Option (Fin 7 → SecEnt) :=
  (macRoleSrch s.table macid).map fun r => r.info.aInfo.secEnt

section

variable (h : macRoleSrch s.table macid = some r)
include h

lemma keySlots_of_srch : s.keySlots macid = some r.info.aInfo.secEnt := by
  rw [keySlots, h]
  rfl

lemma keySlots_setInfo : (s.setInfo macid info).keySlots
      = update s.keySlots macid (some info.aInfo.secEnt) := by
  funext m
  by_cases hm : m = macid
  · rw [hm, update_self]
    exact keySlots_of_srch (srch_setInfo_self h)
  · rw [update_of_ne hm, keySlots, srch_setInfo_of_ne hm]
    rfl

lemma keySlots_setInfo_same (hsame : info.aInfo.secEnt = r.info.aInfo.secEnt) :
    (s.setInfo macid info).keySlots = s.keySlots := by
  rw [keySlots_setInfo h, hsame, ← keySlots_of_srch h, update_eq_self]

end

structure SameKeys (s s' : MacRoles) : Prop where
  slots : s'.keySlots = s.keySlots
  secCam : s'.secCam = s.secCam

lemma sameKeys_updRole (h : macRoleSrch s.table macid = some r) :
    SameKeys s (s.updRole env r).2 := by
  obtain rfl : r.macid = macid := key_of_get h
  exact ⟨keySlots_setInfo_same (s := s) h
    (camFrame_macUpdAddrCam env .chg _ r.info s.bssidCam).secEnt, rfl⟩

lemma sameKeys_updKeys (env : MacRoleEnv) (macid : ℕ) (s : MacRoles) :
    SameKeys s (s.updKeys env macid).2 := by
  unfold updKeys
  rcases hrole : macRoleSrch s.table macid with _ | role
  · exact ⟨rfl, rfl⟩
  have hupd : SameKeys s (s.updRole env role).2 := sameKeys_updRole hrole
  simp only
  rcases hres : s.updRole env role with ⟨st, s₁⟩
  rw [hres] at hupd
  cases st <;> exact hupd

lemma updKeys_success (henv : env.Ok) (h : macRoleSrch s.table macid = some r)
    (hroom : BssidRoom (s.others macid) r.info) : (s.updKeys env macid).1 = .success := by
  obtain rfl : r.macid = macid := key_of_get h
  rw [updKeys, h]
  simp only [updRole_of_room henv hroom]

def slotEntry (v : ℕ → Option (Fin 7 → SecEnt)) (p : ℕ × Fin 7) : Option ℕ :=
  (v p.1).bind fun e => if (e p.2).valid then some (e p.2).idx else none

/-- The entries of the security CAM, which are clear while there is no table. -/
def secEntries (t : Option SecCamTable) : ℕ → SecCamEntry :=
  t.elim (fun _ => secCamEntryClear) secCamEntry

@[simp] lemma secEntries_some (t : SecCamTable) : secEntries (some t) = t.secCamEntry := rfl

@[local simp]
def validEntries (t : Option SecCamTable) : Set ℕ := { i | (secEntries t i).valid = true }

lemma mem_validEntries :
    i ∈ validEntries t ↔ ∃ tbl, t = some tbl ∧ (tbl.secCamEntry i).valid = true := by
  rcases t <;> simp [secEntries]

/-- Valid slots name valid entries of their own, and all of them. -/
structure KeyInv (v : ℕ → Option (Fin 7 → SecEnt)) (t : Option SecCamTable) : Prop where
  owned : SoleOwner (slotEntry v) (validEntries t)
  entry : ∀ {m : ℕ} {e : Fin 7 → SecEnt} (k : Fin 7), v m = some e → (e k).valid = true →
    (secEntries t (e k).idx).macId = m ∧ (secEntries t (e k).idx).keyId = (e k).keyid
  lt : ∀ i ∈ validEntries t, i < secCamEntryNum

variable {k : Fin 7}

section Inv

variable {v : ℕ → Option (Fin 7 → SecEnt)} {tbl : SecCamTable} {m : ℕ} {e : Fin 7 → SecEnt}

lemma slotEntry_eq_some :
    slotEntry v (m, k) = some i ↔ ∃ e, v m = some e ∧ (e k).valid = true ∧ (e k).idx = i := by
  rw [slotEntry, bind_eq_some_iff]
  refine exists_congr fun e => and_congr_right fun _ => ?_
  split_ifs with hk <;> simp [hk]

lemma slotEntry_update_self (o : Option (Fin 7 → SecEnt)) (k : Fin 7) :
    slotEntry (update v m o) (m, k)
      = o.bind fun e => if (e k).valid then some (e k).idx else none := by
  rw [slotEntry, update_self]

lemma slotEntry_update_of_ne (o : Option (Fin 7 → SecEnt)) (k : Fin 7) (h : m' ≠ m) :
    slotEntry (update v m o) (m', k) = slotEntry v (m', k) := by
  rw [slotEntry, update_of_ne h]
  rfl

lemma update_eq_some (h : update v m o m' = some e) :
    (m' = m ∧ o = some e) ∨ (m' ≠ m ∧ v m' = some e) := by
  by_cases hm : m' = m
  · rw [hm, update_self] at h
    exact .inl ⟨hm, h⟩
  · rw [update_of_ne hm] at h
    exact .inr ⟨hm, h⟩

lemma KeyInv.replace (h : KeyInv v t) (hold : ∀ k, slotEntry v (m, k) = none)
    (hnew : ∀ e, o = some e → ∀ k, (e k).valid = false) : KeyInv (update v m o) t := by
  refine ⟨h.owned.congr (fun ⟨m', k⟩ => ?_) fun _ => Iff.rfl, fun k hm' hk => ?_, h.lt⟩
  · by_cases hm : m' = m
    · rw [hm, slotEntry_update_self, hold k]
      rcases o with _ | e
      · rfl
      · simp [hnew e rfl k]
    · exact slotEntry_update_of_ne o k hm
  · rcases update_eq_some hm' with ⟨-, he⟩ | ⟨-, he⟩
    · rw [hnew _ he k] at hk
      cases hk
    · exact h.entry k he hk

lemma KeyInv.table {t' : Option SecCamTable} (h : KeyInv v t)
    (hsame : secEntries t' = secEntries t) : KeyInv v t' := by
  obtain ⟨howned, hentry, hlt⟩ := h
  constructor <;> simpa only [validEntries, hsame]

lemma KeyInv.idx_ne (h : KeyInv v t) (hm : v m = some e) (hk : (e k).valid = true)
    (hi : (secEntries t i).valid = false) : (e k).idx ≠ i := by
  rintro rfl
  exact absurd (h.owned.mem (slotEntry_eq_some.2 ⟨e, hm, hk, rfl⟩)) (by simp [hi])

lemma mem_validEntries_put (tbl : SecCamTable) (i macid keyId keyType j : ℕ) :
    j ∈ validEntries (some (tbl.put i ⟨true, macid, keyId, keyType⟩)) ↔
      j = i ∨ j ∈ validEntries (some tbl) := by
  by_cases hj : j = i <;> simp [put, hj]

lemma slotEntry_write_of_ne (hm : v m = some e) (ent : SecEnt) :
    ∀ p ≠ (m, k), slotEntry (update v m (some (update e k ent))) p = slotEntry v p := by
  rintro ⟨m', k'⟩ hne
  by_cases hm' : m' = m
  · have hk' : k' ≠ k := fun he => hne (by rw [hm', he])
    rw [hm', slotEntry_update_self, slotEntry, hm]
    simp [hk']
  · exact slotEntry_update_of_ne _ k' hm'

lemma KeyInv.take (h : KeyInv v (some tbl)) (hm : v m = some e) (hk : (e k).valid = false)
    (hi : (tbl.secCamEntry i).valid = false) (hlt : i < secCamEntryNum) (keyId keyType : ℕ) :
    KeyInv (update v m (some (update e k ⟨true, keyId, i⟩)))
      (some (tbl.put i ⟨true, m, keyId, keyType⟩)) := by
  have hput := mem_validEntries_put tbl i m keyId keyType
  refine ⟨?_, @fun m' e' k' hm' hk' => ?_, fun j hj => ?_⟩
  · refine h.owned.take (k := (m, k)) ?_ ?_ (slotEntry_write_of_ne hm _) ?_ hput
    · simp [hi]
    · rw [slotEntry_update_self]
      simp
    · rw [slotEntry, hm]
      simp [hk]
  · -- the new slot names the new entry, and every other slot one that was valid before
    have hother : ∀ {e₀ : Fin 7 → SecEnt}, v m' = some e₀ → (e₀ k').valid = true →
        ((tbl.put i ⟨true, m, keyId, keyType⟩).secCamEntry (e₀ k').idx).macId = m' ∧
          ((tbl.put i ⟨true, m, keyId, keyType⟩).secCamEntry (e₀ k').idx).keyId
            = (e₀ k').keyid := by
      intro e₀ he₀ hv
      simp only [put, update_of_ne (h.idx_ne he₀ hv hi)]
      exact h.entry k' he₀ hv
    rcases update_eq_some hm' with ⟨rfl, he⟩ | ⟨-, he⟩
    · cases he
      by_cases hkk : k' = k
      · subst hkk
        simp [put]
      · rw [update_of_ne hkk] at hk' ⊢
        exact hother hm hk'
    · exact hother he hk'
  · rcases (hput j).1 hj with rfl | hj
    · exact hlt
    · exact h.lt j hj

structure Clears (gone : Fin 7 → Prop) (e e' : Fin 7 → SecEnt) (tbl tbl' : SecCamTable) :
    Prop where
  slot : ∀ k, gone k → (e' k).valid = false
  kept : ∀ k, ¬ gone k → e' k = e k
  entry : ∀ k, gone k → (e k).valid = true → tbl'.secCamEntry (e k).idx = secCamEntryClear
  other : ∀ i, (∀ k, gone k → (e k).valid = true → (e k).idx ≠ i) →
    tbl'.secCamEntry i = tbl.secCamEntry i

section Clears

variable {gone : Fin 7 → Prop} {e' : Fin 7 → SecEnt} {tbl' : SecCamTable}

section

variable (hc : Clears gone e e' tbl tbl')
include hc

lemma Clears.mem_validEntries (hm : v m = some e) (i : ℕ) :
    i ∈ validEntries (some tbl') ↔ i ∈ validEntries (some tbl) ∧
      ∀ p : ℕ × Fin 7, p.1 = m ∧ gone p.2 → slotEntry v p ≠ some i := by
  by_cases hi : ∀ k, gone k → (e k).valid = true → (e k).idx ≠ i
  · have hiff : i ∈ validEntries (some tbl') ↔ i ∈ validEntries (some tbl) := by
      simp [hc.other i hi]
    rw [hiff]
    refine ⟨fun hin => ⟨hin, ?_⟩, And.left⟩
    rintro ⟨m', k⟩ ⟨rfl, hg⟩ hslot
    obtain ⟨e₀, he₀, hv, hidx⟩ := slotEntry_eq_some.1 hslot
    cases hm.symm.trans he₀
    exact hi k hg hv hidx
  · push Not at hi
    obtain ⟨k, hg, hv, rfl⟩ := hi
    have hnot : (e k).idx ∉ validEntries (some tbl') := by
      simp [hc.entry k hg hv]
    refine iff_of_false hnot fun hand => ?_
    exact hand.2 (m, k) ⟨rfl, hg⟩ (slotEntry_eq_some.2 ⟨e, hm, hv, rfl⟩)

lemma Clears.slotEntry_gone (p : ℕ × Fin 7)
    (hp : p.1 = m ∧ gone p.2) : slotEntry (update v m (some e')) p = none := by
  obtain ⟨m', k⟩ := p
  obtain ⟨rfl, hg⟩ := hp
  rw [slotEntry_update_self]
  simp [hc.slot k hg]

lemma Clears.slotEntry_kept (hm : v m = some e) (p : ℕ × Fin 7) (hp : ¬ (p.1 = m ∧ gone p.2)) :
    slotEntry (update v m (some e')) p = slotEntry v p := by
  obtain ⟨m', k⟩ := p
  by_cases hm' : m' = m
  · subst hm'
    rw [slotEntry_update_self, slotEntry, hm]
    simp [hc.kept k fun hg => hp ⟨rfl, hg⟩]
  · exact slotEntry_update_of_ne _ k hm'

lemma Clears.was (hm : v m = some e) {e₀ : Fin 7 → SecEnt}
    (hm' : update v m (some e') m' = some e₀) (hk : (e₀ k).valid = true) :
    ∃ e₁, v m' = some e₁ ∧ e₁ k = e₀ k ∧ ¬ (m' = m ∧ gone k) := by
  rcases update_eq_some hm' with ⟨rfl, he⟩ | ⟨hne, he⟩
  · cases he
    have hg : ¬ gone k := by
      intro hg
      rw [hc.slot k hg] at hk
      cases hk
    exact ⟨e, hm, (hc.kept k hg).symm, fun hand => hg hand.2⟩
  · exact ⟨e₀, he, rfl, fun hand => hne hand.1⟩

end

lemma KeyInv.clear (h : KeyInv v (some tbl)) (hm : v m = some e)
    (hc : Clears gone e e' tbl tbl') : KeyInv (update v m (some e')) (some tbl') := by
  have hheld := hc.mem_validEntries hm
  refine ⟨h.owned.release _ hc.slotEntry_gone (hc.slotEntry_kept hm) hheld,
    fun k hm' hk => ?_, fun i hi => h.lt i ((hheld i).1 hi).1⟩
  obtain ⟨e₁, he₁, heq, hnot⟩ := hc.was hm hm' hk
  rw [← heq] at hk ⊢
  have hslot := slotEntry_eq_some.2 ⟨e₁, he₁, hk, rfl⟩
  rw [secEntries_some, hc.other (e₁ k).idx]
  · exact h.entry k he₁ hk
  intro k' hg hv hidx
  have hown := h.owned.owner _ _ _ hslot (slotEntry_eq_some.2 ⟨e, hm, hv, hidx⟩)
  obtain ⟨rfl, rfl⟩ := Prod.mk.inj hown
  exact hnot ⟨rfl, hg⟩

end Clears

end Inv

abbrev MacRoles.KeyOK (s : MacRoles) : Prop := KeyInv s.keySlots s.secCam

lemma SameKeys.keyInv (hs : SameKeys s s') (h : s.KeyOK) : s'.KeyOK := by
  rwa [MacRoles.KeyOK, hs.slots, hs.secCam]

lemma secCamEntry_flush (aInfo : AddrCamInfo) (i : ℕ) : ∀ (l : List (Fin 7)) (t : SecCamTable),
      (l.foldl (fun t k => if (aInfo.secEnt k).valid then t.clear (aInfo.secEnt k).idx else t)
        t).secCamEntry i
        = if ∃ k ∈ l, (aInfo.secEnt k).valid = true ∧ (aInfo.secEnt k).idx = i then secCamEntryClear
          else t.secCamEntry i
  | [], t => by simp
  | k :: l, t => by
    have hstep : (if (aInfo.secEnt k).valid then t.clear (aInfo.secEnt k).idx else t).secCamEntry i
        = if (aInfo.secEnt k).valid = true ∧ (aInfo.secEnt k).idx = i then secCamEntryClear
          else t.secCamEntry i := by
      cases hv : (aInfo.secEnt k).valid
      · simp
      · simp [clear, update_apply, eq_comm]
    rw [foldl_cons, secCamEntry_flush aInfo i l, hstep]
    by_cases hl : ∃ k ∈ l, (aInfo.secEnt k).valid = true ∧ (aInfo.secEnt k).idx = i
    · rw [if_pos hl, if_pos ((exists_mem_cons_iff _ _ _).2 (.inr hl))]
    · rw [if_neg hl]
      simp only [exists_mem_cons_iff, hl, or_false]

lemma clears_disconnectFlushKey (aInfo : AddrCamInfo) (t : SecCamTable) :
    Clears (fun _ => True) aInfo.secEnt (fun _ => secEntClear) t (disconnectFlushKey aInfo t) := by
  refine ⟨fun _ _ => rfl, fun _ hk => absurd trivial hk, fun k _ hk => ?_, fun i hi => ?_⟩
  · rw [disconnectFlushKey, secCamEntry_flush, if_pos ⟨k, mem_finRange k, hk, rfl⟩]
  · rw [disconnectFlushKey, secCamEntry_flush, if_neg]
    rintro ⟨k, -, hk, hidx⟩
    exact hi k trivial hk hidx

lemma keyInv_secInfoDeinit (hrole : macRoleSrch s.table info.macid = some r)
    (hr : r.info.aInfo.secEnt = info.aInfo.secEnt) (h : s.KeyOK) :
    (secInfoDeinit info s).KeyOK := by
  have hslots : s.keySlots info.macid = some info.aInfo.secEnt := by
    rw [keySlots_of_srch hrole, hr]
  unfold secInfoDeinit
  rcases hcam : s.secCam with _ | t
  · exact h
  rw [KeyOK, hcam] at h
  have hnew : KeyInv (update s.keySlots info.macid (some fun _ => secEntClear))
      (some (disconnectFlushKey info.aInfo t)) := by
    exact h.clear hslots (clears_disconnectFlushKey info.aInfo t)
  have hset : (s.setInfo info.macid { info with aInfo := { info.aInfo with
      secEntMode := 0, secEnt := fun _ => secEntClear } }).keySlots
        = update s.keySlots info.macid (some fun _ => secEntClear) :=
    keySlots_setInfo hrole
  rwa [← hset] at hnew

lemma keyInv_macChangeRole (env : MacRoleEnv) (info : MacRoleInfo)
    (h : s.KeyOK) : (macChangeRole env info s).2.KeyOK := by
  have hupdInv : ∀ role, macRoleSrch s.table info.macid = some role →
      (changeUpd env info role s).2.KeyOK := by
    intro role hrole
    have hset : KeyInv (s.setInfo info.macid (changeInfo info role)).keySlots _ :=
      SameKeys.keyInv ⟨keySlots_setInfo_same hrole rfl, rfl⟩ h
    rw [changeUpd, changeRoleUpd_snd]
    split_ifs
    · exact keyInv_secInfoDeinit (srch_setInfo_self hrole) rfl hset
    · exact hset
  have hmove := macChangeRole_move env info s
  generalize macChangeRole env info s = res at hmove
  cases hmove with
  | refused => exact h
  | @stopped role st s₁ hvalid hrole hupd =>
    have hinv := hupdInv role hrole
    rwa [changeUpd, hupd] at hinv
  | @updated role role' s₁ hvalid hrole hupd hrole' =>
    have hinv := hupdInv role hrole
    rw [changeUpd, hupd] at hinv
    exact (sameKeys_updRole hrole').keyInv hinv

lemma keyInv_macAddRole (env : MacRoleEnv) (info : MacRoleInfo) (h : s.KeyOK) :
    (macAddRole env info s).2.KeyOK := by
  have hmove := macAddRole_move env info s
  generalize macAddRole env info s = res at hmove
  cases hmove with
  | refused | leaked => exact h
  | @added st info' cam hpool hvalid hcam haddr hbssid =>
    have hframe := camFrame_macUpdAddrCam env .add s.table (addedInfo info) s.bssidCam
    rw [hcam] at hframe
    have hnone : macRoleSrch s.table info'.macid = none :=
      hframe.macid ▸ srch_of_roleInfoValid_add hvalid
    have hslots : keySlots { s with
        pool := s.pool - 1, table := s.table ++ [⟨info'.macid, info'⟩], bssidCam := cam }
          = update s.keySlots info'.macid (some info'.aInfo.secEnt) := by
      funext m
      rw [keySlots, macRoleSrch, get_append_singleton]
      by_cases hm : m = info'.macid
      · rw [hm, update_self, if_pos rfl, show get _ _ _ = none from hnone]
        rfl
      · rw [update_of_ne hm, if_neg (Ne.symm hm), or_none]
        rfl
    simp only [KeyOK, hslots]
    refine h.replace (fun k => ?_) fun e he k => ?_
    · rw [slotEntry, keySlots, hnone]
      rfl
    · cases he
      rw [hframe.secEnt]
      rfl

lemma keyInv_macRemoveRole (henv : env.Ok) (htable : TableOK s.table)
    (hok : ∀ r ∈ macRoleSrch s.table macid, (∀ k, (r.info.aInfo.secEnt k).valid = false) ∨
      ¬ BssidRoom (s.others macid) (removedInfo r.info))
    (h : s.KeyOK) : (macRemoveRole env macid s).2.KeyOK := by
  rcases hrole : macRoleSrch s.table macid with _ | r
  · simp only [macRemoveRole, hrole]
    exact h
  by_cases hroom : BssidRoom (s.others macid) (removedInfo r.info)
  · rw [macRemoveRole_of_room henv htable hrole hroom]
    have hclear := (hok r hrole).resolve_right (not_not.2 hroom)
    have hslots : keySlots { s with table := s.others macid }
        = update s.keySlots macid none := by
      funext m
      by_cases hm : m = macid
      · rw [hm, update_self, keySlots, map_eq_none_iff]
        exact htable.distinct.get_remove_self
      · rw [update_of_ne hm, keySlots]
        exact congrArg _ (get_remove_of_ne hm s.table)
    have hnew : KeyInv (update s.keySlots macid none) s.secCam := by
      refine h.replace (fun k => ?_) fun e he => ?_
      · rw [slotEntry, keySlots_of_srch hrole]
        simp [hclear k]
      · cases he
    rw [← hslots] at hnew
    exact hnew
  · rw [macRemoveRole_of_not_room henv htable hrole hroom]
    have hsame : SameKeys s
        (s.setInfo macid (placedInfo (s.others macid) (removedInfo r.info))) :=
      ⟨keySlots_setInfo_same hrole rfl, rfl⟩
    exact hsame.keyInv h

lemma find?_secCamEntry {tbl : SecCamTable}
    (h : ((range secCamEntryNum).map fun n => (tbl.nextCamStorageIdx + n) % secCamEntryNum).find?
      (fun j => (tbl.secCamEntry j).valid = false) = some i) :
    i < secCamEntryNum ∧ (tbl.secCamEntry i).valid = false := by
  have hfree := find?_some h
  obtain ⟨n, -, rfl⟩ := mem_map.1 (mem_of_find?_eq_some h)
  exact ⟨Nat.mod_lt _ (by decide), of_decide_eq_true hfree⟩

/-- The table is as it was when no index is found. Otherwise only the next index is another. -/
lemma decideSecCamIndex_cases (env : MacRoleEnv) (t : Option SecCamTable) :
    ((decideSecCamIndex env t).1 ≠ .success ∧ (decideSecCamIndex env t).2.2 = t) ∨
      ∃ i < secCamEntryNum, (secEntries t i).valid = false ∧ decideSecCamIndex env t =
        (.success, i, some ⟨secEntries t, (i + 1) % secCamEntryNum⟩) := by
  rcases t with _ | tbl
  · cases hm : env.secMalloc <;> simp only [decideSecCamIndex, hm]
    · exact .inl ⟨nofun, rfl⟩
    · exact .inr ⟨0, by decide, rfl, rfl⟩
  · simp only [decideSecCamIndex, orElse_some]
    split
    · rename_i i hi
      exact .inr ⟨i, (find?_secCamEntry hi).1, (find?_secCamEntry hi).2, rfl⟩
    · exact .inl ⟨nofun, rfl⟩

lemma decideSecCamIndex_success {secCam : Option SecCamTable}
    (h : decideSecCamIndex env t = (.success, i, secCam)) : i < secCamEntryNum ∧
      (secEntries t i).valid = false ∧ secCam = some ⟨secEntries t, (i + 1) % secCamEntryNum⟩ := by
  rcases decideSecCamIndex_cases env t with ⟨hst, -⟩ | ⟨j, hlt, hfree, hidx⟩
  · exact absurd (congrArg Prod.fst h) hst
  · obtain ⟨-, rfl, rfl⟩ := hidx.symm.trans h
    exact ⟨hlt, hfree, rfl⟩

lemma secEntries_chosenIndex (env : MacRoleEnv) (forced : Option ℕ) (s : MacRoles) :
    secEntries (chosenIndex env forced s).2.2 = secEntries s.secCam := by
  cases forced with
  | some => rfl
  | none =>
    rcases decideSecCamIndex_cases env s.secCam with ⟨-, hsame⟩ | ⟨_, -, -, hidx⟩
    · exact congrArg secEntries hsame
    · exact congrArg (fun res => secEntries res.2.2) hidx

lemma setSecEnt_updKeys {k : Fin 7} {e : SecEnt} {st : MacStatus}
    (hupd : (s.setSecEnt r k e).updKeys env r.macid = (st, s'))
    (hrole : macRoleSrch s.table macid = some r) :
    s'.keySlots = update s.keySlots macid
        (some (update r.info.aInfo.secEnt k e)) ∧ s'.secCam = s.secCam ∧
      (env.Ok → BssidRoom (s.others macid) r.info → st = .success) := by
  obtain rfl : r.macid = macid := key_of_get hrole
  have hkeys := sameKeys_updKeys env r.macid (s.setSecEnt r k e)
  rw [hupd] at hkeys
  refine ⟨?_, hkeys.secCam, fun henv hroom => ?_⟩
  · rw [hkeys.slots]
    exact keySlots_setInfo hrole
  have hst : ((s.setSecEnt r k e).updKeys env r.macid).1 = .success := by
    have hself : macRoleSrch (s.setSecEnt r k e).table r.macid
        = some ⟨r.macid, { r.info with aInfo := { r.info.aInfo with
          secEnt := update r.info.aInfo.secEnt k e } }⟩ := srch_setInfo_self hrole
    refine updKeys_success henv hself ?_
    rw [setSecEnt, others_setInfo]
    have hhit : ∀ q, bssidHit { r.info with aInfo := { r.info.aInfo with
        secEnt := update r.info.aInfo.secEnt k e } } q ↔ bssidHit r.info q :=
      fun _ => Iff.rfl
    exact (bssidRoom_congr hhit).2 hroom
  rwa [hupd] at hst

lemma keyInv_macStaAddKey (henv : env.Ok) (encType keyId : ℕ) (keyType : SecCamKeyType)
    (hroom : ∀ r ∈ macRoleSrch s.table macid, AddKeyReaches s env encType none r keyType →
      BssidRoom (s.others macid) r.info) (h : s.KeyOK) :
    (macStaAddKey env encType none macid keyId keyType s).2.KeyOK := by
  have hmove := macStaAddKey_move env encType none macid keyId keyType s
  generalize macStaAddKey env encType none macid keyId keyType s = res at hmove
  have hdec := KeyInv.table h (secEntries_chosenIndex env none s)
  cases hmove with
  | @refused st secCam hst hcam =>
    rcases hcam with rfl | rfl
    · exact h
    · exact hdec
  | @failed role k i secCam st st' s₁ hrole hreach hidx hk hupd hst =>
    obtain ⟨-, -, hsucc⟩ := setSecEnt_updKeys hupd hrole
    rcases hst with hst | hst
    · exact absurd (hsucc henv (hroom role hrole hreach)) hst
    · exact absurd henv.secUpd hst
  | @added role k i secCam s₁ hrole hreach hidx hk hupd =>
    obtain ⟨hslots, hcam, -⟩ := setSecEnt_updKeys hupd hrole
    obtain ⟨hlt, hinv, rfl⟩ := decideSecCamIndex_success hidx
    rw [hidx] at hdec
    simp [hcam]
    have hslots' : s₁.keySlots = update s.keySlots macid
        (some (update role.info.aInfo.secEnt k ⟨true, keyId, i⟩)) := hslots
    have hnew := hdec.take (keySlots_of_srch hrole) hk.not_valid hinv hlt keyId keyType.code
    rwa [← hslots'] at hnew

lemma clears_slot {e : Fin 7 → SecEnt} {k : Fin 7} (t : SecCamTable) (hk : (e k).valid = true) :
    Clears (· = k) e (update e k secEntClear) t (t.clear (e k).idx) := by
  refine ⟨?_, fun k' hk' => update_of_ne hk' _ _, ?_, fun i hi => ?_⟩
  · rintro _ rfl
    rw [update_self]
    rfl
  · rintro _ rfl -
    exact update_self _ _ _
  · exact update_of_ne (Ne.symm (hi k rfl hk)) _ _

lemma keyInv_macStaDelKey (henv : env.Ok) (keyId : ℕ) (keyType : SecCamKeyType)
    (hroom : ∀ r ∈ macRoleSrch s.table macid, (∃ k, DeleteSlot r.info.aInfo keyType keyId k) →
      BssidRoom (s.others macid) r.info) (h : s.KeyOK) :
    (macStaDelKey env macid keyId keyType s).2.KeyOK := by
  have hmove := macStaDelKey_move env macid keyId keyType s
  generalize macStaDelKey env macid keyId keyType s = res at hmove
  cases hmove with
  | refused => exact h
  | @failed role k st st' s₁ hrole hk hupd hst =>
    obtain ⟨-, -, hsucc⟩ := setSecEnt_updKeys hupd hrole
    rcases hst with hst | hst
    · exact absurd (hsucc henv (hroom role hrole ⟨k, hk⟩)) hst
    · exact absurd henv.secUpd hst
  | @deleted role k s₁ hrole hk hupd =>
    obtain ⟨hslots, hcam, -⟩ := setSecEnt_updKeys hupd hrole
    have hm := keySlots_of_srch hrole
    have hvalid := hk.valid
    obtain ⟨tbl, htbl, -⟩ := mem_validEntries.1
      (h.owned.mem (slotEntry_eq_some.2 ⟨_, hm, hvalid, rfl⟩))
    rw [KeyOK, htbl] at h
    rw [htbl] at hcam
    simp [hcam]
    have hnew : KeyInv s₁.keySlots (some (tbl.clear (role.info.aInfo.secEnt k).idx)) := by
      rw [hslots]
      exact h.clear hm (clears_slot tbl hvalid)
    exact hnew

/-- All calls succeed and indices are automatic. A role is removed with no key left, unless its
removal fails, and has a BSSID entry to go to when a slot is filled or cleared. -/
def KeysOK (s : MacRoles) : MacRoleEv → Prop
  | .add env _ => env.Ok
  | .change env _ => env.Ok
  | .remove env macid => env.Ok ∧ ∀ r ∈ macRoleSrch s.table macid,
      (∀ k, (r.info.aInfo.secEnt k).valid = false) ∨
        ¬ BssidRoom (s.others macid) (removedInfo r.info)
  | .addKey env encType forced macid _ keyType => env.Ok ∧ forced = none ∧
      ∀ r ∈ macRoleSrch s.table macid, AddKeyReaches s env encType forced r keyType →
        BssidRoom (s.others macid) r.info
  | .delKey env macid keyId keyType => env.Ok ∧
      ∀ r ∈ macRoleSrch s.table macid, (∃ k, DeleteSlot r.info.aInfo keyType keyId k) →
        BssidRoom (s.others macid) r.info

structure KeysInv (s : MacRoles) : Prop where
  table : TableOK s.table
  keys : KeyInv s.keySlots s.secCam

lemma keysInv_step (ev : MacRoleEv) (h : KeysInv s) (hok : KeysOK s ev) :
    KeysInv (macRoleStep s ev) := by
  refine ⟨tableOK_step ev h.table, ?_⟩
  cases ev with
  | add env info => exact keyInv_macAddRole env info h.keys
  | change env info => exact keyInv_macChangeRole env info h.keys
  | remove env macid => exact keyInv_macRemoveRole hok.1 h.table hok.2 h.keys
  | addKey env encType forced macid keyId keyType =>
    obtain ⟨henv, rfl, hroom⟩ := hok
    exact keyInv_macStaAddKey henv encType keyId keyType hroom h.keys
  | delKey env macid keyId keyType =>
    exact keyInv_macStaDelKey hok.1 keyId keyType hok.2 h.keys

lemma keysInv_init : KeysInv macRolesInit :=
  ⟨tableOK_init, SoleOwner.empty (fun _ => rfl) nofun, nofun, nofun⟩

/-- The valid entries of the security CAM and the valid key slots of the roles correspond. -/
structure SecCamAgrees (s : MacRoles) : Prop where
  slot : ∀ r ∈ s.table, ∀ k, (r.info.aInfo.secEnt k).valid = true →
    ∃ t, s.secCam = some t ∧ (r.info.aInfo.secEnt k).idx < secCamEntryNum ∧
      (t.secCamEntry (r.info.aInfo.secEnt k).idx).valid = true ∧
      (t.secCamEntry (r.info.aInfo.secEnt k).idx).macId = r.macid ∧
      (t.secCamEntry (r.info.aInfo.secEnt k).idx).keyId = (r.info.aInfo.secEnt k).keyid
  unique : ∀ r ∈ s.table, ∀ r' ∈ s.table, ∀ k k', (r.info.aInfo.secEnt k).valid = true →
    (r'.info.aInfo.secEnt k').valid = true →
    (r.info.aInfo.secEnt k).idx = (r'.info.aInfo.secEnt k').idx → r = r' ∧ k = k'
  entry : ∀ t, s.secCam = some t → ∀ i, (t.secCamEntry i).valid = true →
    ∃ r ∈ s.table, r.macid = (t.secCamEntry i).macId ∧
      ∃ k, (r.info.aInfo.secEnt k).valid = true ∧ (r.info.aInfo.secEnt k).idx = i

lemma KeysInv.secCamAgrees (h : KeysInv s) : SecCamAgrees s := by
  have hget : ∀ r ∈ s.table, s.keySlots r.macid = some r.info.aInfo.secEnt :=
    fun r hr => keySlots_of_srch (h.table.distinct.get_of_mem hr)
  have hslot : ∀ r ∈ s.table, ∀ k, (r.info.aInfo.secEnt k).valid = true →
      slotEntry s.keySlots (r.macid, k) = some (r.info.aInfo.secEnt k).idx :=
    fun r hr k hk => slotEntry_eq_some.2 ⟨_, hget r hr, hk, rfl⟩
  refine ⟨fun r hr k hk => ?_, fun r hr r' hr' k k' hk hk' heq => ?_, fun t ht i hi => ?_⟩
  · have hmem := h.keys.owned.mem (hslot r hr k hk)
    have hentry := h.keys.entry k (hget r hr) hk
    obtain ⟨t, ht, hvalid⟩ := mem_validEntries.1 hmem
    rw [ht] at hentry
    exact ⟨t, ht, h.keys.lt _ hmem, hvalid, hentry⟩
  · have hown := h.keys.owned.owner _ _ _ (hslot r hr k hk) (heq ▸ hslot r' hr' k' hk')
    obtain ⟨hm, rfl⟩ := Prod.mk.inj hown
    exact ⟨h.table.distinct.eq_of_key hr hr' hm, rfl⟩
  · obtain ⟨⟨m, k⟩, hmk⟩ := (h.keys.owned.held_iff i).1 (mem_validEntries.2 ⟨t, ht, hi⟩)
    obtain ⟨e, he, hk, rfl⟩ := slotEntry_eq_some.1 hmk
    obtain ⟨r, hr, rfl⟩ := map_eq_some_iff.1 he
    refine ⟨r, mem_of_get hr, ?_, k, hk, rfl⟩
    have hentry := h.keys.entry k he hk
    rw [ht] at hentry
    exact (key_of_get hr).trans hentry.1.symm

theorem sec_cam_run (evs : List MacRoleEv) (hok : Run.RunOK macRoleStep KeysOK macRolesInit evs) :
    SecCamAgrees (Run.run macRoleStep macRolesInit evs) :=
  (Run.run_inv macRoleStep KeysOK (fun _ ev h hok => keysInv_step ev h hok) evs _ keysInv_init
    hok).secCamAgrees

/-- A key of an AP is added and deleted, and the AP is removed. -/
theorem sec_cam_ap : SecCamAgrees (Run.run macRoleStep macRolesInit
      [.add macRoleEnvOk (apRoleInfo 0 fun _ => 0), .addKey macRoleEnvOk 0 none 0 0 .uni,
        .delKey macRoleEnvOk 0 0 .uni, .remove macRoleEnvOk 0]) := by
  refine sec_cam_run _ ⟨macRoleEnvOk_ok, ⟨macRoleEnvOk_ok, rfl, fun r hr hreach => ?_⟩,
    ⟨macRoleEnvOk_ok, fun r hr hreach => ?_⟩, ⟨macRoleEnvOk_ok, by decide⟩, trivial⟩
  · clear hreach
    revert r hr
    decide
  · clear hreach
    revert r hr
    decide

/-- An AP is removed with a key, and the entry of the key stays valid. -/
theorem sec_cam_fails : ¬ SecCamAgrees (Run.run macRoleStep macRolesInit
      [.add macRoleEnvOk (apRoleInfo 0 fun _ => 0), .addKey macRoleEnvOk 0 none 0 0 .uni,
        .remove macRoleEnvOk 0]) := by
  intro h
  obtain ⟨r, hr, -⟩ := h.entry _ rfl 0 (by decide)
  have hlen := length_pos_of_mem hr
  exact absurd hlen (by decide)

section Atomic

variable {encType keyId : ℕ} {forced : Option ℕ} {keyType : SecCamKeyType} {role : MacRole}

/-- A call that fails leaves the keys as they were. -/
@[local simp] def KeysAtomic (s : MacRoles) (res : MacStatus × MacRoles) : Prop :=
  res.1 ≠ .success → SameKeys s res.2

/-- A key slot is written, and then `mac_upd_addr_cam` finds no BSSID entry or the entry of the key
is not sent. -/
def SlotFails (env : MacRoleEnv) (role : MacRole) (k : Fin 7) (e : SecEnt) (s : MacRoles) : Prop :=
  ((s.setSecEnt role k e).updKeys env role.macid).1 ≠ .success ∨ env.secUpd ≠ .success

/-- Or there is no slot for the key, and the choice of an index has moved `next_cam_storage_idx`. -/
@[local simp] def AddKeyDirty (env : MacRoleEnv) (encType : ℕ) (forced : Option ℕ) (macid keyId : ℕ)
    (keyType : SecCamKeyType) (s : MacRoles) : Prop :=
  encType ≤ hwSupportEncTypeNum ∧ ∃ role, macRoleSrch s.table macid = some role ∧
    ∃ i secCam, chosenIndex env forced s = (.success, i, secCam) ∧
      ((∃ k, InsertSlot role.info.aInfo keyType k ∧
          SlotFails env role k ⟨true, keyId, i⟩ { s with secCam := secCam }) ∨
        (∀ k, ¬ InsertSlot role.info.aInfo keyType k) ∧ forced = none ∧
          ∀ t ∈ s.secCam, t.nextCamStorageIdx ≠ (i + 1) % secCamEntryNum)

/-- The slot of the key is cleared, and then a write to a CAM fails. -/
def DelKeyDirty (env : MacRoleEnv) (macid keyId : ℕ) (keyType : SecCamKeyType) (s : MacRoles) :
    Prop :=
  ∃ role, macRoleSrch s.table macid = some role ∧
    ∃ k, DeleteSlot role.info.aInfo keyType keyId k ∧ SlotFails env role k secEntClear s

lemma not_sameKeys {e : SecEnt} {secCam : Option SecCamTable} {st : MacStatus}
    (hrole : macRoleSrch s.table macid = some role)
    (hupd : (({ s with secCam := secCam } : MacRoles).setSecEnt role k e).updKeys env role.macid
      = (st, s')) (he : e.valid ≠ (role.info.aInfo.secEnt k).valid) : ¬ SameKeys s s' := by
  intro h
  obtain ⟨hslots, -⟩ := setSecEnt_updKeys hupd hrole
  have hself := congrFun (hslots.symm.trans h.slots) macid
  rw [update_self, keySlots_of_srch hrole] at hself
  have hk := congrFun (some.inj hself) k
  rw [update_self] at hk
  exact he (congrArg SecEnt.valid hk)

lemma chosenIndex_failed (h : (chosenIndex env forced s).1 ≠ .success) :
    (chosenIndex env forced s).2.2 = s.secCam := by
  cases forced with
  | some => rfl
  | none =>
    rcases decideSecCamIndex_cases env s.secCam with ⟨-, hsame⟩ | ⟨_, -, -, hidx⟩
    · exact hsame
    · exact absurd (congrArg Prod.fst hidx) h

lemma chosenIndex_moves {secCam : Option SecCamTable}
    (h : chosenIndex env forced s = (.success, i, secCam)) : secCam = s.secCam ↔
      (forced = none → ∃ t ∈ s.secCam, t.nextCamStorageIdx = (i + 1) % secCamEntryNum) := by
  cases forced with
  | some j =>
    cases h
    simp
  | none =>
    obtain ⟨-, -, rfl⟩ := decideSecCamIndex_success h
    rcases s.secCam with _ | ⟨entry, next⟩
    · simp
    · simp [secEntries, eq_comm]

lemma InsertSlot.unique {k' : Fin 7} (hk : InsertSlot role.info.aInfo keyType k)
    (hk' : InsertSlot role.info.aInfo keyType k') : k' = k := by
  obtain ⟨keyIndex, hindex, hfind, -⟩ := hk
  obtain ⟨keyIndex', hindex', hfind', -⟩ := hk'
  cases hindex.symm.trans hindex'
  exact some.inj (hfind'.symm.trans hfind)

lemma addKey_atomic_iff : KeysAtomic s (macStaAddKey env encType forced macid keyId keyType s) ↔
    ¬ AddKeyDirty env encType forced macid keyId keyType s := by
  have hrefl : SameKeys s s := ⟨rfl, rfl⟩
  by_cases henc : hwSupportEncTypeNum < encType
  · simp [macStaAddKey, ← Nat.not_lt, henc, hrefl]
  rcases hrole : macRoleSrch s.table macid with _ | role
  · simp [macStaAddKey, henc, hrole, hrefl]
  have hfailed := @chosenIndex_failed s env forced
  rcases hidx : chosenIndex env forced s with ⟨st, i, secCam⟩
  have hsame : SameKeys s { s with secCam := secCam } ↔ secCam = s.secCam :=
    ⟨fun h => h.secCam, fun h => ⟨rfl, h⟩⟩
  have hidx' := hidx
  unfold chosenIndex at hidx'
  simp [macStaAddKey, ← Nat.not_lt, henc, hrole, hidx, hidx']
  by_cases hst : st = .success
  · subst hst
    by_cases hslot : ∃ k, InsertSlot role.info.aInfo keyType k
    · obtain ⟨k, hk⟩ := hslot
      have hfree := hk.not_valid
      have hunique k' : InsertSlot role.info.aInfo keyType k' ↔ k' = k :=
        ⟨hk.unique, fun h => h ▸ hk⟩
      obtain ⟨keyIndex, hindex, hfind, hcheck⟩ := hk
      rcases hupd : (({ s with secCam := secCam } : MacRoles).setSecEnt role k
        ⟨true, keyId, i⟩).updKeys env role.macid with ⟨st, s₁⟩
      have hkeys := not_sameKeys hrole hupd (by simp [hfree])
      simp only [insertKeyToAddrCam, hindex, hfind, hcheck, hupd, SlotFails]
      by_cases hsec : env.secUpd = .success <;> cases st <;> simp [hunique, hupd, hsec, hkeys]
    · have hmove := insertKeyToAddrCam_move env role keyType keyId i { s with secCam := secCam }
      simp only
      generalize insertKeyToAddrCam env role keyType keyId i _ = res at hmove ⊢
      rw [chosenIndex_moves hidx] at hsame
      cases hmove with
      | @refused st hst' => cases st <;> simp_all
      | moved k hk => exact absurd ⟨k, hk⟩ hslot
  · cases st <;> simp_all

lemma delKey_atomic_iff : KeysAtomic s (macStaDelKey env macid keyId keyType s) ↔
    ¬ DelKeyDirty env macid keyId keyType s := by
  constructor
  · rintro hatom ⟨role, hrole, k, hk, hfail⟩
    obtain ⟨keyIndex, hindex, hfind, hcheck⟩ := id hk
    rcases hupd : (s.setSecEnt role k secEntClear).updKeys env role.macid with ⟨st, s₁⟩
    have hkeys := @not_sameKeys s _ _ _ _ _ _ s.secCam _ hrole hupd
      (by simp [hk.valid, secEntClear])
    simp only [KeysAtomic, macStaDelKey, hrole, deleteKeyFromAddrCam, hindex, hfind, hcheck,
      hupd] at hatom
    simp only [SlotFails, hupd] at hfail
    cases st <;> simp_all
  · intro hclean hst
    have hmove := macStaDelKey_move env macid keyId keyType s
    generalize macStaDelKey env macid keyId keyType s = res at hmove hst ⊢
    cases hmove with
    | refused => exact ⟨rfl, rfl⟩
    | failed hrole hk hupd hfail =>
      exact absurd ⟨_, hrole, _, hk, by rwa [SlotFails, hupd]⟩ hclean
    | deleted => exact absurd rfl hst

theorem key_atomic_iff (env : MacRoleEnv) (encType : ℕ) (forced : Option ℕ) (macid keyId : ℕ)
    (keyType : SecCamKeyType) (s : MacRoles) :
    (KeysAtomic s (macStaAddKey env encType forced macid keyId keyType s) ↔
      ¬ AddKeyDirty env encType forced macid keyId keyType s) ∧
    (KeysAtomic s (macStaDelKey env macid keyId keyType s) ↔
      ¬ DelKeyDirty env macid keyId keyType s) ∧
    (KeyInv s.keySlots s.secCam → ∀ env i secCam, decideSecCamIndex env s.secCam =
      (.success, i, secCam) → ∀ p, slotEntry s.keySlots p ≠ some i) := by
  refine ⟨addKey_atomic_iff, delKey_atomic_iff, fun hinv env i secCam hidx p hp => ?_⟩
  obtain ⟨e, hm, hk, hi⟩ := slotEntry_eq_some.1 hp
  exact hinv.idx_ne hm hk (decideSecCamIndex_success hidx).2.1 hi

/-- The entry of a first key is not sent. The call fails, and its slot names an entry that is
free. -/
theorem key_atomic_fails :
    let s := (macAddRole macRoleEnvOk (apRoleInfo 0 fun _ => 0) macRolesInit).2
    let res := macStaAddKey { macRoleEnvOk with secUpd := .nobuf } 0 none 0 0 .uni s
    ¬ KeysAtomic s res ∧ slotEntry res.2.keySlots (0, 0) = some 0 ∧
      (res.2.secCam.map fun t => (t.secCamEntry 0).valid) = some false := by
  refine ⟨fun h => ?_, by decide, by decide⟩
  have hcam := congrArg isSome (h (by decide)).secCam
  revert hcam
  decide

end Atomic

section Wiped

variable {t : SecCamHal} {op : SecCamOp} {K : Set SecCamInfo}

@[local simp] def SecCamOp.Uses (K : Set SecCamInfo) : SecCamOp → Prop
  | .normal _ _ _ _ info => ∀ x ∈ info, x ∈ K
  | .clear _ => True

/-- An entry a key was stored in is all zero when it is not valid. -/
def Wipes (K : Set SecCamInfo) : Prop :=
  ∀ (t : SecCamHal) (ops : List SecCamOp) (i macId keyId keyType : ℕ) (info : Option SecCamInfo),
    (∀ op ∈ ops, op.Uses K) → .normal i macId keyId keyType info ∈ ops →
    ((Run.run mSecurityCamHal t ops).table.secCamEntry i).valid = false →
    (Run.run mSecurityCamHal t ops).info i = ⟨0, 0, 0, fun _ => 0⟩

structure WipeInv (i : ℕ) (t : SecCamHal) : Prop where
  word : (t.info i).key 3 = 0
  wiped : (t.table.secCamEntry i).valid = false → t.info i = ⟨0, 0, 0, fun _ => 0⟩

lemma wipeInv_normal (hK : ∀ info ∈ K, info.key 3 = 0) {macId keyId keyType : ℕ}
    {info : Option SecCamInfo} (hop : (SecCamOp.normal i macId keyId keyType info).Uses K) :
    WipeInv i (mSecurityCamHal t (.normal i macId keyId keyType info)) := by
  have hkey : (info.getD ⟨0, 0, 0, fun _ => 0⟩).key 3 = 0 := by
    rcases info with _ | info
    · rfl
    · exact hK info (hop info rfl)
  constructor <;> simp [mSecurityCamHal, put, hkey]

lemma WipeInv.step (hK : ∀ info ∈ K, info.key 3 = 0) (hop : op.Uses K) (h : WipeInv i t) :
    WipeInv i (mSecurityCamHal t op) := by
  obtain ⟨hword, hwiped⟩ := h
  cases op with
  | normal idx =>
    by_cases hi : i = idx
    · subst hi
      exact wipeInv_normal hK hop
    · constructor <;> simp_all [mSecurityCamHal, put]
  | clear idx =>
    have hkey : (fun k : Fin 4 => if k.val < 3 then 0 else (t.info i).key k) = fun _ => 0 := by
      funext k
      split_ifs with hk
      · rfl
      · rwa [show k = 3 by omega]
    by_cases hi : i = idx <;> constructor <;> simp_all [mSecurityCamHal, clear]

theorem sec_cam_wiped_iff (K : Set SecCamInfo) : Wipes K ↔ ∀ info ∈ K, info.key 3 = 0 := by
  constructor
  · intro h info hinfo
    have hrun := h ⟨⟨fun _ => secCamEntryClear, 0⟩, fun _ => info⟩
      [.normal 0 0 0 0 info, .clear 0] 0 0 0 0 info (by simpa) (by simp) rfl
    exact congrArg (fun info => info.key 3) hrun
  · intro hK t ops i macId keyId keyType info hops hmem
    obtain ⟨ops₁, ops₂, rfl⟩ := append_of_mem hmem
    simp [Run.run]
    exact (Run.run_inv mSecurityCamHal (fun _ op => op.Uses K)
      (fun t op h hop => WipeInv.step hK hop h) ops₂ _ (wipeInv_normal hK (hops _ hmem))
      (Run.runOK_of_forall _ ops₂ _ fun op hop => hops op (by simp [hop]))).wiped

/-- Calls of `m_security_cam_hal`, those that store a key with `key`, make the entries of `t` to
those of `t'`. -/
def SecCamCalls (key : SecCamInfo) (t t' : Option SecCamTable) : Prop :=
  ∃ ops : List SecCamOp, (∀ op ∈ ops, op.Uses {key}) ∧ ∀ hal : SecCamHal,
    hal.table.secCamEntry = secEntries t →
      (Run.run mSecurityCamHal hal ops).table.secCamEntry = secEntries t'

section Calls

variable {t t' t'' : Option SecCamTable} {key : SecCamInfo}

lemma secCamCalls_of_eq (h : secEntries t' = secEntries t) : SecCamCalls key t t' :=
  ⟨[], by simp, fun _ hal => hal.trans h.symm⟩

lemma SecCamCalls.trans (h : SecCamCalls key t t') (h' : SecCamCalls key t' t'') :
    SecCamCalls key t t'' := by
  obtain ⟨ops, huses, hrun⟩ := h
  obtain ⟨ops', huses', hrun'⟩ := h'
  refine ⟨ops ++ ops', fun op hop => (mem_append.1 hop).elim (huses op) (huses' op),
    fun hal heq => ?_⟩
  rw [Run.run, foldl_append]
  exact hrun' _ (hrun hal heq)

lemma secCamCalls_clear (tbl : SecCamTable) (i : ℕ) :
    SecCamCalls key (some tbl) (some (tbl.clear i)) :=
  ⟨[.clear i], by simp, fun hal heq => congrArg (fun e => update e i _) heq⟩

lemma secCamCalls_put (tbl : SecCamTable) (i macId keyId keyType : ℕ) :
    SecCamCalls key (some tbl) (some (tbl.put i ⟨true, macId, keyId, keyType⟩)) :=
  ⟨[.normal i macId keyId keyType key], by simp,
    fun hal heq => congrArg (fun e => update e i _) heq⟩

lemma secCamCalls_disconnectFlushKey (aInfo : AddrCamInfo) (tbl : SecCamTable) :
    SecCamCalls key (some tbl) (some (disconnectFlushKey aInfo tbl)) := by
  unfold disconnectFlushKey
  generalize finRange 7 = slots
  induction slots generalizing tbl with
  | nil => exact secCamCalls_of_eq rfl
  | cons k slots ih =>
    rw [foldl_cons]
    refine SecCamCalls.trans ?_ (ih _)
    split_ifs
    · exact secCamCalls_clear tbl _
    · exact secCamCalls_of_eq rfl

lemma secCamCalls_macStaAddKey (env : MacRoleEnv) (encType : ℕ) (forced : Option ℕ)
    (macid keyId : ℕ) (keyType : SecCamKeyType) (s : MacRoles) :
    SecCamCalls key s.secCam (macStaAddKey env encType forced macid keyId keyType s).2.secCam := by
  have hchosen := secEntries_chosenIndex env forced s
  have hmove := macStaAddKey_move env encType forced macid keyId keyType s
  generalize macStaAddKey env encType forced macid keyId keyType s = res at hmove
  cases hmove with
  | @refused st secCam hst hcam =>
    rcases hcam with rfl | rfl
    · exact secCamCalls_of_eq rfl
    · exact secCamCalls_of_eq hchosen
  | @failed role k i secCam st st' s₁ hrole hreach hidx hk hupd hst =>
    rw [hidx] at hchosen
    rw [(setSecEnt_updKeys hupd hrole).2.1]
    exact secCamCalls_of_eq hchosen
  | @added role k i secCam s₁ hrole hreach hidx hk hupd =>
    rw [hidx] at hchosen
    refine (secCamCalls_of_eq hchosen).trans ?_
    rw [(setSecEnt_updKeys hupd hrole).2.1]
    rcases secCam with _ | tbl
    · exact secCamCalls_of_eq rfl
    · exact secCamCalls_put tbl i macid keyId keyType.code

lemma secCamCalls_macStaDelKey (env : MacRoleEnv) (macid keyId : ℕ) (keyType : SecCamKeyType)
    (s : MacRoles) :
    SecCamCalls key s.secCam (macStaDelKey env macid keyId keyType s).2.secCam := by
  have hmove := macStaDelKey_move env macid keyId keyType s
  generalize macStaDelKey env macid keyId keyType s = res at hmove ⊢
  cases hmove with
  | refused => exact secCamCalls_of_eq rfl
  | failed hrole hk hupd hst =>
    rw [(setSecEnt_updKeys hupd hrole).2.1]
    exact secCamCalls_of_eq rfl
  | deleted hrole hk hupd =>
    simp only [(setSecEnt_updKeys hupd hrole).2.1]
    rcases s.secCam with _ | tbl
    · exact secCamCalls_of_eq rfl
    · exact secCamCalls_clear tbl _

end Calls

def secCamKeyOnes : SecCamInfo := ⟨0, 0, 0, fun _ => 1⟩

/-- The key is added and deleted, and its last word stays. -/
theorem sec_cam_not_wiped : ¬ Wipes {secCamKeyOnes} := by
  intro h
  have hrun := h ⟨⟨fun _ => secCamEntryClear, 0⟩, fun _ => secCamKeyOnes⟩
    [.normal 0 0 0 0 secCamKeyOnes, .clear 0] 0 0 0 0 secCamKeyOnes
    (by simp) (by simp) rfl
  exact absurd (congrArg (fun info => info.key 3) hrun) (by decide)

end Wiped
end Rtl8852be

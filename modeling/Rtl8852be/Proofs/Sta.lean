import Rtl8852be.Sta
import Rtl8852be.Lib.Places

/-!
# The station tables agree

The table of stations and the maps say what the queues and the stations say. Allocating adds an
entry to this relation and releasing takes one away; the broadcast map is left alone when the
address of a broadcast station has been overwritten.
-/

namespace Rtl8852be

open Run Places Function StaCtl List BitMap Option

variable {roles : ℕ} {wrole : Fin roles → WifiRole} {maxNum num : ℕ} {s s' : StaCtl roles}
  {i j mid : ℕ} {r : Fin roles}

variable {io : StaIo} {role : WifiRole}

def StaCtl.queue (s : StaCtl roles) : Option (Fin roles) → CntQueue ℕ
  | none => s.freeStaQueue
  | some r => s.assocStaQueue r

/-- The station is one of the role, with this macid. -/
def StaCtl.Has (s : StaCtl roles) (r : Fin roles) (i mid : ℕ) : Prop :=
  i ∈ (s.assocStaQueue r).items ∧ (s.stainfo i).macid = mid

/-- Each station is in one queue, and the macids and their maps fit together. -/
structure StaTables (maxNum num : ℕ) (s : StaCtl roles) : Prop where
  once : ∀ i < num, ∃! q, i ∈ (s.queue q).items
  nodup : ∀ q, (s.queue q).items.Nodup
  counted : ∀ q, (s.queue q).cnt = (s.queue q).items.length
  macid : ∀ r i mid, s.Has r i mid → mid < maxNum ∧ s.sta mid = some i
  distinct : ∀ r r' i i' mid, s.Has r i mid → s.Has r' i' mid → i = i'
  used : ∀ mid, test s.usedMap mid = true ↔ ∃ r, test (s.wifiRoleUsedmap r) mid = true
  disjoint : ∀ mid r r', test (s.wifiRoleUsedmap r) mid = true →
    test (s.wifiRoleUsedmap r') mid = true → r = r'
  bmc : ∀ mid, test s.bmcMap mid = true ↔ ∃ r i, s.Has r i mid ∧ s.allocBmc i = true

structure Represents (has : Fin roles → ℕ → ℕ → Prop) (bmc : ℕ → Prop) (s : StaCtl roles) :
    Prop where
  sta : ∀ mid i, s.sta mid = some i ↔ ∃ r, has r i mid
  role : ∀ r mid, test (s.wifiRoleUsedmap r) mid = true ↔ ∃ i, has r i mid
  used : ∀ mid, test s.usedMap mid = true ↔ ∃ r i, has r i mid
  bmc : ∀ mid, test s.bmcMap mid = true ↔ ∃ r i, has r i mid ∧ bmc i

variable {has has' : Fin roles → ℕ → ℕ → Prop} {bmc bmc' : ℕ → Prop}

section

variable (h : Represents has bmc s)
include h

lemma Represents.congr (hhas : ∀ r i mid, has' r i mid ↔ has r i mid)
    (hbmc : ∀ r i mid, has r i mid → (bmc' i ↔ bmc i)) : Represents has' bmc' s where
  sta := by simpa only [hhas] using h.sta
  role := by simpa only [hhas] using h.role
  used := by simpa only [hhas] using h.used
  bmc := by
    intro mid
    rw [h.bmc mid]
    refine exists_congr fun r => exists_congr fun i => ?_
    rw [hhas]
    exact and_congr_right fun hi => (hbmc r i mid hi).symm

lemma Represents.unique (hi : has r i mid) {r' : Fin roles} (hj : has r' j mid) : i = j := by
  have hi' := (h.sta mid i).2 ⟨r, hi⟩
  rw [(h.sta mid j).2 ⟨r', hj⟩] at hi'
  exact (some.inj hi').symm

lemma Represents.setMacid (hnew : ∀ r' m, ¬ has r' i m) (hunused : test s.usedMap mid = false) :
    Represents (fun r' j m => has r' j m ∨ (r' = r ∧ j = i ∧ m = mid))
      (fun j => if j = i then (s.stainfo i).macAddr = bcAddr else bmc j) (s.setMacid r i mid) where
  sta := by
    intro m j
    have hnone : ∀ r' j, ¬ has r' j mid := fun r' j hj => by
      simp [(h.used mid).2 ⟨r', j, hj⟩] at hunused
    simp only [StaCtl.setMacid]
    by_cases hm : m = mid
    · subst hm
      simp [hnone, eq_comm]
    · simp [hm, h.sta m j]
  role := by
    intro r' m
    simp only [StaCtl.setMacid]
    by_cases hr : r' = r
    · subst hr
      simp [test_set_iff, h.role, exists_or]
      simp [or_comm]
    · simp [hr, h.role r' m]
  used := by
    intro m
    simp only [StaCtl.setMacid, test_set_iff, h.used, exists_or]
    simp [or_comm]
  bmc := by
    intro m
    have hnew' : (∃ r' j, (has r' j m ∨ (r' = r ∧ j = i ∧ m = mid)) ∧
        (if j = i then (s.stainfo i).macAddr = bcAddr else bmc j)) ↔
        test s.bmcMap m = true ∨ (m = mid ∧ (s.stainfo i).macAddr = bcAddr) := by
      rw [h.bmc m]
      constructor
      · rintro ⟨r', j, hj | ⟨rfl, rfl, rfl⟩, hb⟩
        · have hji : j ≠ i := fun he => hnew r' m (he ▸ hj)
          exact .inl ⟨r', j, hj, by simpa [hji] using hb⟩
        · exact .inr ⟨rfl, by simpa using hb⟩
      · rintro (⟨r', j, hj, hb⟩ | ⟨rfl, hb⟩)
        · have hji : j ≠ i := fun he => hnew r' m (he ▸ hj)
          exact ⟨r', j, .inl hj, by simpa [hji] using hb⟩
        · exact ⟨r, i, .inr ⟨rfl, rfl, rfl⟩, by simpa using hb⟩
    rw [hnew']
    by_cases hb : (s.stainfo i).macAddr = bcAddr <;> simp [StaCtl.setMacid, hb, or_comm]

lemma Represents.clrMacid (hi : has r i (s.stainfo i).macid)
    (hrole : ∀ r', has r' i (s.stainfo i).macid → r' = r)
    (hbmc : bmc i → (s.stainfo i).macAddr = bcAddr) :
    Represents (fun r' j m => has r' j m ∧ m ≠ (s.stainfo i).macid) bmc (s.clrMacid r i) where
  sta := by
    intro m j
    simp only [StaCtl.clrMacid]
    by_cases hm : m = (s.stainfo i).macid
    · subst hm
      simp
    · simp [hm, h.sta m j]
  role := by
    intro r' m
    simp only [StaCtl.clrMacid]
    by_cases hr : r' = r
    · subst hr
      simp [h.role, and_comm]
    · rw [update_of_ne hr, h.role]
      refine exists_congr fun j => (and_iff_left_of_imp ?_).symm
      rintro hj rfl
      obtain rfl := h.unique hj hi
      exact hr (hrole r' hj)
  used := by
    intro m
    simp [h.used, and_comm]
  bmc := by
    intro m
    have hcut : (∃ r' j, (has r' j m ∧ m ≠ (s.stainfo i).macid) ∧ bmc j) ↔
        test s.bmcMap m = true ∧ m ≠ (s.stainfo i).macid := by
      rw [h.bmc m]
      constructor
      · rintro ⟨r', j, ⟨hj, hm⟩, hb⟩
        exact ⟨⟨r', j, hj, hb⟩, hm⟩
      · rintro ⟨⟨r', j, hj, hb⟩, hm⟩
        exact ⟨r', j, ⟨hj, hm⟩, hb⟩
    rw [hcut]
    simp only [StaCtl.clrMacid]
    split_ifs with hb
    · simp [and_comm]
    refine (and_iff_left_of_imp ?_).symm
    rintro htest rfl
    obtain ⟨r', j, hj, hbj⟩ := (h.bmc _).1 htest
    obtain rfl := h.unique hj hi
    exact hb (hbmc hbj)

lemma Represents.of_eq (hsta : s'.sta = s.sta)
    (hrole : s'.wifiRoleUsedmap = s.wifiRoleUsedmap) (hused : s'.usedMap = s.usedMap)
    (hbmc : s'.bmcMap = s.bmcMap) : Represents has bmc s' :=
  ⟨hsta ▸ h.sta, hrole ▸ h.role, hused ▸ h.used, hbmc ▸ h.bmc⟩

end

/-- A client's role has one station, whose address is not the one it was allocated with. -/
def WifiRole.IsClient (role : WifiRole) : Prop := role.type = .station ∨ role.type = .p2pGc

structure StaInv (wrole : Fin roles → WifiRole) (maxNum num : ℕ) (s : StaCtl roles) : Prop where
  placed : Placed (· < num) s.queue
  role : ∀ r, ∀ i ∈ (s.assocStaQueue r).items, (s.stainfo i).wrole = some r
  macid : ∀ r, ∀ i ∈ (s.assocStaQueue r).items, (s.stainfo i).macid < maxNum
  tables : Represents s.Has (fun i => s.allocBmc i = true) s
  bmcAddr : ∀ r, ∀ i ∈ (s.assocStaQueue r).items, s.allocBmc i = true →
    (wrole r).IsClient ∨ (s.stainfo i).macAddr = bcAddr

section

variable (h : StaInv wrole maxNum num s)
include h

lemma StaInv.staTables : StaTables maxNum num s where
  once := fun i hi => h.placed.exists_unique hi
  nodup := h.placed.nodup
  counted := h.placed.counted
  macid := fun r i mid hi => ⟨hi.2 ▸ h.macid r i hi.1, (h.tables.sta mid i).2 ⟨r, hi⟩⟩
  distinct := fun r r' i i' mid hi hi' => h.tables.unique hi hi'
  used := fun mid => by simp only [h.tables.used, h.tables.role]
  disjoint := by
    intro mid r r' hr hr'
    obtain ⟨i, hi⟩ := (h.tables.role r mid).1 hr
    obtain ⟨j, hj⟩ := (h.tables.role r' mid).1 hr'
    obtain rfl := h.tables.unique hi hj
    exact some.inj ((h.role r i hi.1).symm.trans (h.role r' i hj.1))
  bmc := h.tables.bmc

lemma StaInv.not_assoc_of_free
    (hi : i ∈ s.freeStaQueue.items) (r : Fin roles) : i ∉ (s.assocStaQueue r).items := by
  intro hr
  have hq : (none : Option (Fin roles)) = some r := h.placed.unique hi hr
  cases hq

lemma StaInv.of_station (hplaced : Placed (· < num) s'.queue)
    (hrest : ∀ r j, j ≠ i → j ∈ (s'.assocStaQueue r).items → j ∈ (s.assocStaQueue r).items ∧
      s'.stainfo j = s.stainfo j ∧ s'.allocBmc j = s.allocBmc j)
    (hi : ∀ r, i ∈ (s'.assocStaQueue r).items → (s'.stainfo i).wrole = some r ∧
      (s'.stainfo i).macid < maxNum ∧
      (s'.allocBmc i = true → (wrole r).IsClient ∨ (s'.stainfo i).macAddr = bcAddr))
    (htables : Represents s'.Has (fun i => s'.allocBmc i = true) s') :
    StaInv wrole maxNum num s' where
  placed := hplaced
  role := by
    intro r j hj
    by_cases hji : j = i
    · exact hji ▸ (hi r (hji ▸ hj)).1
    · obtain ⟨hmem, hsta, -⟩ := hrest r j hji hj
      exact hsta ▸ h.role r j hmem
  macid := by
    intro r j hj
    by_cases hji : j = i
    · exact hji ▸ (hi r (hji ▸ hj)).2.1
    · obtain ⟨hmem, hsta, -⟩ := hrest r j hji hj
      exact hsta ▸ h.macid r j hmem
  tables := htables
  bmcAddr := by
    intro r j hj hb
    by_cases hji : j = i
    · subst hji
      exact (hi r hj).2.2 hb
    · obtain ⟨hmem, hsta, halloc⟩ := hrest r j hji hj
      exact hsta ▸ h.bmcAddr r j hmem (halloc ▸ hb)

lemma StaInv.setSta {x : PhlStainfo roles}
    (hx : ∀ r, i ∈ (s.assocStaQueue r).items → x.wrole = (s.stainfo i).wrole ∧
      x.macid = (s.stainfo i).macid ∧
      (s.allocBmc i = true → (wrole r).IsClient ∨ x.macAddr = bcAddr)) :
    StaInv wrole maxNum num (s.setSta i x) := by
  refine h.of_station h.placed
    (fun r j hji hj => ⟨hj, update_of_ne hji _ _, rfl⟩) (fun r hi => ?_) ?_
  · obtain ⟨hrole, hmacid, haddr⟩ := hx r hi
    simp [hrole, hmacid]
    exact ⟨h.role r i hi, h.macid r i hi, haddr⟩
  · refine (h.tables.congr (fun r j mid => ?_) fun _ _ _ _ => Iff.rfl).of_eq rfl rfl rfl rfl
    refine and_congr_right fun hj => ?_
    by_cases hji : j = i
    · subst hji
      simp [(hx r hj).2.1]
    · simp [hji]

end

lemma phlReleaseMacid_eq (hr : (s.stainfo i).wrole = some r) (hm : (s.stainfo i).macid < maxNum)
    (hu : test s.usedMap (s.stainfo i).macid = true) :
    phlReleaseMacid maxNum i s =
      (.success, (s.clrMacid r i).setSta i { s.stainfo i with macid := maxNum }) := by
  simp [phlReleaseMacid, hr, Nat.not_le.2 hm, hu]

lemma freed_frame (maxNum i : ℕ) (s : StaCtl roles) :
    (phlStainfoEnqueueFree i (phlFreeStainfoSw maxNum i s)).assocStaQueue = s.assocStaQueue ∧
      (phlStainfoEnqueueFree i (phlFreeStainfoSw maxNum i s)).allocBmc = s.allocBmc ∧
      ∀ j, j ≠ i →
        (phlStainfoEnqueueFree i (phlFreeStainfoSw maxNum i s)).stainfo j = s.stainfo j := by
  unfold phlFreeStainfoSw phlReleaseMacid
  repeat' split
  all_goals exact ⟨rfl, rfl, fun j hj => update_of_ne hj _ _⟩

lemma StaInv.release (h : StaInv wrole maxNum num s) (hi : i ∈ (s.assocStaQueue r).items)
    (hb : s.allocBmc i = true → (s.stainfo i).macAddr = bcAddr) :
    StaInv wrole maxNum num (phlStainfoEnqueueFree i
      (phlFreeStainfoSw maxNum i (s.setAssoc r ((s.assocStaQueue r).erase i)))) := by
  have hhas : s.Has r i (s.stainfo i).macid := ⟨hi, rfl⟩
  have hused : test s.usedMap (s.stainfo i).macid = true := (h.tables.used _).2 ⟨r, i, hhas⟩
  have hrel : phlReleaseMacid maxNum i (s.setAssoc r ((s.assocStaQueue r).erase i)) =
      (.success, ((s.setAssoc r ((s.assocStaQueue r).erase i)).clrMacid r i).setSta i
        { s.stainfo i with macid := maxNum }) :=
    phlReleaseMacid_eq (h.role r i hi) (h.macid r i hi) hused
  rw [phlFreeStainfoSw, hrel]
  set t := phlStainfoEnqueueFree i _
  have hmoved : Moved s.queue t.queue i (some r) none :=
    { source := update_self _ _ _
      target := perm_append_singleton i _
      counted := (h.placed.counted none).pushTail i
      others := fun q hq hq' => by
        cases q with
        | none => exact absurd rfl hq'
        | some r' => exact update_of_ne (fun he => hq (by rw [he])) _ _ }
  have hmem : ∀ r' j, j ∈ (t.assocStaQueue r').items ↔ j ≠ i ∧ j ∈ (s.assocStaQueue r').items :=
    fun r' j => by
      simpa [queue] using hmoved.mem_iff h.placed hi (by simp) (y := j) (j := some r')
  have hsta : ∀ j, j ≠ i → t.stainfo j = s.stainfo j := fun j hj => update_of_ne hj _ _
  refine h.of_station (h.placed.move hmoved hi (by simp))
    (fun r' j hji hj => ⟨((hmem r' j).1 hj).2, hsta j hji, rfl⟩)
    (fun r' hi' => absurd rfl ((hmem r' i).1 hi').1) ?_
  -- Nobody but `i` had its macid, so to lose the station is to lose the macid.
  have hclr := h.tables.clrMacid hhas
    (fun r' hr' => some.inj ((h.role r' i hr'.1).symm.trans (h.role r i hi))) hb
  refine (hclr.congr (fun r' j m => ?_) fun _ _ _ _ => Iff.rfl).of_eq rfl rfl rfl rfl
  constructor
  · rintro ⟨hj, hm⟩
    obtain ⟨hji, hj⟩ := (hmem r' j).1 hj
    rw [hsta j hji] at hm
    refine ⟨⟨hj, hm⟩, fun hmid => hji (h.tables.unique ⟨hj, hm.trans hmid⟩ hhas)⟩
  · rintro ⟨⟨hj, hm⟩, hmid⟩
    have hji : j ≠ i := fun he => hmid (by rw [← hm, he])
    exact ⟨(hmem r' j).2 ⟨hji, hj⟩, by rw [hsta j hji, hm]⟩

lemma phlSelfStainfoChk_client (hc : role.IsClient) (sta : PhlStainfo roles) :
    phlSelfStainfoChk role sta = (true, { sta with macAddr := role.macAddr }) := by
  rcases hc with hc | hc <;> simp [phlSelfStainfoChk, hc]

lemma phlSelfStainfoChk_other (hc : ¬ role.IsClient) (sta : PhlStainfo roles) :
    (phlSelfStainfoChk role sta).2 = sta := by
  unfold phlSelfStainfoChk
  split <;> simp_all [WifiRole.IsClient]

lemma phlSelfStainfoChk_fields (role : WifiRole) (sta : PhlStainfo roles) :
    (phlSelfStainfoChk role sta).2.wrole = sta.wrole ∧
      (phlSelfStainfoChk role sta).2.macid = sta.macid ∧
      (role.IsClient ∨ (phlSelfStainfoChk role sta).2.macAddr = sta.macAddr) := by
  by_cases hc : role.IsClient
  · simp [phlSelfStainfoChk_client hc, hc]
  · simp [phlSelfStainfoChk_other hc]

lemma StaCtl.setSta_self (s : StaCtl roles) (i : ℕ) : s.setSta i (s.stainfo i) = s := by
  simp

lemma phlKeepsSelf_cases (wrole : Fin roles → WifiRole) (r : Fin roles) (i : ℕ)
    (s : StaCtl roles) :
    (∃ addr, phlKeepsSelf wrole r i s = (true, s.setSta i { s.stainfo i with macAddr := addr }) ∧
      ((wrole r).IsClient ∨ addr = (s.stainfo i).macAddr)) ∨
    (phlKeepsSelf wrole r i s = (false, s) ∧
      ((s.stainfo i).macAddr = bcAddr ∨ ¬ (wrole r).IsClient)) := by
  unfold phlKeepsSelf
  split_ifs with hbc
  · exact .inr ⟨rfl, .inl hbc⟩
  by_cases hc : (wrole r).IsClient
  · exact .inl ⟨(wrole r).macAddr, by rw [phlSelfStainfoChk_client hc], .inl hc⟩
  simp only [phlSelfStainfoChk_other hc, s.setSta_self]
  cases (phlSelfStainfoChk (wrole r) (s.stainfo i)).1 with
  | true => exact .inl ⟨(s.stainfo i).macAddr, by rw [s.setSta_self], .inr rfl⟩
  | false => exact .inr ⟨rfl, .inr hc⟩

section

variable (h : StaInv wrole maxNum num s)
include h

lemma StaInv.setAddr (hi : i ∈ (s.assocStaQueue r).items)
    {addr : MacAddr} (haddr : (wrole r).IsClient ∨ addr = (s.stainfo i).macAddr) :
    StaInv wrole maxNum num (s.setSta i { s.stainfo i with macAddr := addr }) := by
  refine h.setSta fun r' hi' => ⟨rfl, rfl, fun hb => ?_⟩
  obtain rfl : r' = r := some.inj ((h.role r' i hi').symm.trans (h.role r i hi))
  rcases haddr with hc | rfl
  · exact .inl hc
  · exact h.bmcAddr r' i hi hb

lemma StaInv.setActive (i : ℕ) (active : Bool) :
    StaInv wrole maxNum num (s.setSta i { s.stainfo i with active := active }) :=
  h.setSta fun r hi => ⟨rfl, rfl, h.bmcAddr r i hi⟩

lemma StaInv.queue_del (hi : i ∈ (s.assocStaQueue r).items) :
    phlStainfoQueueDel r i s = s.setAssoc r ((s.assocStaQueue r).erase i) := by
  have hcnt : (s.assocStaQueue r).cnt = (s.assocStaQueue r).items.length :=
    h.placed.counted (some r)
  have hpos := length_pos_of_mem hi
  exact if_neg (by omega)

lemma StaInv.free_sw (hi : i ∈ (s.assocStaQueue r).items) :
    StaInv wrole maxNum num (phlFreeStainfoSwChk wrole maxNum i s) := by
  simp only [phlFreeStainfoSwChk, h.role r i hi]
  rcases phlKeepsSelf_cases wrole r i s with ⟨addr, hkeep, haddr⟩ | ⟨hkeep, haddr⟩ <;> rw [hkeep]
  · exact h.setAddr hi haddr
  dsimp only
  rw [h.queue_del hi]
  refine h.release hi fun hb => ?_
  rcases haddr with haddr | hc
  · exact haddr
  · exact (h.bmcAddr r i hi hb).resolve_left hc

lemma StaInv.free (hi : i ∈ (s.assocStaQueue r).items) :
    StaInv wrole maxNum num (phlFreeStainfo wrole maxNum i s) := by
  have hhw : StaInv wrole maxNum num (phlFreeStainfoHwChk wrole i s) ∧
      i ∈ ((phlFreeStainfoHwChk wrole i s).assocStaQueue r).items := by
    simp only [phlFreeStainfoHwChk, h.role r i hi]
    rcases phlKeepsSelf_cases wrole r i s with ⟨addr, hkeep, haddr⟩ | ⟨hkeep, -⟩ <;> rw [hkeep]
    · exact ⟨h.setAddr hi haddr, hi⟩
    · exact ⟨h.setActive i false, hi⟩
  exact hhw.1.free_sw hhw.2

end

/-- The broadcast stations of a role's queue still have the broadcast address. -/
def BmcAddrKept (s : StaCtl roles) (r : Fin roles) : Prop :=
  ∀ i ∈ (s.assocStaQueue r).items,
    test s.bmcMap (s.stainfo i).macid = true → (s.stainfo i).macAddr = bcAddr

/-- The rule for the loop over a role's queue, of whose stations `D` holds. -/
lemma role_free_rule {P : StaCtl roles → Prop} {D : Bool → PhlStainfo roles → Prop}
    (r : Fin roles) (hnodup : ∀ {s}, P s → (s.assocStaQueue r).items.Nodup)
    (hP : ∀ {s i}, P s → i ∈ (s.assocStaQueue r).items → D (s.allocBmc i) (s.stainfo i) →
      P (phlStainfoEnqueueFree i (phlFreeStainfoSw maxNum i
        (phlFreeStainfoHw i (s.setAssoc r ((s.assocStaQueue r).erase i)))))) :
    ∀ (left : ℕ) {s : StaCtl roles}, P s →
      (∀ i ∈ (s.assocStaQueue r).items, D (s.allocBmc i) (s.stainfo i)) →
      P (phlWifiRoleFreeStainfoLoop maxNum r left s)
  | 0, _, h, _ => h
  | left + 1, s, h, hD => by
    rw [phlWifiRoleFreeStainfoLoop]
    split
    · exact h
    rename_i i rest hq
    have hi : i ∈ (s.assocStaQueue r).items := by simp [hq]
    rw [CntQueue.dropFirst_eq_erase hq]
    set s₁ := phlFreeStainfoHw i (s.setAssoc r ((s.assocStaQueue r).erase i)) with hs₁
    obtain ⟨hassoc, halloc, hsta⟩ := freed_frame maxNum i s₁
    refine role_free_rule r hnodup hP left (hP h hi (hD i hi)) fun j hj => ?_
    have hj' : j ∈ (s.assocStaQueue r).items.erase i := by
      rw [hassoc] at hj
      simpa [hs₁, phlFreeStainfoHw, setAssoc] using hj
    obtain ⟨hji, hj'⟩ := (hnodup h).mem_erase_iff.1 hj'
    have hkept : s₁.stainfo j = s.stainfo j := update_of_ne hji _ _
    rw [hsta j hji, hkept, halloc]
    exact hD j hj'

lemma StaInv.role_free (h : StaInv wrole maxNum num s) (hb : BmcAddrKept s r) :
    StaInv wrole maxNum num (phlWifiRoleFreeStainfo maxNum r s) :=
  role_free_rule (P := StaInv wrole maxNum num) (D := fun b x => b = true → x.macAddr = bcAddr) r
    (fun h => h.placed.nodup (some r))
    (fun {s i} h hi hbi => (h.setActive i false).release hi (by simpa using hbi))
    _ h fun i hi hbi => hb i hi ((h.tables.bmc _).2 ⟨r, i, ⟨hi, rfl⟩, hbi⟩)

lemma phlAllocMacid_cases (maxNum : ℕ) (hr : (s.stainfo i).wrole = some r) :
    phlAllocMacid maxNum i s = (.failure, s.setSta i { s.stainfo i with macid := maxNum }) ∨
    ∃ mid < maxNum, test s.usedMap mid = false ∧
      phlAllocMacid maxNum i s = (.success, s.setMacid r i mid) := by
  simp only [phlAllocMacid, hr]
  cases hfind : (range maxNum).find? fun mid => !test s.usedMap mid with
  | none => exact .inl rfl
  | some mid =>
    refine .inr ⟨mid, mem_range.1 (mem_of_find?_eq_some hfind), ?_, rfl⟩
    simpa using find?_some hfind

lemma StaInv.rotate (h : StaInv wrole maxNum num s) {rest : List ℕ}
    (hfree : s.freeStaQueue.items = i :: rest) :
    StaInv wrole maxNum num (s.setFree (s.freeStaQueue.dropFirst.pushTail i)) where
  placed := by
    refine h.placed.reorder (fun q => ?_) (fun q => ?_) <;> cases q
    · simp only [queue, setFree, CntQueue.pushTail_items, CntQueue.dropFirst_items, hfree,
        tail_cons]
      exact perm_append_singleton i rest
    · exact List.Perm.refl _
    · exact (h.placed.counted none).dropFirst.pushTail i
    · exact h.placed.counted (some _)
  role := h.role
  macid := h.macid
  tables := h.tables.of_eq rfl rfl rfl rfl
  bmcAddr := h.bmcAddr

section New

variable {rest : List ℕ} {addr : MacAddr}

lemma StaInv.not_has (h : StaInv wrole maxNum num s) (hfree : s.freeStaQueue.items = i :: rest)
    (r : Fin roles) (m : ℕ) : ¬ s.Has r i m :=
  fun hi => h.not_assoc_of_free (by simp [hfree]) r hi.1

lemma takeFree_setMacid (s : StaCtl roles) (r : Fin roles) (i mid : ℕ) (addr : MacAddr) :
    ((s.takeFree i addr r).setMacid r i mid).stainfo = update s.stainfo i
      { s.stainfo i with macAddr := addr, wrole := some r, macid := mid } := by
  simp [setMacid, takeFree]

section

variable (h : StaInv wrole maxNum num s) (hfree : s.freeStaQueue.items = i :: rest)
include h hfree

lemma StaInv.alloc_failed (x : PhlStainfo roles) :
    StaInv wrole maxNum num (phlStainfoEnqueueFree i ((s.takeFree i addr r).setSta i x)) := by
  have hset := (h.rotate hfree).setSta (i := i) (x := x) fun r' hi' =>
    absurd ⟨hi', rfl⟩ (h.not_has hfree r' _)
  simpa [phlStainfoEnqueueFree, StaCtl.takeFree] using hset

lemma StaInv.associate (hmid : mid < maxNum)
    (hunused : test s.usedMap mid = false) (x : PhlStainfo roles) (hr : x.wrole = some r)
    (hm : x.macid = mid) (haddr : (wrole r).IsClient ∨ x.macAddr = addr) :
    StaInv wrole maxNum num
      { (phlStainfoEnqueueAssoc r i ((s.takeFree i addr r).setMacid r i mid)).setSta i x with
        allocBmc := update s.allocBmc i (addr = bcAddr) } := by
  have hi : i ∈ s.freeStaQueue.items := by simp [hfree]
  have htake : Represents s.Has (fun i => s.allocBmc i = true) (s.takeFree i addr r) :=
    h.tables.of_eq rfl rfl rfl rfl
  have hset := htake.setMacid (r := r) (h.not_has hfree) hunused
  set t : StaCtl roles :=
    { (phlStainfoEnqueueAssoc r i ((s.takeFree i addr r).setMacid r i mid)).setSta i x with
      allocBmc := update s.allocBmc i (addr = bcAddr) } with ht
  have hq : t.queue (some r) = (s.assocStaQueue r).pushTail i := update_self _ _ _
  have hmoved : Moved s.queue t.queue i none (some r) :=
    { source := CntQueue.dropFirst_eq_erase hfree
      target := hq ▸ perm_append_singleton i _
      counted := hq ▸ (h.placed.counted (some r)).pushTail i
      others := fun q hq hq' => by
        cases q with
        | none => exact absurd rfl hq
        | some r' => exact update_of_ne (fun he => hq' (by rw [he])) _ _ }
  have hmem : ∀ r' j, j ∈ (t.assocStaQueue r').items ↔
      (j = i ∧ r' = r) ∨ (j ≠ i ∧ j ∈ (s.assocStaQueue r').items) := fun r' j => by
    simpa [queue] using hmoved.mem_iff h.placed hi (by simp) (y := j) (j := some r')
  have hsta : ∀ j, j ≠ i → t.stainfo j = s.stainfo j := fun j hji =>
    (update_of_ne hji _ _).trans (by
      rw [phlStainfoEnqueueAssoc, setAssoc, takeFree_setMacid, update_of_ne hji])
  have hti : t.stainfo i = x := update_self _ _ _
  refine h.of_station (i := i) (h.placed.move hmoved hi (by simp)) (fun r' j hji hj => ?_)
    (fun r' hi' => ?_) ?_
  · rcases (hmem r' j).1 hj with ⟨he, -⟩ | ⟨-, hj⟩
    · exact absurd he hji
    · exact ⟨hj, hsta j hji, update_of_ne hji _ _⟩
  · obtain rfl : r' = r := by simpa using (hmem r' i).1 hi'
    have hb : t.allocBmc i = decide (addr = bcAddr) := update_self _ _ _
    rw [hti, hb]
    refine ⟨hr, hm ▸ hmid, fun hbc => ?_⟩
    rw [decide_eq_true_eq] at hbc
    exact hbc ▸ haddr
  · refine (hset.congr (fun r' j m => ?_) fun r' j m _ => ?_).of_eq rfl rfl rfl rfl
    · by_cases hji : j = i
      · subst hji
        have hnot := h.not_assoc_of_free hi r'
        simp [StaCtl.Has, hmem, hti, hm, hnot, eq_comm]
      · simp [StaCtl.Has, hmem, hsta j hji, hji]
    · by_cases hji : j = i
      · subst hji
        simp [ht, StaCtl.takeFree]
      · simp [ht, hji]

end

end New

def StaInv.Allocated (wrole : Fin roles → WifiRole) (maxNum num : ℕ)
    (res : Option ℕ × StaCtl roles) : Prop :=
  StaInv wrole maxNum num res.2 ∧ ∀ i, res.1 = some i → ∃ r, i ∈ (res.2.assocStaQueue r).items

section

variable (h : StaInv wrole maxNum num s) (htx : io.txRing = true) (addr : MacAddr) (r : Fin roles)
include h htx

lemma StaInv.alloc_new :
    StaInv.Allocated wrole maxNum num (phlAllocStainfoNew wrole maxNum io addr r s) := by
  unfold phlAllocStainfoNew
  split
  · exact ⟨h, by simp⟩
  rename_i i rest hfree
  have hr : ((s.takeFree i addr r).stainfo i).wrole = some r := by
    simp [StaCtl.takeFree]
  rcases phlAllocMacid_cases maxNum hr with hmac | ⟨mid, hmid, hunused, hmac⟩
  · simp only [phlAllocStainfoSwMacid, hmac]
    exact ⟨h.alloc_failed hfree _, by simp⟩
  simp [phlAllocStainfoSwMacid, hmac, htx]
  obtain ⟨hrole, hmacid, haddr⟩ := phlSelfStainfoChk_fields (wrole r)
    ((phlStainfoEnqueueAssoc r i ((s.takeFree i addr r).setMacid r i mid)).stainfo i)
  have hi : (phlStainfoEnqueueAssoc r i ((s.takeFree i addr r).setMacid r i mid)).stainfo i =
      { s.stainfo i with macAddr := addr, wrole := some r, macid := mid } := by
    rw [phlStainfoEnqueueAssoc, setAssoc, takeFree_setMacid, update_self]
  rw [hi] at hrole hmacid haddr ⊢
  refine ⟨h.associate hfree hmid hunused _ hrole hmacid haddr, ?_⟩
  rintro _ ⟨⟩
  exact ⟨r, by simp [phlStainfoEnqueueAssoc, StaCtl.setAssoc]⟩

lemma StaInv.alloc_sw :
    StaInv.Allocated wrole maxNum num (phlAllocStainfoSw wrole maxNum io addr r s) := by
  unfold phlAllocStainfoSw
  split
  · rename_i i hself
    split_ifs at hself with hc
    have hi : i ∈ (s.assocStaQueue r).items := mem_of_mem_head? hself
    refine ⟨h.setAddr hi (.inl (.inl hc.1)), ?_⟩
    rintro _ ⟨⟩
    exact ⟨r, hi⟩
  · split
    · rename_i i hfound
      refine ⟨h, ?_⟩
      rintro _ ⟨⟩
      unfold rtwPhlGetStainfoByAddr at hfound
      split_ifs at hfound
      · obtain ⟨r', hi, -⟩ := (h.tables.sta _ _).1 hfound
        exact ⟨r', hi⟩
      · exact ⟨r, mem_of_find?_eq_some hfound⟩
    · exact h.alloc_new htx addr r

lemma StaInv.alloc : StaInv wrole maxNum num (phlAllocStainfo wrole maxNum io addr r s).2 := by
  obtain ⟨hsw, hassoc⟩ := h.alloc_sw htx addr r
  unfold phlAllocStainfo
  split
  · rename_i s' heq
    exact heq ▸ hsw
  rename_i i s' heq
  rw [heq] at hsw hassoc
  obtain ⟨r', hi⟩ := hassoc i rfl
  split_ifs
  · exact hsw
  · exact hsw.setActive i true
  · exact hsw.free_sw hi

end

/-- The rings can be registered, only associated stations are freed, and a role's stations together
only while its broadcast stations have the broadcast address. -/
def StaStepOK (s : StaCtl roles) : StaEvent roles → Prop
  | .allocSw io _ _ | .alloc io _ _ => io.txRing = true
  | .free i => ∃ r, i ∈ (s.assocStaQueue r).items
  | .roleFree r => BmcAddrKept s r

instance decidableStaStepOK (s : StaCtl roles) : ∀ e, Decidable (StaStepOK s e)
  | .allocSw io _ _ | .alloc io _ _ => inferInstanceAs (Decidable (io.txRing = true))
  | .free _ => inferInstanceAs (Decidable (∃ _, _))
  | .roleFree r =>
    inferInstanceAs (Decidable (∀ i ∈ (s.assocStaQueue r).items, _))

lemma StaInv.step (h : StaInv wrole maxNum num s) (e : StaEvent roles) (hok : StaStepOK s e) :
    StaInv wrole maxNum num (staStep wrole maxNum s e) := by
  cases e with
  | allocSw io addr r => exact (h.alloc_sw hok addr r).1
  | alloc io addr r => exact h.alloc hok addr r
  | free i =>
    obtain ⟨r, hi⟩ := hok
    exact h.free hi
  | roleFree r => exact h.role_free hok

lemma staInit_inv (wrole : Fin roles → WifiRole) (maxNum num : ℕ) :
    StaInv wrole maxNum num (staInit maxNum num) where
  placed :=
    { cover := fun i => by
        constructor
        · exact fun hi => ⟨none, mem_range.2 hi⟩
        · rintro ⟨_ | r, hi⟩
          · exact mem_range.1 hi
          · cases hi
      unique := by
        rintro i (_ | r) (_ | r') hi hi'
        · rfl
        · cases hi'
        · cases hi
        · cases hi
      nodup := by
        rintro (_ | r)
        · exact nodup_range
        · exact nodup_nil
      counted := by
        rintro (_ | r)
        · exact length_range.symm
        · rfl }
  role := by simp
  macid := by simp
  tables := by constructor <;> simp [Has]
  bmcAddr := by simp

/-- In every run in which only associated stations are freed, and no role's stations together while
a broadcast station among them has lost its address, the tables are right in every state. -/
theorem sta_tables_run (wrole : Fin roles → WifiRole) (maxNum num : ℕ) (es : List (StaEvent roles))
    (hok : RunOK (staStep wrole maxNum) StaStepOK (staInit maxNum num) es)
    (es' : List (StaEvent roles)) (hp : es' <+: es) :
    StaTables maxNum num (run (staStep wrole maxNum) (staInit maxNum num) es') := by
  have hinv := run_inv (staStep wrole maxNum) StaStepOK (P := StaInv wrole maxNum num)
    (fun s e h hok => h.step e hok) es' _ (staInit_inv wrole maxNum num) (hok.of_prefix hp)
  exact hinv.staTables

/-- The peer of the access point is freed, and then all stations of both roles. -/
def staSample : List (StaEvent 2) :=
  [.allocSw ⟨true, true⟩ bcAddr 0, .alloc ⟨true, true⟩ 7 0, .alloc ⟨true, true⟩ 9 1, .free 1,
    .roleFree 0, .roleFree 1]

def staSampleRoles (r : Fin 2) : WifiRole := if r = 0 then ⟨.ap, 5⟩ else ⟨.station, 6⟩

theorem sta_tables_sample : RunOK (staStep staSampleRoles 8) StaStepOK (staInit 8 4) staSample ∧
      StaTables 8 4 (run (staStep staSampleRoles 8) (staInit 8 4) staSample) :=
  ⟨by decide +kernel,
    sta_tables_run staSampleRoles 8 4 staSample (by decide +kernel) staSample (prefix_refl _)⟩

/-- When the role's stations are freed, the station's address is not broadcast any more. -/
theorem sta_tables_bmc_stale :
    ¬ StaTables 8 4 (run (staStep (fun _ : Fin 1 => ⟨.station, 6⟩) 8) (staInit 8 4)
      [.allocSw ⟨true, true⟩ bcAddr 0, .roleFree 0]) := by
  intro h
  obtain ⟨r, i, ⟨hi, -⟩, -⟩ := (h.bmc 0).1 (by decide +kernel)
  obtain rfl : r = 0 := Subsingleton.elim ..
  have hlen := length_pos_of_mem hi
  exact absurd hlen (by decide +kernel)

end Rtl8852be

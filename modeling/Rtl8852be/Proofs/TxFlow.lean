import Mathlib.Data.List.Induction
import Mathlib.Tactic.IntervalCases
import Rtl8852be.Lib.Blocks
import Rtl8852be.Proofs.TxRing

/-!
# The order of the transmit rings

The rings that have work, macid by macid and category by category, come out in blocks: management
and high traffic in front, then one block for each category of data, with the macids in order.
-/

namespace Rtl8852be

open Blocks Run List RingStatus

variable {ρ : Type*} {is : List (Fin maxPhlRingCatNum)} {sts : List RingStatus} {k : ℕ}

def RingStatus.cat (sts : RingStatus) : ℕ := sts.ring.2.val

def foundIn (alloc : RingId → Bool) (s : TxSys ρ) (macid : ℕ)
    (is : List (Fin maxPhlRingCatNum)) : List RingStatus :=
  is.filterMap fun i =>
    (phlCheckRingStatus (alloc (macid, i)) (s.info macid) (macid, i) (s.ring (macid, i))).1

def foundStatuses (alloc : RingId → Bool) (s : TxSys ρ) : List RingStatus :=
  s.macids.flatMap fun macid => foundIn alloc s macid (finRange maxPhlRingCatNum)

def sortRings (sts : List RingStatus) (plan : TxPlan) : TxPlan :=
  sts.foldl (fun plan r => phlSortRingByTid r plan r.ring.2) plan

lemma phlCheckRingStatus_ring {alloc : Bool} {info : TringInfo} {id : RingId}
    {r : TxRingLog ρ} {sts : RingStatus} (h : (phlCheckRingStatus alloc info id r).1 = some sts) :
    sts.ring = id := by
  unfold phlCheckRingStatus at h
  by_cases havail : phlCalcAvailRptr r.phlIdx r.coreIdx maxPhlRingEntryNum = 0
  · simp [havail] at h
  cases alloc with
  | false => simp [havail] at h
  | true =>
    simp [havail] at h
    rw [← h]

lemma foundIn_congr {alloc : RingId → Bool} {s s' : TxSys ρ} {macid : ℕ}
    (hinfo : s'.info = s.info) (hring : ∀ i ∈ is, s'.ring (macid, i) = s.ring (macid, i)) :
    foundIn alloc s' macid is = foundIn alloc s macid is := by
  refine filterMap_congr fun i hi => ?_
  rw [hinfo, hring i hi]

lemma checkCats_eq (alloc : RingId → Bool) (macid : ℕ) :
    ∀ (is : List (Fin maxPhlRingCatNum)) (plan : TxPlan) (s : TxSys ρ), is.Nodup →
      (checkCats alloc macid is plan s).1 = sortRings (foundIn alloc s macid is) plan
      ∧ (checkCats alloc macid is plan s).2.info = s.info
      ∧ ∀ id : RingId, id.1 ≠ macid → (checkCats alloc macid is plan s).2.ring id = s.ring id
  | [], plan, s, _ => ⟨rfl, rfl, fun _ _ => rfl⟩
  | i :: is, plan, s, hnd => by
    obtain ⟨hi, his⟩ := nodup_cons.1 hnd
    rw [checkCats, foundIn, filterMap_cons]
    split
    · rename_i heq
      rw [heq]
      exact checkCats_eq alloc macid is plan s his
    rename_i sts r heq
    rw [heq]
    have hcat : sts.ring.2 = i := by
      rw [phlCheckRingStatus_ring (by rw [heq])]
    obtain ⟨hplan, hinfo, hring⟩ := checkCats_eq alloc macid is (phlSortRingByTid sts plan i)
      (s.setRing (macid, i) r) his
    have hfound : foundIn alloc (s.setRing (macid, i) r) macid is = foundIn alloc s macid is := by
      refine foundIn_congr rfl fun j hj => setRing_of_ne s r ?_
      rintro he
      cases he
      exact hi hj
    refine ⟨?_, hinfo, fun id hid => ?_⟩
    · rw [hplan, hfound]
      simp [sortRings, hcat, foundIn]
    · rw [hring id hid]
      exact setRing_of_ne s r fun he => hid (by rw [he])

def planOf (alloc : RingId → Bool) (s : TxSys ρ) (macid : ℕ) : TxPlan :=
  sortRings (foundIn alloc s macid (finRange maxPhlRingCatNum)) emptyTxPlan

lemma checkTringLists_eq (alloc : RingId → Bool) :
    ∀ (macids : List ℕ) (staList : List TxPlan) (s : TxSys ρ), macids.Nodup →
      (checkTringLists alloc (fun _ => false) macids staList s).1
        = staList ++ (macids.map (planOf alloc s)).filter fun plan => !plan.sortedRing.isEmpty
  | [], staList, s, _ => by simp [checkTringLists]
  | macid :: macids, staList, s, hnd => by
    obtain ⟨hm, hms⟩ := nodup_cons.1 hnd
    obtain ⟨hplan, hinfo, hring⟩ := checkCats_eq alloc macid (finRange maxPhlRingCatNum)
      emptyTxPlan s (nodup_finRange _)
    have hplan' : (phlCheckTringList alloc false macid s).1 = planOf alloc s macid := hplan
    have hrest : macids.map (planOf alloc (phlCheckTringList alloc false macid s).2)
        = macids.map (planOf alloc s) := by
      refine map_congr_left fun m hmem => ?_
      have hne : m ≠ macid := fun he => hm (he ▸ hmem)
      have hfound : foundIn alloc (phlCheckTringList alloc false macid s).2 m
          (finRange maxPhlRingCatNum) = foundIn alloc s m (finRange maxPhlRingCatNum) :=
        foundIn_congr hinfo fun i _ => hring (m, i) hne
      rw [planOf, planOf, hfound]
    rw [checkTringLists, checkTringLists_eq alloc macids _ _ hms, hrest, hplan', map_cons,
      filter_cons]
    cases hempty : (planOf alloc s macid).sortedRing.isEmpty <;> simp

@[local simp] def sortOrder : List ℕ := [9, 8, 7, 6, 5, 4, 3, 0, 2, 1]

section

variable (alloc : RingId → Bool) (s : TxSys ρ) (macid : ℕ)

lemma sortOrder_nodup : sortOrder.Nodup := by decide

lemma mem_sortOrder (h : k < 10) : k ∈ sortOrder := by
  interval_cases k <;> simp

lemma block_of_pairwise (h : sts.Pairwise fun a b => a.cat < b.cat) (k : ℕ) :
    block cat k sts = [] ∨ ∃ r, block cat k sts = [r] ∧ r.cat = k := by
  have hk : ∀ x ∈ block cat k sts, x.cat = k := fun x hx => (mem_block.1 hx).2
  have hp : (block cat k sts).Pairwise fun a b => a.cat < b.cat := h.filter _
  rcases hb : block cat k sts with _ | ⟨x, _ | ⟨y, l⟩⟩
  · exact .inl rfl
  · exact .inr ⟨x, rfl, hk x (by simp [hb])⟩
  rw [hb] at hp hk
  have hlt := (pairwise_cons.1 hp).1 y (by simp)
  rw [hk x (by simp), hk y (by simp)] at hlt
  exact absurd hlt (lt_irrefl k)

lemma sortRings_eq (sts : List RingStatus) (h : sts.Pairwise fun a b => a.cat < b.cat) :
    sortRings sts emptyTxPlan = ⟨false, sts.any (·.cat = 8), sts.any (·.cat = 9),
        blocks cat sortOrder sts⟩ := by
  induction sts using reverseRecOn with
  | nil => rfl
  | append_singleton l r ih =>
    obtain ⟨hl, -, hlast⟩ := pairwise_append.1 h
    have hblock : ∀ k, r.cat ≤ k → block cat k l = [] := by
      intro k hk
      refine block_eq_nil.2 fun x hx he => ?_
      have := hlast x hx r (by simp)
      omega
    rw [sortRings, foldl_append, foldl_cons, foldl_nil]
    have ih' := ih hl
    rw [sortRings] at ih'
    rw [ih']
    obtain ⟨k, hk⟩ : ∃ k, r.cat = k := ⟨_, rfl⟩
    have hcat : r.ring.2.val = k := hk
    have hlt : k < 10 := hcat ▸ r.ring.2.isLt
    have hself : block cat k [r] = [r] := hk ▸ block_singleton_self r
    have hother : ∀ j, k ≠ j → block cat j [r] = [] := fun j hj => block_singleton_of_ne (hk ▸ hj)
    interval_cases k
    case «2» =>
      -- what is there is of the categories 0 and 1, one ring at most of each
      rcases block_of_pairwise hl 0 with h0 | ⟨x, h0, hx⟩ <;>
        rcases block_of_pairwise hl 1 with h1 | ⟨y, h1, hy⟩ <;>
        simp_all [phlSortRingByTid, cat]
    all_goals simp [phlSortRingByTid, hcat, hk, hblock, hself, hother]

lemma foundIn_pairwise :
    (foundIn alloc s macid (finRange maxPhlRingCatNum)).Pairwise fun a b => a.cat < b.cat := by
  refine pairwise_filterMap.2 ((pairwise_lt_finRange _).imp ?_)
  intro i j hij a ha b hb
  simp only [cat, phlCheckRingStatus_ring ha, phlCheckRingStatus_ring hb]
  exact hij

/-- The ring of high traffic in front and that of management traffic behind it, as the flags say. -/
structure PlanOK (plan : TxPlan) (hiq mgnt : Option RingStatus) (data : List RingStatus) :
    Prop where
  awake : plan.sleep = false
  hasHiq : plan.hasHiq = hiq.isSome
  hasMgnt : plan.hasMgnt = mgnt.isSome
  sorted : plan.sortedRing = hiq.toList ++ (mgnt.toList ++ data)
  control : ∀ r ∈ hiq.toList ++ mgnt.toList, 8 ≤ r.cat
  data : ∀ r ∈ data, r.cat < 8

lemma block_head (h : sts.Pairwise fun a b => a.cat < b.cat) (k : ℕ) :
    (sts.any (·.cat = k)) = (block cat k sts).head?.isSome
      ∧ block cat k sts = (block cat k sts).head?.toList := by
  rcases block_of_pairwise h k with hb | ⟨r, hb, hr⟩
  · rw [hb]
    refine ⟨?_, rfl⟩
    simpa using block_eq_nil.1 hb
  · rw [hb]
    refine ⟨?_, rfl⟩
    have hmem : r ∈ sts := (mem_block.1 (hb ▸ mem_singleton_self r)).1
    simpa using ⟨r, hmem, hr⟩

lemma planOf_ok : ∃ hiq mgnt data, PlanOK (planOf alloc s macid) hiq mgnt data := by
  have hp := foundIn_pairwise alloc s macid
  rw [planOf, sortRings_eq _ hp]
  obtain ⟨h9, hb9⟩ := block_head hp 9
  obtain ⟨h8, hb8⟩ := block_head hp 8
  refine ⟨_, _, blocks cat [7, 6, 5, 4, 3, 0, 2, 1]
    (foundIn alloc s macid (finRange maxPhlRingCatNum)), rfl, h9, h8, ?_, ?_, ?_⟩
  · rw [sortOrder, blocks_cons, blocks_cons, ← hb9, ← hb8]
  · intro r hr
    rw [← hb9, ← hb8, mem_append, mem_block, mem_block] at hr
    omega
  · intro r hr
    have hk := (mem_blocks.1 hr).2
    simp at hk
    omega

end

lemma insertAfter_append {id : RingId} (sts x : RingStatus) (post : List RingStatus)
    (hx : x.ring = id) : ∀ pre : List RingStatus, (∀ y ∈ pre, y.ring ≠ id) →
      insertAfter id sts (pre ++ x :: post) = pre ++ x :: sts :: post
  | [], _ => by simp [insertAfter, hx]
  | y :: pre, h => by
    obtain ⟨hy, hpre⟩ := forall_mem_cons.1 h
    simp [insertAfter, hy, insertAfter_append sts x post hx pre hpre]

/-- Management and high traffic in front, then one block for each category of data. -/
def FlowOrder (seen result : List RingStatus) : Prop :=
  ∃ ctl ks, result = ctl ++ blocks cat ks seen ∧ (∀ r ∈ ctl, 8 ≤ r.cat)
    ∧ ks.Nodup ∧ ∀ k, k ∈ ks ↔ k < 8 ∧ block cat k seen ≠ []

section Order

variable {seen result : List RingStatus} {r : RingStatus}

lemma block_append_ne_nil :
    block cat k (seen ++ [r]) ≠ [] ↔ block cat k seen ≠ [] ∨ r.cat = k := by
  rw [block_append, ne_eq, append_eq_nil_iff, not_and_or]
  refine or_congr Iff.rfl ?_
  simp [block_eq_nil]

lemma FlowOrder.front (h : FlowOrder seen result) (hr : 8 ≤ r.cat) :
    FlowOrder (seen ++ [r]) (r :: result) := by
  obtain ⟨ctl, ks, rfl, hctl, hnd, hks⟩ := h
  refine ⟨r :: ctl, ks, ?_, forall_mem_cons.2 ⟨hr, hctl⟩, hnd, fun k => ?_⟩
  · have hnot : r.cat ∉ ks := fun hmem => by
      have := ((hks _).1 hmem).1
      omega
    rw [blocks_append_other hnot, cons_append]
  · rw [hks, block_append_ne_nil]
    refine and_congr_right fun hk => ⟨.inl, ?_⟩
    rintro (hne | rfl)
    · exact hne
    · omega

lemma FlowOrder.new (h : FlowOrder seen result) (hr : r.cat < 8)
    (hb : block cat r.cat seen = []) : FlowOrder (seen ++ [r]) (result ++ [r]) := by
  obtain ⟨ctl, ks, rfl, hctl, hnd, hks⟩ := h
  have hnot : r.cat ∉ ks := fun hk => ((hks _).1 hk).2 hb
  refine ⟨ctl, ks ++ [r.cat], ?_, hctl, ?_, fun k => ?_⟩
  · rw [blocks_append_new hnot hb, append_assoc]
  · rw [← concat_eq_append]
    exact hnd.concat hnot
  rw [block_append_ne_nil, mem_append, mem_singleton, hks]
  constructor
  · rintro (⟨hk, hne⟩ | rfl)
    · exact ⟨hk, .inl hne⟩
    · exact ⟨hr, .inr rfl⟩
  · rintro ⟨hk, hne | rfl⟩
    · exact .inl ⟨hk, hne⟩
    · exact .inr rfl

lemma FlowOrder.behind (h : FlowOrder seen result) (hnd : (seen.map ring).Nodup)
    (hr : r.cat < 8) {init : List RingStatus} {last : RingStatus}
    (hb : block cat r.cat seen = init ++ [last]) :
    FlowOrder (seen ++ [r]) (insertAfter last.ring r result) := by
  obtain ⟨ctl, ks, rfl, hctl, hks, hmem⟩ := h
  have hin : r.cat ∈ ks := (hmem _).2 ⟨hr, by simp [hb]⟩
  obtain ⟨pre, post, hold, hnew, hpre⟩ := blocks_append_old hks hin seen
  have hlast : last.cat = r.cat := by
    have hl : last ∈ block cat r.cat seen := by simp [hb]
    exact (mem_block.1 hl).2
  refine ⟨ctl, ks, ?_, hctl, hks, fun k => ?_⟩
  · have hinit : ((init ++ [last]).map ring).Nodup := by
      rw [← hb]
      exact (filter_sublist.map _).nodup hnd
    rw [map_append, nodup_append] at hinit
    have hother : ∀ y ∈ ctl ++ pre ++ init, y.ring ≠ last.ring := by
      intro y hy he
      have hyc : y.cat = r.cat := by
        rw [← hlast, cat, cat, he]
      simp only [mem_append] at hy
      rcases hy with (hy | hy) | hy
      · have := hctl y hy
        omega
      · exact hpre y hy hyc
      · exact hinit.2.2 _ (mem_map_of_mem hy) _ (by simp) he
    have hins := insertAfter_append r last post rfl (ctl ++ pre ++ init) hother
    rw [hnew, hold, hb]
    simpa using hins
  · rw [block_append_ne_nil, hmem]
    refine and_congr_right fun hk => ⟨.inl, ?_⟩
    rintro (hne | rfl)
    · exact hne
    · simp [hb]

end Order

/-- The rings put in order so far, `seen` in the order they came. -/
structure FlowInv (seen : List RingStatus) (f : FlowCtrl) : Prop where
  order : FlowOrder seen f.result
  tidEntry : ∀ i : Fin maxPhlRingCatNum, i.val < 8 →
    f.tidEntry i = (block cat i.val seen).getLast?.map ring

section Flow

variable {seen : List RingStatus} {f : FlowCtrl}

lemma FlowInv.init : FlowInv [] ⟨[], fun _ => none⟩ :=
  ⟨⟨[], [], rfl, by simp, nodup_nil, by simp⟩, fun _ _ => rfl⟩

lemma FlowInv.front (h : FlowInv seen f) (hr : 8 ≤ r.cat) :
    FlowInv (seen ++ [r]) { f with result := r :: f.result } := by
  refine ⟨h.order.front hr, fun i hi => ?_⟩
  rw [block_append, block_singleton_of_ne (by omega), append_nil]
  exact h.tidEntry i hi

lemma FlowInv.ring (h : FlowInv seen f) (hnd : (seen.map RingStatus.ring).Nodup)
    (hr : r.cat < 8) : FlowInv (seen ++ [r]) (flowRing f r) := by
  have hentry : f.tidEntry r.ring.2
      = (block RingStatus.cat r.cat seen).getLast?.map RingStatus.ring := h.tidEntry _ hr
  refine ⟨?_, fun i hi => ?_⟩
  · rw [flowRing, hentry]
    rcases eq_nil_or_concat (block RingStatus.cat r.cat seen) with hb | ⟨init, last, hb⟩
    · rw [hb]
      exact h.order.new hr hb
    · rw [concat_eq_append] at hb
      rw [hb, getLast?_concat]
      exact h.order.behind hnd hr hb
  · rw [flowRing, block_append]
    by_cases he : i = r.ring.2
    · subst he
      have hself : block cat r.ring.2.val [r] = [r] := block_singleton_self r
      simp [hself]
    · have hne : r.cat ≠ i.val := fun hv => he (Fin.ext hv.symm)
      rw [block_singleton_of_ne hne, append_nil]
      simp [he, h.tidEntry i hi]

lemma FlowInv.rings : ∀ (data : List RingStatus) {seen : List RingStatus} {f : FlowCtrl},
    FlowInv seen f → ((seen ++ data).map RingStatus.ring).Nodup → (∀ r ∈ data, r.cat < 8) →
      FlowInv (seen ++ data) (data.foldl flowRing f)
  | [], seen, f, h, _, _ => by simpa using h
  | r :: data, seen, f, h, hnd, hdata => by
    obtain ⟨hr, hrest⟩ := forall_mem_cons.1 hdata
    have hseen : (seen.map RingStatus.ring).Nodup := ((sublist_append_left seen _).map _).nodup hnd
    have happ : seen ++ r :: data = seen ++ [r] ++ data := by simp
    rw [happ] at hnd ⊢
    exact FlowInv.rings data (h.ring hseen hr) hnd hrest

lemma flowFront_toList (o : Option RingStatus) (rest result : List RingStatus) :
    flowFront o.isSome (o.toList ++ rest) result = (rest, o.toList ++ result) := by
  cases o with
  | none => simp [flowFront]
  | some r => rfl

lemma FlowInv.frontOption (h : FlowInv seen f) {o : Option RingStatus}
    (ho : ∀ r ∈ o.toList, 8 ≤ r.cat) :
    FlowInv (seen ++ o.toList) { f with result := o.toList ++ f.result } := by
  cases o with
  | none => simpa using h
  | some r => exact h.front (ho r (by simp))

variable {plan : TxPlan} {hiq mgnt : Option RingStatus} {data : List RingStatus}

lemma PlanOK.flowPlan (hp : PlanOK plan hiq mgnt data) (f : FlowCtrl) : flowPlan f plan
      = data.foldl flowRing { f with result := mgnt.toList ++ (hiq.toList ++ f.result) } := by
  rw [Rtl8852be.flowPlan, hp.awake, hp.hasHiq, hp.hasMgnt, hp.sorted]
  simp [flowFront_toList]

lemma FlowInv.onePlan (h : FlowInv seen f) (hp : PlanOK plan hiq mgnt data)
    (hnd : ((seen ++ plan.sortedRing).map RingStatus.ring).Nodup) :
    FlowInv (seen ++ plan.sortedRing) (flowPlan f plan) := by
  have hctl := forall_mem_append.1 hp.control
  have hfront := (h.frontOption hctl.1).frontOption hctl.2
  have happ : seen ++ plan.sortedRing = seen ++ hiq.toList ++ mgnt.toList ++ data := by
    simp [hp.sorted]
  rw [happ] at hnd ⊢
  rw [hp.flowPlan]
  exact hfront.rings data hnd hp.data

lemma FlowInv.plans : ∀ (plans : List TxPlan) {seen : List RingStatus} {f : FlowCtrl},
    FlowInv seen f → (∀ plan ∈ plans, ∃ hiq mgnt data, PlanOK plan hiq mgnt data) →
      ((seen ++ planStatuses plans).map RingStatus.ring).Nodup →
      FlowInv (seen ++ planStatuses plans) (plans.foldl Rtl8852be.flowPlan f)
  | [], seen, f, h, _, _ => by simpa using h
  | plan :: plans, seen, f, h, hok, hnd => by
    obtain ⟨⟨hiq, mgnt, data, hp⟩, hrest⟩ := forall_mem_cons.1 hok
    have happ : seen ++ planStatuses (plan :: plans)
        = seen ++ plan.sortedRing ++ planStatuses plans := by
      simp
    rw [happ] at hnd ⊢
    have hseen : ((seen ++ plan.sortedRing).map RingStatus.ring).Nodup :=
      ((sublist_append_left _ _).map _).nodup hnd
    exact FlowInv.plans plans (h.onePlan hp hseen) hrest hnd

end Flow

lemma txFlowLoop_cons {plan : TxPlan} {hiq mgnt : Option RingStatus} {data : List RingStatus}
    (hp : PlanOK plan hiq mgnt data) (plans : List TxPlan) (f : TxFlow) :
    txFlowLoop (plan :: plans) f
      = txFlowLoop plans ⟨flowPlan f.ctrl plan, f.plans ++ [emptyTxPlan], f.released⟩ := by
  have hhiq : ¬ (plan.hasHiq ∧ plan.sortedRing = []) := by
    rw [hp.hasHiq, hp.sorted]
    cases hiq <;> simp
  have hmgnt : ¬ (plan.hasMgnt ∧ (flowFront plan.hasHiq plan.sortedRing f.ctrl.result).1 = []) := by
    rw [hp.hasMgnt, hp.hasHiq, hp.sorted, flowFront_toList]
    cases mgnt <;> simp
  rw [txFlowLoop, if_neg (by simp [hp.awake]), if_neg hhiq, if_neg hmgnt]
  simp [TxFlow.reset, phlResetTxPlan]

lemma txFlowLoop_eq : ∀ (plans : List TxPlan) (f : TxFlow),
    (∀ plan ∈ plans, ∃ hiq mgnt data, PlanOK plan hiq mgnt data) →
      txFlowLoop plans f = some ⟨plans.foldl flowPlan f.ctrl,
        f.plans ++ replicate plans.length emptyTxPlan, f.released⟩
  | [], f, _ => by simp [txFlowLoop]
  | plan :: plans, f, hok => by
    obtain ⟨⟨hiq, mgnt, data, hp⟩, hrest⟩ := forall_mem_cons.1 hok
    rw [txFlowLoop_cons hp, txFlowLoop_eq plans _ hrest]
    simp [replicate_succ]

section Round

variable (alloc : RingId → Bool) (s : TxSys ρ)

lemma planStatuses_eq (macids : List ℕ) :
    planStatuses ((macids.map (planOf alloc s)).filter fun plan => !plan.sortedRing.isEmpty)
      = macids.flatMap fun macid => (planOf alloc s macid).sortedRing := by
  induction macids with
  | nil => rfl
  | cons macid macids ih =>
    rw [map_cons, filter_cons, flatMap_cons, ← ih]
    cases hempty : (planOf alloc s macid).sortedRing with
    | nil => simp
    | cons r l => simp [hempty]

lemma planOf_sortedRing (macid : ℕ) : (planOf alloc s macid).sortedRing = blocks cat sortOrder
      (foundIn alloc s macid (finRange maxPhlRingCatNum)) := by
  rw [planOf, sortRings_eq _ (foundIn_pairwise alloc s macid)]

lemma block_planned (hk : k < 10) :
    block cat k (s.macids.flatMap fun macid => (planOf alloc s macid).sortedRing)
      = block cat k (foundStatuses alloc s) := by
  rw [foundStatuses, block, block, filter_flatMap, filter_flatMap]
  refine flatMap_congr fun macid _ => ?_
  rw [planOf_sortedRing]
  exact block_blocks sortOrder_nodup (mem_sortOrder hk)

lemma planned_perm : (s.macids.flatMap fun macid => (planOf alloc s macid).sortedRing).Perm
      (foundStatuses alloc s) := by
  refine List.Perm.flatMap_left _ fun macid _ => ?_
  rw [planOf_sortedRing]
  exact blocks_perm sortOrder_nodup fun r _ => mem_sortOrder r.ring.2.isLt

lemma foundIn_macid {macid : ℕ} (h : r ∈ foundIn alloc s macid is) : r.ring.1 = macid := by
  obtain ⟨i, -, hi⟩ := mem_filterMap.1 h
  rw [phlCheckRingStatus_ring hi]

lemma foundStatuses_nodup (hnd : s.macids.Nodup) : ((foundStatuses alloc s).map ring).Nodup := by
  rw [foundStatuses, map_flatMap, nodup_flatMap]
  refine ⟨fun macid _ => ?_, hnd.imp fun {m m'} hne => ?_⟩
  · refine pairwise_map.2 ((foundIn_pairwise alloc s macid).imp fun {a b} hlt he => ?_)
    rw [cat, cat, he] at hlt
    exact lt_irrefl _ hlt
  · rintro id hid hid'
    obtain ⟨r, hr, rfl⟩ := mem_map.1 hid
    obtain ⟨r', hr', he⟩ := mem_map.1 hid'
    refine hne ?_
    rw [← foundIn_macid alloc s hr, ← foundIn_macid alloc s hr', he]

end Round

/-- It takes each ring once, never the first of an empty list, puts management and high traffic in
front and then one block for each category with the macids in order. -/
theorem tx_flow_ctrl_groups (alloc : RingId → Bool) (s : TxSys ρ) (hnd : s.macids.Nodup) :
    let plans := (phlCheckXmitRingResource alloc (fun _ => false) s).1
    ∃ f ctl ks, txFlow plans = some f ∧ f.ctrl.result = phlTxFlowCtrl plans
      ∧ f.ctrl.result.Perm (planStatuses plans)
      ∧ (planStatuses plans).Perm (foundStatuses alloc s)
      ∧ (f.ctrl.result.map ring).Nodup
      ∧ f.ctrl.result = ctl ++ blocks cat ks (foundStatuses alloc s)
      ∧ (∀ r ∈ ctl, 8 ≤ r.cat) ∧ ks.Nodup ∧ (∀ k ∈ ks, k < 8)
      ∧ f.plans = replicate plans.length emptyTxPlan ∧ f.released = [] := by
  intro plans
  have hplans : plans
      = (s.macids.map (planOf alloc s)).filter fun plan => !plan.sortedRing.isEmpty :=
    checkTringLists_eq alloc s.macids [] s hnd
  have hok : ∀ plan ∈ plans, ∃ hiq mgnt data, PlanOK plan hiq mgnt data := by
    intro plan hplan
    rw [hplans] at hplan
    obtain ⟨macid, -, rfl⟩ := mem_map.1 (mem_filter.1 hplan).1
    exact planOf_ok alloc s macid
  have hsts := planStatuses_eq alloc s s.macids
  rw [← hplans] at hsts
  have hfound : (planStatuses plans).Perm (foundStatuses alloc s) := hsts ▸ planned_perm alloc s
  have hperm : (phlTxFlowCtrl plans).Perm (planStatuses plans) := by
    have hawake : plans.filter (fun plan => !plan.sleep) = plans := by
      refine filter_eq_self.2 fun plan hplan => ?_
      obtain ⟨_, _, _, hp⟩ := hok plan hplan
      simp [hp.awake]
    simpa only [hawake] using phlTxFlowCtrl_perm plans
  have hring := foundStatuses_nodup alloc s hnd
  obtain ⟨ctl, ks, hres, hctl, hks, hmem⟩ :=
    (FlowInv.init.plans plans hok ((hfound.map _).nodup_iff.2 hring)).order
  refine ⟨_, ctl, ks, txFlowLoop_eq plans _ hok, rfl, hperm, hfound, ?_, ?_, hctl, hks,
    fun k hk => ((hmem k).1 hk).1, nil_append _, rfl⟩
  · exact ((hperm.trans hfound).map _).nodup_iff.2 hring
  · refine hres.trans (congrArg (ctl ++ ·) (blocks_congr fun k hk => ?_))
    rw [nil_append, hsts]
    exact block_planned alloc s (by have := ((hmem k).1 hk).1; omega)

/-- Two macids with a request each of category 2, and one of them with management traffic. -/
theorem tx_flow_ctrl_two_macids :
    let s := run txStep (txInit [4, 3] (fun _ => ⟨0, 0, 0⟩) (fun _ => 0))
      [TxEvent.add 3 ⟨2, by decide⟩ "a", .add 3 ⟨8, by decide⟩ "b", .add 4 ⟨2, by decide⟩ "c"]
    (phlTxFlowCtrl (phlCheckXmitRingResource (fun _ => true) (fun _ => false) s).1).map
        (fun r => (r.ring.1, r.cat)) = [(3, 8), (4, 2), (3, 2)]
      ∧ ∃ f, txFlow (phlCheckXmitRingResource (fun _ => true) (fun _ => false) s).1 = some f
        ∧ f.released = [] := by
  intro s
  obtain ⟨f, ctl, ks, hf, -, -, -, -, -, -, -, -, -, hrel⟩ :=
    tx_flow_ctrl_groups (fun _ => true) s (by decide)
  exact ⟨by decide, f, hf, hrel⟩

end Rtl8852be

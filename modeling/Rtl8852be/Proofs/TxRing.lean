import Rtl8852be.TxRing
import Rtl8852be.Lib.Run
import Mathlib.Data.List.Flatten

/-!
# A transmit ring is a lossless queue

A status stays good until its ring is handled: requests added in the meantime only make more work,
and the next index already points at the oldest request that is left.
-/

namespace Rtl8852be

open Run Circ List TxSys Prod

variable {ρ : Type*} {id : RingId} {l' : List RingStatus} {r' : TxRingLog ρ} {r : TxRingLog ρ}
variable {busy rptr : ℕ} {sts : RingStatus} {l : List RingStatus}

structure RingInv (r : TxRingLog ρ) : Prop where
  coreIdx : r.coreIdx = r.accepted.length % 4096
  phlIdx : r.phlIdx = r.consumed.length % 4096
  fifo : Fifo 1 4096 r.entry r.accepted r.consumed.length
  room : r.accepted.length < r.consumed.length + 4096
  consumed : r.consumed <+: r.accepted

def Ready (r : TxRingLog ρ) (busy : ℕ) : Prop :=
  r.consumed.length + busy ≤ r.accepted.length
    ∧ (busy ≠ 0 → r.phlNextIdx = (r.consumed.length + 1) % 4096)

section OneRing

section

variable (h : RingInv r)
include h

lemma RingInv.avail_wptr : phlCalcAvailWptr r.phlIdx r.coreIdx maxPhlRingEntryNum
      = 4095 - (r.accepted.length - r.consumed.length) := by
  rw [h.phlIdx, h.coreIdx, maxPhlRingEntryNum, phlCalcAvailWptr_eq h.fifo.got_le h.room]

lemma RingInv.avail_rptr : phlCalcAvailRptr r.phlIdx r.coreIdx maxPhlRingEntryNum
      = r.accepted.length - r.consumed.length := by
  rw [h.phlIdx, h.coreIdx, maxPhlRingEntryNum, phlCalcAvailRptr_eq h.fifo.got_le h.room]

lemma RingInv.accept (req : ρ)
    (hres : 0 < phlCalcAvailWptr r.phlIdx r.coreIdx maxPhlRingEntryNum) :
    RingInv (r.accept req) := by
  rw [h.avail_wptr] at hres
  have hidx : (r.coreIdx + 1) % maxPhlRingEntryNum = (r.accepted.length + 1) % 4096 := by
    rw [h.coreIdx, maxPhlRingEntryNum, Nat.mod_add_mod]
  refine ⟨?_, h.phlIdx, ?_, ?_, h.consumed.trans (prefix_append _ _)⟩
  · simp [TxRingLog.accept, hidx]
  · simp only [TxRingLog.accept, hidx]
    exact h.fifo.push h.room req
  · simp [TxRingLog.accept]
    omega

lemma RingInv.next_entry (hr : Ready r busy) (hb : busy ≠ 0) :
    ∃ req, r.entry r.phlNextIdx = some req ∧ r.accepted[r.consumed.length]? = some req := by
  obtain ⟨req, hacc, hent⟩ := h.fifo.next (by have := hr.1; omega)
  exact ⟨req, by rw [hr.2 hb, hent], hacc⟩

lemma RingInv.pass {req : ρ} (hrptr : rptr = (r.consumed.length + 1) % 4096)
    (hreq : r.accepted[r.consumed.length]? = some req) : RingInv (r.pass rptr req) := by
  have hlt := (List.getElem?_eq_some_iff.1 hreq).1
  have hroom := h.room
  refine ⟨h.coreIdx, ?_, ?_, ?_, prefix_succ h.consumed hreq⟩
  · simp [hrptr]
  · simp
    exact h.fifo.take hlt
  · simp
    omega

lemma RingInv.congr (hc : r'.coreIdx = r.coreIdx) (hp : r'.phlIdx = r.phlIdx)
    (he : r'.entry = r.entry) (ha : r'.accepted = r.accepted) (hd : r'.consumed = r.consumed) :
    RingInv r' := by
  refine ⟨?_, ?_, ?_, ?_, ?_⟩
  · rw [hc, ha, h.coreIdx]
  · rw [hp, hd, h.phlIdx]
  · rw [he, ha, hd]
    exact h.fifo
  · rw [ha, hd]
    exact h.room
  · rw [ha, hd]
    exact h.consumed

end

end OneRing

/-- The only thing a check changes: next indices now point at the oldest request left. -/
def Checked (s s' : TxSys ρ) : Prop :=
  s'.cb = s.cb ∧ s'.macids = s.macids ∧ ∀ id, s'.ring id = s.ring id ∨ s'.ring id =
    { s.ring id with phlNextIdx := ((s.ring id).consumed.length + 1) % 4096 }

variable {s s' : TxSys ρ}

section Check

variable {s'' : TxSys ρ}

lemma Checked.refl (s : TxSys ρ) : Checked s s := ⟨rfl, rfl, fun _ => .inl rfl⟩

lemma Checked.trans (h : Checked s s') (h' : Checked s' s'') : Checked s s'' := by
  refine ⟨h'.1.trans h.1, h'.2.1.trans h.2.1, fun id => ?_⟩
  rcases h.2.2 id with h1 | h1
  · rcases h'.2.2 id with h2 | h2
    · exact .inl (h2.trans h1)
    · rw [h1] at h2
      exact .inr h2
  · rcases h'.2.2 id with h2 | h2
    · exact .inr (h2.trans h1)
    · rw [h1] at h2
      exact .inr h2

lemma Checked.ringInv (h : Checked s s') (hs : ∀ id, RingInv (s.ring id)) (id : RingId) :
    RingInv (s'.ring id) := by
  rcases h.2.2 id with h1 | h1
  · rw [h1]
    exact hs id
  · rw [h1]
    exact (hs id).congr rfl rfl rfl rfl rfl

lemma Checked.ready (h : Checked s s') (hr : Ready (s.ring id) busy) :
    Ready (s'.ring id) busy := by
  rcases h.2.2 id with h1 | h1
  · rwa [h1]
  · rw [h1]
    exact ⟨hr.1, fun _ => rfl⟩

lemma Checked.logs (h : Checked s s') (id : RingId) :
    (s'.ring id).handed = (s.ring id).handed ∧ (s'.ring id).consumed = (s.ring id).consumed := by
  rcases h.2.2 id with h1 | h1 <;> rw [h1] <;> exact ⟨rfl, rfl⟩

lemma phlCheckRingStatus_some {alloc : Bool} {info : TringInfo} (h : RingInv r)
    (hc : phlCheckRingStatus alloc info id r = (some sts, r')) :
    sts.ring = id ∧ Ready r' sts.reqBusy
      ∧ r' = { r with phlNextIdx := (r.consumed.length + 1) % 4096 } := by
  have hnext : (if maxPhlRingEntryNum ≤ r.phlIdx + 1 then 0 else r.phlIdx + 1)
      = (r.consumed.length + 1) % 4096 := by
    rw [h.phlIdx]
    exact wrap_succ _ (by decide)
  simp only [phlCheckRingStatus, h.avail_rptr, hnext] at hc
  split_ifs at hc
  · cases hc
  · obtain ⟨rfl, rfl⟩ := hc
    refine ⟨rfl, ⟨?_, fun _ => rfl⟩, rfl⟩
    simp only
    omega
  · cases hc

lemma phlSortRingByTid_perm (sts : RingStatus) (plan : TxPlan) (cat : Fin maxPhlRingCatNum) :
    (phlSortRingByTid sts plan cat).sortedRing.Perm (sts :: plan.sortedRing) := by
  unfold phlSortRingByTid
  split_ifs with h1 h2
  · exact perm_append_singleton _ _
  · split
    · exact perm_append_singleton _ _
    · rename_i last hlast
      split_ifs
      · have hne : plan.sortedRing ≠ [] := by
          rintro he
          simp [he] at hlast
        have hd := dropLast_append_getLast hne
        rw [getLast?_eq_some_getLast hne, Option.some_inj] at hlast
        rw [hlast] at hd
        have : (plan.sortedRing.dropLast ++ [sts, last]).Perm
            (sts :: (plan.sortedRing.dropLast ++ [last])) := perm_middle
        rwa [hd] at this
      · exact perm_append_singleton _ _
  · exact List.Perm.refl _

def StatusesOK (s : TxSys ρ) (l : List RingStatus) : Prop :=
  (l.map RingStatus.ring).Nodup ∧ ∀ sts ∈ l, Ready (s.ring sts.ring) sts.reqBusy

lemma StatusesOK.perm (h : StatusesOK s l) (hp : l'.Perm l) : StatusesOK s l' :=
  ⟨(hp.map _).nodup_iff.2 h.1, fun sts hm => h.2 sts (hp.mem_iff.1 hm)⟩

lemma StatusesOK.sublist (h : StatusesOK s l) (hl : l'.Sublist l) : StatusesOK s l' :=
  ⟨(hl.map _).nodup h.1, fun sts hm => h.2 sts (hl.subset hm)⟩

lemma setRing_checked
    (hr : r = { s.ring id with phlNextIdx := ((s.ring id).consumed.length + 1) % 4096 }) :
    Checked s (s.setRing id r) := by
  refine ⟨rfl, rfl, fun id' => ?_⟩
  by_cases hid : id' = id
  · subst hid
    exact .inr (by simp [setRing, hr])
  · exact .inl (by simp [setRing, hid])

lemma checkCats_spec (alloc : RingId → Bool) (macid : ℕ) (l : List RingStatus) :
    ∀ (is : List (Fin maxPhlRingCatNum)) (plan : TxPlan) (s : TxSys ρ), is.Nodup →
      (∀ id, RingInv (s.ring id)) → StatusesOK s (l ++ plan.sortedRing) →
      (∀ sts ∈ l ++ plan.sortedRing, ∀ i ∈ is, sts.ring ≠ (macid, i)) →
      (∀ sts ∈ plan.sortedRing, sts.ring.1 = macid) →
      Checked s (checkCats alloc macid is plan s).2 ∧ StatusesOK (checkCats alloc macid is plan s).2
          (l ++ (checkCats alloc macid is plan s).1.sortedRing)
        ∧ ∀ sts ∈ (checkCats alloc macid is plan s).1.sortedRing, sts.ring.1 = macid
  | [], plan, s, _, _, hl, _, hm => ⟨Checked.refl s, hl, hm⟩
  | i :: is, plan, s, hnd, hs, hl, hne, hm => by
    rw [checkCats]
    rw [nodup_cons] at hnd
    split
    · exact checkCats_spec alloc macid l is plan s hnd.2 hs hl
        (fun sts hsts j hj => hne sts hsts j (by simp [hj])) hm
    rename_i sts r heq
    obtain ⟨hring, hready, hr⟩ := phlCheckRingStatus_some (hs (macid, i)) heq
    have hck := setRing_checked hr
    have hp : (l ++ (phlSortRingByTid sts plan i).sortedRing).Perm
        (sts :: (l ++ plan.sortedRing)) :=
      ((phlSortRingByTid_perm sts plan i).append_left l).trans perm_middle
    have hself : (s.setRing (macid, i) r).ring sts.ring = r := by
      rw [hring]
      simp [setRing]
    have hOK : StatusesOK (s.setRing (macid, i) r) (sts :: (l ++ plan.sortedRing)) := by
      refine ⟨?_, forall_mem_cons.2 ⟨by rwa [hself], fun sts' hmem => hck.ready (hl.2 sts' hmem)⟩⟩
      rw [map_cons, nodup_cons]
      refine ⟨fun hmem => ?_, hl.1⟩
      obtain ⟨sts', hs', he⟩ := mem_map.1 hmem
      exact hne sts' hs' i (by simp) (he.trans hring)
    obtain ⟨h1, h2, h3⟩ := checkCats_spec alloc macid l is (phlSortRingByTid sts plan i)
      (s.setRing (macid, i) r) hnd.2 (hck.ringInv hs) (hOK.perm hp)
      (fun sts' hmem j hj => by
        rcases mem_cons.1 (hp.mem_iff.1 hmem) with rfl | hmem
        · rw [hring]
          intro he
          cases he
          exact hnd.1 hj
        · exact hne sts' hmem j (by simp [hj]))
      (fun sts' hmem => by
        rcases mem_cons.1 ((phlSortRingByTid_perm sts plan i).mem_iff.1 hmem) with rfl | hmem
        · rw [hring]
        · exact hm sts' hmem)
    exact ⟨hck.trans h1, h2, h3⟩

@[simp]
def planStatuses (staList : List TxPlan) : List RingStatus := staList.flatMap TxPlan.sortedRing

lemma checkTringLists_spec (alloc : RingId → Bool) (sleep : ℕ → Bool) :
    ∀ (macids : List ℕ) (staList : List TxPlan) (s : TxSys ρ), macids.Nodup →
      (∀ id, RingInv (s.ring id)) → StatusesOK s (planStatuses staList) →
      (∀ sts ∈ planStatuses staList, sts.ring.1 ∉ macids) →
      Checked s (checkTringLists alloc sleep macids staList s).2
        ∧ StatusesOK (checkTringLists alloc sleep macids staList s).2
          (planStatuses (checkTringLists alloc sleep macids staList s).1)
  | [], staList, s, _, _, hl, _ => ⟨Checked.refl s, hl⟩
  | macid :: macids, staList, s, hnd, hs, hl, hne => by
    rw [nodup_cons] at hnd
    obtain ⟨h1, h2, h3⟩ := checkCats_spec alloc macid (planStatuses staList)
      (finRange maxPhlRingCatNum) ⟨sleep macid, false, false, []⟩ s (nodup_finRange _) hs
      (by simpa using hl)
      (fun sts hmem i _ he => hne sts (by simpa using hmem) (by rw [he]; simp))
      (fun sts hmem => by simp at hmem)
    have hplans : planStatuses
        (if (phlCheckTringList alloc (sleep macid) macid s).1.sortedRing.isEmpty then staList
          else staList ++ [(phlCheckTringList alloc (sleep macid) macid s).1])
        = planStatuses staList ++ (phlCheckTringList alloc (sleep macid) macid s).1.sortedRing := by
      split_ifs with he
      · rw [isEmpty_iff.1 he, append_nil]
      · simp
    obtain ⟨h4, h5⟩ := checkTringLists_spec alloc sleep macids _
      (phlCheckTringList alloc (sleep macid) macid s).2 hnd.2 (h1.ringInv hs)
      (by rw [hplans]; exact h2)
      (fun sts hmem => by
        rw [hplans, mem_append] at hmem
        rcases hmem with hmem | hmem
        · intro hin
          exact hne sts hmem (by simp [hin])
        · rw [h3 sts hmem]
          exact hnd.1)
    exact ⟨h1.trans h4, h5⟩

end Check

lemma insertAfter_perm (id : RingId) (sts : RingStatus) :
    ∀ l : List RingStatus, (insertAfter id sts l).Perm (sts :: l)
  | [] => List.Perm.refl _
  | x :: l => by
    rw [insertAfter]
    split_ifs
    · exact List.Perm.swap ..
    · exact ((insertAfter_perm id sts l).cons x).trans (List.Perm.swap ..)

lemma flowRing_perm (f : FlowCtrl) (sts : RingStatus) :
    (flowRing f sts).result.Perm (sts :: f.result) := by
  simp only [flowRing]
  split
  · exact perm_append_singleton _ _
  · exact insertAfter_perm _ _ _

lemma flowRings_perm : ∀ (l : List RingStatus) (f : FlowCtrl),
    (l.foldl flowRing f).result.Perm (l ++ f.result)
  | [], f => List.Perm.refl _
  | sts :: l, f => by
    refine (flowRings_perm l (flowRing f sts)).trans ?_
    exact ((flowRing_perm f sts).append_left l).trans perm_middle

lemma flowFront_perm (has : Bool) (sorted result : List RingStatus) :
    ((flowFront has sorted result).1 ++ (flowFront has sorted result).2).Perm
      (sorted ++ result) := by
  unfold flowFront
  split
  · exact perm_middle
  · exact List.Perm.refl _

lemma flowPlan_perm (f : FlowCtrl) (plan : TxPlan) (hs : plan.sleep = false) :
    (flowPlan f plan).result.Perm (plan.sortedRing ++ f.result) := by
  simp [flowPlan, hs]
  exact (flowRings_perm _ _).trans ((flowFront_perm _ _ _).trans (flowFront_perm _ _ _))

lemma flowPlans_perm : ∀ (l : List TxPlan) (f : FlowCtrl), (l.foldl flowPlan f).result.Perm
      (planStatuses (l.filter fun plan => !plan.sleep) ++ f.result)
  | [], f => List.Perm.refl _
  | plan :: l, f => by
    refine (flowPlans_perm l (flowPlan f plan)).trans ?_
    cases hs : plan.sleep
    · rw [filter_cons_of_pos (by simp [hs])]
      refine ((flowPlan_perm f plan hs).append_left _).trans ?_
      simp [← append_assoc]
      exact perm_append_comm.append_right _
    · rw [filter_cons_of_neg (by simp [hs]), flowPlan, if_pos hs]

lemma phlTxFlowCtrl_perm (l : List TxPlan) :
    (phlTxFlowCtrl l).Perm (planStatuses (l.filter fun plan => !plan.sleep)) := by
  simpa [phlTxFlowCtrl] using flowPlans_perm l ⟨[], fun _ => none⟩

def inFlight (cb : TxCallback ρ) (id : RingId) : List ρ :=
  match cb with
  | .prepared sts _ req _ => if sts.ring = id then [req] else []
  | _ => []

def TxCallback.statuses : TxCallback ρ → List RingStatus
  | .idle => []
  | .next todo => todo
  | .loop sts todo => sts :: todo
  | .prepared sts _ _ todo => sts :: todo
  | .stored sts _ todo => sts :: todo

def AtHand (s : TxSys ρ) : Prop :=
  match s.cb with
  | .prepared sts rptr req _ => sts.reqBusy ≠ 0
      ∧ rptr = ((s.ring sts.ring).consumed.length + 1) % 4096
      ∧ (s.ring sts.ring).accepted[(s.ring sts.ring).consumed.length]? = some req
  | .stored sts rptr _ => rptr = (s.ring sts.ring).consumed.length % 4096
      ∧ (s.ring sts.ring).phlNextIdx = rptr
  | _ => True

def CallbackOK (s : TxSys ρ) : Prop :=
  match s.cb with
  | .stored sts _ todo => (sts.ring :: todo.map RingStatus.ring).Nodup
      ∧ (s.ring sts.ring).consumed.length + sts.reqBusy ≤ (s.ring sts.ring).accepted.length
      ∧ ∀ sts' ∈ todo, Ready (s.ring sts'.ring) sts'.reqBusy
  | cb => StatusesOK s cb.statuses

structure TxInv (macids : List ℕ) (s : TxSys ρ) : Prop where
  macids_eq : s.macids = macids
  rings : ∀ id, RingInv (s.ring id)
  callback : CallbackOK s
  atHand : AtHand s
  handed : ∀ id, (s.ring id).handed.map fst = (s.ring id).consumed ++ inFlight s.cb id

def Grown (r r' : TxRingLog ρ) : Prop :=
  r'.consumed = r.consumed ∧ r'.phlNextIdx = r.phlNextIdx ∧ r.accepted <+: r'.accepted

section System

variable {macids : List ℕ}
variable {todo : List RingStatus}

@[simp] lemma setRing_self (s : TxSys ρ) (id : RingId) (r : TxRingLog ρ) :
    (s.setRing id r).ring id = r := by simp [setRing]

lemma setRing_of_ne (s : TxSys ρ) {id' : RingId} (r : TxRingLog ρ) (h : id' ≠ id) :
    (s.setRing id r).ring id' = s.ring id' := by simp [setRing, h]

lemma setRing_forall {P : RingId → TxRingLog ρ → Prop} (h : ∀ id', P id' (s.ring id'))
    (hr : P id r) (id' : RingId) : P id' ((s.setRing id r).ring id') := by
  by_cases hid : id' = id
  · subst hid
    rwa [setRing_self]
  · rw [setRing_of_ne s r hid]
    exact h id'

lemma Grown.refl (r : TxRingLog ρ) : Grown r r := ⟨rfl, rfl, prefix_rfl⟩

lemma setRing_grown (hr : Grown (s.ring id) r) (id' : RingId) :
    Grown (s.ring id') ((s.setRing id r).ring id') := by
  by_cases hid : id' = id
  · subst hid
    rwa [setRing_self]
  · rw [setRing_of_ne s r hid]
    exact Grown.refl _

lemma Ready.grow (h : Ready r busy) (hg : Grown r r') : Ready r' busy := by
  obtain ⟨hc, hn, ha⟩ := hg
  have := ha.length_le
  refine ⟨?_, fun hb => ?_⟩
  · rw [hc]
    exact h.1.trans this
  · rw [hc, hn]
    exact h.2 hb

lemma StatusesOK.grow (h : StatusesOK s l) (hg : ∀ id, Grown (s.ring id) (s'.ring id)) :
    StatusesOK s' l :=
  ⟨h.1, fun sts hm => (h.2 sts hm).grow (hg sts.ring)⟩

lemma CallbackOK.grow (h : CallbackOK s) (ha : AtHand s) (hcb : s'.cb = s.cb)
    (hg : ∀ id, Grown (s.ring id) (s'.ring id)) : CallbackOK s' ∧ AtHand s' := by
  unfold CallbackOK AtHand at *
  rw [hcb]
  rcases hc : s.cb with _ | todo | ⟨sts, todo⟩ | ⟨sts, rptr, req, todo⟩ | ⟨sts, rptr, todo⟩
  · exact ⟨⟨nodup_nil, fun sts hm => by cases hm⟩, trivial⟩
  · simp only [hc] at h
    exact ⟨h.grow hg, trivial⟩
  · simp only [hc] at h
    exact ⟨h.grow hg, trivial⟩
  · simp only [hc] at h ha
    obtain ⟨g1, -, g3⟩ := hg sts.ring
    refine ⟨h.grow hg, ha.1, ?_, ?_⟩
    · rw [g1]
      exact ha.2.1
    · rw [g1]
      exact getElem?_of_prefix g3 ha.2.2
  · simp only [hc] at h ha
    obtain ⟨g1, g2, g3⟩ := hg sts.ring
    have := g3.length_le
    refine ⟨⟨h.1, ?_, fun sts' hm => (h.2.2 sts' hm).grow (hg _)⟩, ?_, ?_⟩
    · rw [g1]
      exact h.2.1.trans this
    · rw [g1]
      exact ha.1
    · rw [g2]
      exact ha.2

section

variable (h : TxInv macids s)
include h

lemma TxInv.add (macid : ℕ) (tid : Fin maxPhlRingCatNum) (req : ρ) :
    TxInv macids (rtwPhlAddTxReq macid tid req s).2 := by
  simp only [rtwPhlAddTxReq]
  split_ifs with hm hres
  · have hg : Grown (s.ring (macid, tid)) ((s.ring (macid, tid)).accept req) :=
      ⟨rfl, rfl, prefix_append _ _⟩
    obtain ⟨hcb, hat⟩ := h.callback.grow h.atHand
      (show (s.setRing (macid, tid) _).cb = s.cb from rfl) (setRing_grown hg)
    exact ⟨h.macids_eq,
      setRing_forall (P := fun _ r => RingInv r) h.rings ((h.rings _).accept req hres), hcb, hat,
      setRing_forall (P := fun id r => r.handed.map fst = r.consumed ++ inFlight s.cb id)
        h.handed (h.handed (macid, tid))⟩
  · exact h
  · exact h

lemma TxInv.round (hnd : macids.Nodup) (alloc : RingId → Bool)
    (sleep : ℕ → Bool) : TxInv macids (txRound alloc sleep s) := by
  rw [txRound]
  split
  · rename_i hidle
    obtain ⟨hck, hst⟩ := checkTringLists_spec alloc sleep s.macids [] s
      (by rw [h.macids_eq]; exact hnd) h.rings ⟨nodup_nil, fun sts hm => by cases hm⟩
      (fun sts hm => by cases hm)
    have hres := (hst.sublist (filter_sublist.flatMap _)).perm (phlTxFlowCtrl_perm _)
    refine ⟨hck.2.1.trans h.macids_eq, hck.ringInv h.rings, hres, trivial, fun id => ?_⟩
    have hh := h.handed id
    rw [hidle] at hh
    obtain ⟨h1, h2⟩ := hck.logs id
    simp only [phlCheckXmitRingResource, setCb, h1, h2]
    exact hh
  · exact h

lemma TxInv.loop (hc : s.cb = .loop sts todo) (ok : Bool) :
    TxInv macids (txLoop ok sts todo s) := by
  have hcb := h.callback
  have hhand := h.handed
  simp only [CallbackOK, hc, TxCallback.statuses] at hcb
  simp only [hc, inFlight, append_nil] at hhand
  have hnext : TxInv macids (s.setCb (.next todo)) :=
    ⟨h.macids_eq, h.rings, hcb.sublist (sublist_cons_self _ _), trivial,
      fun id => by simpa [inFlight] using hhand id⟩
  simp only [txLoop]
  by_cases hb : sts.reqBusy = 0
  · rwa [if_pos hb]
  obtain ⟨req, hent, hacc⟩ := (h.rings sts.ring).next_entry (hcb.2 sts (by simp)) hb
  rw [if_neg hb, hent]
  split_ifs
  · have hg : Grown (s.ring sts.ring) ((s.ring sts.ring).hand sts req) := ⟨rfl, rfl, prefix_rfl⟩
    have hself := setRing_self s sts.ring ((s.ring sts.ring).hand sts req)
    refine ⟨h.macids_eq, ?_, hcb.grow (setRing_grown hg), ?_, fun id => ?_⟩
    · exact setRing_forall (P := fun _ r => RingInv r) h.rings
        ((h.rings _).congr rfl rfl rfl rfl rfl)
    · simp only [AtHand, setCb, hself]
      exact ⟨hb, (hcb.2 sts (by simp)).2 hb, hacc⟩
    simp only [setCb, inFlight]
    by_cases hid : sts.ring = id
    · subst hid
      simp [TxRingLog.hand, hhand]
    · rw [setRing_of_ne s _ (Ne.symm hid), if_neg hid, append_nil]
      exact hhand id
  · exact hnext

lemma TxInv.pass {req : ρ} (hc : s.cb = .prepared sts rptr req todo) :
    TxInv macids ((s.setRing sts.ring ((s.ring sts.ring).pass rptr req)).setCb
      (.stored { sts with reqBusy := sts.reqBusy - 1 } rptr todo)) := by
  have hcb := h.callback
  have hat := h.atHand
  have hhand := h.handed
  simp only [CallbackOK, hc, TxCallback.statuses] at hcb
  simp only [AtHand, hc] at hat
  simp only [hc, inFlight] at hhand
  obtain ⟨hb, hrptr, hacc⟩ := hat
  obtain ⟨hnd, hready⟩ := hcb
  have hr := hready sts (by simp)
  have hself := setRing_self s sts.ring ((s.ring sts.ring).pass rptr req)
  rw [map_cons, nodup_cons] at hnd
  refine ⟨h.macids_eq, ?_, ⟨?_, ?_, fun sts' hm => ?_⟩, ?_, fun id => ?_⟩
  · exact setRing_forall (P := fun _ r => RingInv r) h.rings ((h.rings _).pass hrptr hacc)
  · exact nodup_cons.2 hnd
  · have := hr.1
    simp only [setCb, hself]
    simp
    omega
  · have hne : sts'.ring ≠ sts.ring := fun he => hnd.1 (he ▸ mem_map_of_mem hm)
    simp only [setCb, setRing_of_ne s _ hne]
    exact hready sts' (by simp [hm])
  · simp only [AtHand, setCb, hself]
    simp
    exact ⟨hrptr, by rw [hrptr]; exact hr.2 hb⟩
  · simp [inFlight]
    by_cases hid : sts.ring = id
    · subst hid
      simpa using hhand sts.ring
    · rw [setRing_of_ne s _ (Ne.symm hid)]
      simpa [hid] using hhand id

lemma TxInv.advance (hc : s.cb = .stored sts rptr todo) :
    TxInv macids ((s.setRing sts.ring ((s.ring sts.ring).advance sts.reqBusy rptr)).setCb
      (.loop sts todo)) := by
  have hcb := h.callback
  have hat := h.atHand
  have hhand := h.handed
  simp only [CallbackOK, hc] at hcb
  simp only [AtHand, hc] at hat
  simp only [hc, inFlight, append_nil] at hhand
  obtain ⟨hnd, hle, hready⟩ := hcb
  obtain ⟨hrptr, hnext⟩ := hat
  have hself := setRing_self s sts.ring ((s.ring sts.ring).advance sts.reqBusy rptr)
  have hlog : let l := (s.ring sts.ring).advance sts.reqBusy rptr
      l.handed = (s.ring sts.ring).handed ∧ l.consumed = (s.ring sts.ring).consumed
      ∧ l.accepted = (s.ring sts.ring).accepted ∧ RingInv l := by
    rw [TxRingLog.advance]
    by_cases hb : sts.reqBusy = 0
    · rw [if_pos hb]
      exact ⟨rfl, rfl, rfl, h.rings _⟩
    · rw [if_neg hb]
      exact ⟨rfl, rfl, rfl, (h.rings _).congr rfl rfl rfl rfl rfl⟩
  obtain ⟨hl1, hl2, hl3, hl4⟩ := hlog
  refine ⟨h.macids_eq, setRing_forall (P := fun _ r => RingInv r) h.rings hl4,
    ⟨hnd, fun sts' hm => ?_⟩, trivial, fun id => ?_⟩
  · simp only [setCb]
    rcases mem_cons.1 hm with rfl | hm
    · rw [hself]
      refine ⟨by rw [hl2, hl3]; exact hle, fun hb => ?_⟩
      rw [hl2, TxRingLog.advance, if_neg hb, hnext, hrptr]
      exact wrap_succ _ (by decide)
    · have hne : sts'.ring ≠ sts.ring := fun he =>
        (nodup_cons.1 hnd).1 (he ▸ mem_map_of_mem hm)
      rw [setRing_of_ne s _ hne]
      exact hready sts' hm
  · simp [inFlight]
    by_cases hid : sts.ring = id
    · subst hid
      rw [hself, hl1, hl2]
      exact hhand sts.ring
    · rw [setRing_of_ne s _ (Ne.symm hid)]
      exact hhand id

lemma TxInv.tick (ok : Bool) : TxInv macids (txTick ok s) := by
  have hcb := h.callback
  have hhand := h.handed
  rw [txTick]
  split
  · exact h
  · rename_i hc
    simp only [CallbackOK, hc] at hcb
    simp only [hc] at hhand
    exact ⟨h.macids_eq, h.rings, hcb, trivial, hhand⟩
  · rename_i hc
    simp only [CallbackOK, hc] at hcb
    simp only [hc] at hhand
    exact ⟨h.macids_eq, h.rings, hcb, trivial, hhand⟩
  · rename_i hc
    exact h.loop hc ok
  · rename_i hc
    exact h.pass hc
  · rename_i hc
    exact h.advance hc

end

lemma TxInv.step (hnd : macids.Nodup) (s : TxSys ρ) (e : TxEvent ρ) (h : TxInv macids s) :
    TxInv macids (txStep s e) := by
  cases e with
  | add macid tid req => exact h.add macid tid req
  | round alloc sleep => exact h.round hnd alloc sleep
  | tick ok => exact h.tick ok

lemma txInit_inv (macids : List ℕ) (info : ℕ → TringInfo) (dmaCh : RingId → ℕ) :
    TxInv macids (txInit macids info dmaCh : TxSys ρ) :=
  ⟨rfl, fun _ => ⟨rfl, rfl, Fifo.start _ _ _, by simp [txInit], prefix_rfl⟩,
    ⟨nodup_nil, fun sts hm => by cases hm⟩, trivial, fun _ => rfl⟩

lemma TxInv.handed_prefix (h : TxInv macids s) (id : RingId) :
    (s.ring id).handed.map fst <+: (s.ring id).accepted := by
  rw [h.handed id]
  have hat := h.atHand
  rcases hc : s.cb with _ | todo | ⟨sts, todo⟩ | ⟨sts, rptr, req, todo⟩ | ⟨sts, rptr, todo⟩
  case prepared =>
    simp only [AtHand, hc] at hat
    simp only [inFlight]
    split_ifs with hid
    · subst hid
      exact prefix_succ (h.rings sts.ring).consumed hat.2.2
    · rw [append_nil]
      exact (h.rings id).consumed
  all_goals
    simp [inFlight]
    exact (h.rings id).consumed

end System

/-- Each ring's requests are taken in the order in which they were accepted, each once, and refused
exactly when 4095 are outstanding. -/
theorem tx_ring_lossless_fifo (macids : List ℕ) (hnd : macids.Nodup) (info : ℕ → TringInfo)
    (dmaCh : RingId → ℕ) (es : List (TxEvent ρ)) :
    let s := run txStep (txInit macids info dmaCh) es
    (∀ id, (s.ring id).handed.map fst <+: (s.ring id).accepted
      ∧ (s.ring id).consumed <+: (s.ring id).accepted
      ∧ (s.ring id).handed.map fst = (s.ring id).consumed ++ inFlight s.cb id)
    ∧ ∀ macid ∈ macids, ∀ tid txReq, ((rtwPhlAddTxReq macid tid txReq s).1 = .resource
        ↔ (s.ring (macid, tid)).accepted.length - (s.ring (macid, tid)).consumed.length = 4095)
      ∧ ((rtwPhlAddTxReq macid tid txReq s).1 ≠ .resource →
        (rtwPhlAddTxReq macid tid txReq s).1 = .success
        ∧ ((rtwPhlAddTxReq macid tid txReq s).2.ring (macid, tid)).accepted
          = (s.ring (macid, tid)).accepted ++ [txReq]) := by
  intro s
  have h : TxInv macids s := run_inv_all txStep (fun s e => TxInv.step hnd s e) es _
    (txInit_inv macids info dmaCh)
  refine ⟨fun id => ⟨h.handed_prefix id, (h.rings id).consumed, h.handed id⟩,
    fun macid hm tid txReq => ?_⟩
  have hroom := (h.rings (macid, tid)).room
  have hm' : macid ∈ s.macids := by rw [h.macids_eq]; exact hm
  simp only [rtwPhlAddTxReq, if_pos hm', (h.rings (macid, tid)).avail_wptr]
  split_ifs with hres
  · refine ⟨⟨nofun, fun he => by omega⟩, fun _ => ⟨rfl, ?_⟩⟩
    rw [setRing_self]
    rfl
  · exact ⟨⟨fun _ => by omega, fun _ => rfl⟩, fun hne => absurd rfl hne⟩

/-- Two requests added, one handed on in a round whose second `prepare_tx` fails. -/
theorem tx_ring_fifo_sample :
    let s := run txStep (txInit [3] (fun _ => ⟨0, 0, 0⟩) (fun _ => 0))
      [TxEvent.add 3 ⟨0, by decide⟩ "a", .add 3 ⟨0, by decide⟩ "b",
        .round (fun _ => true) (fun _ => false), .tick true,
        .tick true, .tick true, .tick true, .tick false]
    (∀ id, (s.ring id).handed.map fst <+: (s.ring id).accepted
      ∧ (s.ring id).consumed <+: (s.ring id).accepted
      ∧ (s.ring id).handed.map fst = (s.ring id).consumed ++ inFlight s.cb id)
    ∧ ∀ macid ∈ [3], ∀ tid txReq,
      ((rtwPhlAddTxReq macid tid txReq s).1 = .resource
        ↔ (s.ring (macid, tid)).accepted.length - (s.ring (macid, tid)).consumed.length = 4095)
      ∧ ((rtwPhlAddTxReq macid tid txReq s).1 ≠ .resource →
        (rtwPhlAddTxReq macid tid txReq s).1 = .success
        ∧ ((rtwPhlAddTxReq macid tid txReq s).2.ring (macid, tid)).accepted
          = (s.ring (macid, tid)).accepted ++ [txReq]) :=
  tx_ring_lossless_fifo [3] (by decide) _ _ _

end Rtl8852be

import Rtl8852be.WdRing
import Rtl8852be.Lib.Run
import Mathlib.Data.List.Perm.Basic

/-!
# No WD page is lost

Every operation on the page lists takes a page from one place and puts it in another. While it
does, the page is in no list: `PagesInv` has a list of the pages held so.
-/

namespace Rtl8852be

open Function List CntQueue WdPageRing Nat

variable {ρ ω : Type*} {P : TxChan ρ ω → Prop}
variable {rest : List (WdPage ω)}

@[local simp] def WdPageRing.addrs (r : WdPageRing ρ ω) : List ℕ :=
  (r.idle.items ++ r.pending.items ++ r.busy.items ++ r.workRing).map WdPage.addr

/-- No page is lost or doubled. -/
structure PagesInv (pages held : List ℕ) (r : WdPageRing ρ ω) : Prop where
  perm : (held ++ r.addrs).Perm pages
  idle : r.idle.Counted
  pending : r.pending.Counted
  busy : r.busy.Counted
  work : r.workIdx < r.workRing.length

variable {pages : List ℕ}

section Lists

variable {r : WdPageRing ρ ω} {wd : WdPage ω}

lemma PagesInv.enqueueIdle (wd : WdPage ω) (h : PagesInv pages [wd.addr] r) :
    PagesInv pages [] (enqueueIdleWdPage wd r) := by
  refine { h with perm := .trans ?_ h.perm, idle := h.idle.pushTail _ }
  rw [perm_iff_count]
  intro a
  simp [enqueueIdleWdPage, pushTail_items, count_cons]
  omega

lemma PagesInv.enqueueBusy (wd : WdPage ω) (h : PagesInv pages [wd.addr] r) :
    PagesInv pages [] (enqueueBusyWdPage wd r) := by
  refine { h with perm := .trans ?_ h.perm, busy := h.busy.pushTail _ }
  rw [perm_iff_count]
  intro a
  simp [pushTail_items, count_cons]
  omega

lemma PagesInv.enqueuePending (wd : WdPage ω) (first : Bool) (h : PagesInv pages [wd.addr] r) :
    PagesInv pages [] (enqueuePendingWdPage wd first r) := by
  refine { h with perm := .trans ?_ h.perm, pending := ?_ }
  · rw [perm_iff_count]
    intro a
    cases first <;>
    · simp [pushTail_items, pushFront_items, count_cons]
      omega
  · cases first
    · exact h.pending.pushTail _
    · exact h.pending.pushFront _

lemma PagesInv.queryIdle (h : PagesInv pages [] r) (hr : r.idle.items = wd :: rest) :
    PagesInv pages [wd.addr] { r with idle := r.idle.dropFirst } := by
  refine { h with perm := .trans ?_ h.perm, idle := h.idle.dropFirst }
  rw [perm_iff_count]
  intro a
  simp [dropFirst_items, hr, count_cons]

lemma PagesInv.queryPending (h : PagesInv pages [] r) (hr : r.pending.items = wd :: rest) :
    PagesInv pages [wd.addr] { r with pending := r.pending.dropFirst } := by
  refine { h with perm := .trans ?_ h.perm, pending := h.pending.dropFirst }
  rw [perm_iff_count]
  intro a
  simp [dropFirst_items, hr, count_cons]
  omega

lemma PagesInv.takeBusy (h : PagesInv pages [] r) (hr : r.busy.items = wd :: rest) :
    PagesInv pages [wd.addr] { r with busy := r.busy.dropFirst } := by
  refine { h with perm := .trans ?_ h.perm, busy := h.busy.dropFirst }
  rw [perm_iff_count]
  intro a
  simp [dropFirst_items, hr, count_cons]
  omega

lemma perm_set_cons {β : Type*} {l : List β} {i : ℕ} (hi : i < l.length) (x : β) :
    (l[i] :: l.set i x).Perm (x :: l) :=
  ((set_perm_cons_eraseIdx hi x).cons _).trans
    ((List.Perm.swap _ _ _).trans ((getElem_cons_eraseIdx_perm hi).cons _))

lemma PagesInv.swapWork (h : PagesInv pages [wd.addr] r) :
    PagesInv pages [(r.workRing.get ⟨r.workIdx, h.work⟩).addr] { r with
      workRing := r.workRing.set r.workIdx wd
      workIdx := (r.workIdx + 1) % r.workRing.length } := by
  refine { h with perm := .trans ?_ h.perm, work := ?_ }
  · have hs := ((perm_set_cons h.work wd).map WdPage.addr)
    rw [perm_iff_count] at hs ⊢
    intro a
    have := hs a
    simp [count_cons] at this ⊢
    omega
  · simp
    exact mod_lt _ (by have := h.work; omega)

lemma PagesInv.enqueueWork (h : PagesInv pages [wd.addr] r) :
    PagesInv pages [] (enqueueWdWorkRing wd r) := by
  unfold enqueueWdWorkRing
  rw [getElem?_eq_getElem h.work]
  exact h.swapWork.enqueueIdle _

end Lists

section Release

variable {r : WdPageRing ρ ω}

section

variable (wd : WdPage ω) (r : WdPageRing ρ ω)

@[simp] lemma enqueueIdleWdPage_pending :
    (enqueueIdleWdPage wd r).pending = r.pending := rfl

@[simp] lemma enqueueIdleWdPage_busy :
    (enqueueIdleWdPage wd r).busy = r.busy := rfl

@[simp] lemma enqueueWdWorkRing_pending : (enqueueWdWorkRing wd r).pending = r.pending := by
  unfold enqueueWdWorkRing
  split <;> rfl

@[simp] lemma enqueueWdWorkRing_busy : (enqueueWdWorkRing wd r).busy = r.busy := by
  unfold enqueueWdWorkRing
  split <;> rfl

end

section

variable {P : WdPageRing ρ ω → Prop} (hP : ∀ r wd rest, P r → r.busy.items = wd :: rest →
  P (enqueueWdWorkRing wd { r with busy := r.busy.dropFirst }))
include hP

lemma releaseBusyLoop_rule :
    ∀ (k : ℕ) (pstatus : PhlStatus) (r : WdPageRing ρ ω), P r → P (releaseBusyLoop k pstatus r).2
  | 0, _, _, h => h
  | k + 1, pstatus, r, h => by
    unfold releaseBusyLoop
    split
    · exact h
    · rename_i hr
      exact releaseBusyLoop_rule k .success _ (hP r _ _ h hr)

lemma phlHandleBusyWd_rule (bndy hwIdx : ℕ) (r : WdPageRing ρ ω) (h : P r) :
    P (phlHandleBusyWd bndy hwIdx r).2 := by
  have hdone : ∀ r, P r → P (releaseDone bndy hwIdx r).2 := by
    intro r h
    unfold releaseDone
    split
    · exact h
    · exact releaseBusyLoop_rule hP _ _ _ h
  unfold phlHandleBusyWd
  split
  · exact h
  split
  · have hr := releaseBusyLoop_rule hP (r.busy.cnt - (bndy - 1)) .failure r h
    unfold rtwReleaseBusyWdPage
    split
    · rename_i heq
      rw [heq] at hr
      exact hdone _ hr
    · exact hr
  · exact hdone _ h

end

lemma releaseBusyLoop_items : ∀ (k : ℕ) (pstatus : PhlStatus) (r : WdPageRing ρ ω),
    (releaseBusyLoop k pstatus r).2.busy.items = r.busy.items.drop k
  | 0, _, _ => rfl
  | k + 1, pstatus, r => by
    unfold releaseBusyLoop
    split
    · rename_i hr
      simp [hr]
    · rename_i wd rest hr
      rw [releaseBusyLoop_items]
      simp [hr]

lemma phlHandleBusyWd_pending (bndy hwIdx : ℕ) (r : WdPageRing ρ ω) :
    (phlHandleBusyWd bndy hwIdx r).2.pending = r.pending :=
  phlHandleBusyWd_rule (P := fun r' => r'.pending = r.pending)
    (fun r' wd _ h _ => by simpa using h) bndy hwIdx r rfl

lemma PagesInv.releasePending : ∀ (k : ℕ) {r : WdPageRing ρ ω}, PagesInv pages [] r →
    PagesInv pages [] (rtwReleasePendingWdPage k r)
  | 0, _, h => h
  | k + 1, r, h => by
    unfold rtwReleasePendingWdPage queryPendingWdPage
    rcases hr : r.pending.items with _ | ⟨wd, rest⟩
    · exact h
    · exact PagesInv.releasePending k ((h.queryPending hr).enqueueIdle _)

lemma releasePending_items : ∀ (k : ℕ) (r : WdPageRing ρ ω),
    (rtwReleasePendingWdPage k r).pending.items = r.pending.items.drop k
      ∧ (rtwReleasePendingWdPage k r).busy = r.busy
  | 0, _ => ⟨rfl, rfl⟩
  | k + 1, r => by
    unfold rtwReleasePendingWdPage queryPendingWdPage
    rcases hr : r.pending.items with _ | ⟨wd, rest⟩
    · simp [hr]
    obtain ⟨hp, hb⟩ := releasePending_items k
      (enqueueIdleWdPage wd { r with pending := r.pending.dropFirst })
    simp
    exact ⟨by rw [hp]; simp [hr], by rw [hb]; rfl⟩

end Release

variable {b : TxBaseDesc} {n : ℕ}

/-- The indices are in the ring. -/
structure IdxInv (n : ℕ) (b : TxBaseDesc) : Prop where
  hostIdx_lt : b.hostIdx < n
  regHost_lt : b.regHostIdx < n
  regHw_lt : b.regHwIdx < n

lemma halGetAvailTxbd_eq (hn : n ≤ 0x1000) (hh : b.regHostIdx < n) (hw : b.regHwIdx < n) :
    halGetAvailTxbd n b = (phlCalcAvailWptr b.regHwIdx b.regHostIdx n, b.regHwIdx) := by
  unfold halGetAvailTxbd
  rw [mod_eq_of_lt (by omega), mod_eq_of_lt (by omega)]

lemma hwAdvance_rule {P : TxBaseDesc → Prop} (hP : ∀ b, P b → P (hwStep n b)) (k : ℕ)
    (h : P b) : P (hwAdvance n k b) :=
  Function.Iterate.rec P h hP k

lemma IdxInv.hwStep (h : IdxInv n b) : IdxInv n (hwStep n b) := by
  unfold Rtl8852be.hwStep
  split
  · exact h
  · exact { h with regHw_lt := mod_lt _ (zero_lt_of_lt h.hostIdx_lt) }

lemma hwStep_avail (hn : n ≤ 0x1000) (h : IdxInv n b) (ha : 0 < (halGetAvailTxbd n b).1) :
    0 < (halGetAvailTxbd n (hwStep n b)).1 := by
  have h' := h.hwStep
  rw [halGetAvailTxbd_eq hn h.regHost_lt h.regHw_lt] at ha
  rw [halGetAvailTxbd_eq hn h'.regHost_lt h'.regHw_lt]
  have hw := h.regHw_lt
  unfold hwStep
  split
  · exact ha
  simp only [phlCalcAvailWptr] at ha ⊢
  rcases lt_or_ge (b.regHwIdx + 1) n with hlt | hge
  · rw [mod_eq_of_lt hlt]
    split at ha <;> split <;> omega
  · rw [show b.regHwIdx + 1 = n by omega, mod_self]
    have := h.regHost_lt
    split at ha <;> split <;> omega

@[simp] lemma hwStep_submitted (n : ℕ) (b : TxBaseDesc) :
    (hwStep n b).submitted = b.submitted := by
  unfold hwStep
  split <;> rfl

@[simp] def putTxbd (n : ℕ) (wd : WdPage ω) (b : TxBaseDesc) : TxBaseDesc :=
  { b with
    hostIdx := (b.hostIdx + 1) % n
    txbd := update b.txbd b.hostIdx (some ⟨wd.bufLen, wd.ls, wd.addr⟩)
    submitted := b.submitted ++ [(wd.addr, b.hostIdx)] }

lemma halUpdateTxbd_one (wd : WdPage ω) (ha : 0 < (halGetAvailTxbd n b).1) :
    halUpdateTxbd n 1 wd b = ({ wd with hostIdx := (b.hostIdx + 1) % n }, putTxbd n wd b) := by
  unfold halUpdateTxbd
  rw [min_eq_left ha]
  rfl

lemma halUpdateTxbd_full (wd : WdPage ω) (ha : (halGetAvailTxbd n b).1 = 0) :
    halUpdateTxbd n 1 wd b = (wd, b) := by
  unfold halUpdateTxbd
  rw [ha]
  rfl

lemma IdxInv.put (h : IdxInv n b) (wd : WdPage ω) : IdxInv n (putTxbd n wd b) :=
  { h with hostIdx_lt := mod_lt _ (zero_lt_of_lt h.hostIdx_lt) }

section Channel

variable {c : TxChan ρ ω} {wd : WdPage ω}

/-- The pages of a channel, its descriptors, and their order. -/
structure ChanInv (n : ℕ) (pages : List ℕ) (c : TxChan ρ ω) : Prop where
  ring : PagesInv pages [] c.ring
  order : c.prepared = c.bd.submitted.map Prod.fst ++ c.ring.pending.items.map WdPage.addr
  idx : IdxInv n c.bd
  busy_lt : ∀ wd ∈ c.ring.busy.items, wd.hostIdx < n

lemma ChanInv.hwStep (h : ChanInv n pages c) : ChanInv n pages { c with bd := hwStep n c.bd } :=
  { h with order := by simpa using h.order, idx := h.idx.hwStep }

lemma chan_hwAdvance_rule (hP : ∀ c, P c → P { c with bd := hwStep n c.bd }) (k : ℕ) (h : P c) :
    P { c with bd := hwAdvance n k c.bd } :=
  hwAdvance_rule (P := fun b => P { c with bd := b }) (fun b hb => hP { c with bd := b } hb) k h

lemma submitWdPage_eq (wd : WdPage ω) (ha : 0 < (halGetAvailTxbd n c.bd).1) :
    submitWdPage n wd c = { c with
      bd := putTxbd n { wd with ls := true } c.bd
      ring :=
        enqueueBusyWdPage { wd with ls := true, hostIdx := (c.bd.hostIdx + 1) % n } c.ring } := by
  unfold submitWdPage
  rw [halUpdateTxbd_one _ ha]

lemma ChanInv.submit (h : ChanInv n pages c) (ha : 0 < (halGetAvailTxbd n c.bd).1)
    (hr : c.ring.pending.items = wd :: rest) :
    ChanInv n pages (submitWdPage n wd c.takePending) := by
  rw [submitWdPage_eq (c := c.takePending) wd ha]
  refine { h with
    ring := (h.ring.queryPending hr).enqueueBusy { wd with ls := true, hostIdx := _ }
    order := ?_, idx := h.idx.put _, busy_lt := ?_ }
  · simp [h.order, hr]
  intro w hw
  rcases mem_append.mp hw with hw | hw
  · exact h.busy_lt w hw
  · rw [mem_singleton.mp hw]
    exact (h.idx.put wd).hostIdx_lt

lemma ChanInv.putBack (h : ChanInv n pages c) (hr : c.ring.pending.items = wd :: rest) :
    ChanInv n pages (putBackWdPage wd c.takePending) := by
  refine { h with
    ring := (h.ring.queryPending hr).enqueuePending { wd with ls := true } true, order := ?_ }
  simp [h.order, hr, putBackWdPage]

/-- The rule for a pass over the pending list: `P left` holds with `left` pages to go. -/
lemma pendingLoop_rule {P : ℕ → TxChan ρ ω → Prop} (io : TxIo)
    (hhw : ∀ left c, P left c → P left { c with bd := hwStep n c.bd })
    (hsub : ∀ left c wd rest, P (left + 1) c → c.ring.pending.items = wd :: rest →
      P left (submitWdPage n wd c.takePending))
    (hback : ∀ left c wd rest, P left c → c.ring.pending.items = wd :: rest →
      P left (putBackWdPage wd c.takePending)) :
    ∀ (left cnt : ℕ) (pstatus : PhlStatus) (c : TxChan ρ ω),
      P left c → ∃ left', P left' (pendingLoop n io left cnt pstatus c).2
  | 0, _, _, _, h => ⟨0, h⟩
  | left + 1, cnt, pstatus, c, h => by
    have h' := chan_hwAdvance_rule (P := P (left + 1)) (hhw _) (io.hw cnt) h
    unfold pendingLoop queryPendingWdPage
    rcases hr : c.ring.pending.items with _ | ⟨wd, rest⟩
    · exact ⟨left + 1, by simpa [hr] using h'⟩
    simp [hr]
    split
    · exact pendingLoop_rule io hhw hsub hback left (cnt + 1) .success _ (hsub _ _ wd rest h' hr)
    · exact ⟨left + 1, hback _ _ wd rest h' hr⟩

lemma ChanInv.handlePending (hn : n ≤ 0x1000) (h : ChanInv n pages c)
    (ha : 0 < (halGetAvailTxbd n c.bd).1) (io : TxIo) (txcnt : ℕ) :
    ChanInv n pages (phlHandlePendingWd n io txcnt c).2 := by
  obtain ⟨-, hl, -⟩ := pendingLoop_rule (n := n) io
    (P := fun _ c => ChanInv n pages c ∧ 0 < (halGetAvailTxbd n c.bd).1)
    (fun _ c h => ⟨h.1.hwStep, hwStep_avail hn h.1.idx h.2⟩)
    (fun _ c wd rest h hr => ⟨h.1.submit h.2 hr, by
      rw [submitWdPage_eq (c := c.takePending) wd h.2]
      exact h.2⟩)
    (fun _ c wd rest h hr => ⟨h.1.putBack hr, h.2⟩) txcnt 0 .failure c ⟨h, ha⟩
  unfold phlHandlePendingWd
  split
  · rename_i heq
    rw [heq] at hl
    split
    · exact { hl with idx := { hl.idx with regHost_lt := hl.idx.hostIdx_lt } }
    · exact hl
  · exact hl

lemma ChanInv.recycleBusy (h : ChanInv n pages c) (hwIdx : ℕ) :
    ChanInv n pages (recycleBusyWd n hwIdx c).2 := by
  refine { h with
    ring := phlHandleBusyWd_rule (fun _ _ _ h hr => (PagesInv.takeBusy h hr).enqueueWork) n hwIdx _
      h.ring
    order := ?_, idx := { h.idx with }, busy_lt := ?_ }
  · simp only [recycleBusyWd, phlHandleBusyWd_pending]
    exact h.order
  · refine phlHandleBusyWd_rule (P := fun r => ∀ wd ∈ r.busy.items, wd.hostIdx < n) ?_ n hwIdx
      c.ring h.busy_lt
    intro r wd rest hb hr w hw
    rw [enqueueWdWorkRing_busy, dropFirst_items] at hw
    exact hb w (mem_of_mem_tail hw)

lemma ChanInv.tx (hn : n ≤ 0x1000) (h : ChanInv n pages c) (io : TxIo) :
    ChanInv n pages (phlTxPcieCh n io c).2 := by
  have hb := h.recycleBusy (halGetAvailTxbd n c.bd).2
  unfold phlTxPcieCh
  split
  · exact h
  simp only []
  split
  · exact hb
  split
  · exact hb
  split
  · exact hb
  · rename_i ha
    exact hb.handlePending hn (Nat.pos_of_ne_zero ha) io _

lemma ChanInv.prepare (h : ChanInv n pages c) (fill : ρ → ℕ → Option ω → ω × ℕ) (ok : Bool)
    (txReq : ρ) :
    ChanInv n pages (phlPrepareTxPcie fill ok txReq c).2 := by
  unfold phlPrepareTxPcie queryIdleWdPage
  split
  · exact h
  rcases hr : c.ring.idle.items with _ | ⟨wd, rest⟩
  · exact h
  have hq := h.ring.queryIdle hr
  simp
  split
  · refine { h with ring := ?_, order := ?_ }
    · have hp := hq.enqueuePending (wd.fill (fill txReq c.ring.wpSeq wd.wd)) false
      exact { hp with }
    · simp [acceptWdPage, h.order]
  · exact { h with ring := hq.enqueueIdle (wd.fill (fill txReq c.ring.wpSeq wd.wd)) }

lemma ChanInv.recyclePayload (h : ChanInv n pages c) (ok : Bool) (wpSeq : ℕ) :
    ChanInv n pages (phlRecyclePayload ok wpSeq c) := by
  unfold phlRecyclePayload
  split
  · exact h
  split
  · exact { h with ring := { h.ring with } }
  · exact h

lemma resetWpTag_rule (ok : ℕ → Bool)
    (hP : ∀ c wpSeq, P c → P (phlRecyclePayload (ok wpSeq) wpSeq c)) :
    ∀ (left wpSeq : ℕ) (c : TxChan ρ ω), P c → P (resetWpTag ok left wpSeq c)
  | 0, _, _, h => h
  | left + 1, wpSeq, c, h => resetWpTag_rule ok hP left (wpSeq + 1) _ (hP c wpSeq h)

def ChanInv.Emptied (n : ℕ) (pages : List ℕ) (c : TxChan ρ ω) : Prop :=
  ChanInv n pages c ∧ c.ring.pending.items = [] ∧ c.ring.busy.items = []

lemma ChanInv.Emptied.recyclePayload (h : Emptied n pages c) (ok : Bool) (wpSeq : ℕ) :
    Emptied n pages (phlRecyclePayload ok wpSeq c) := by
  refine ⟨h.1.recyclePayload _ _, ?_⟩
  unfold phlRecyclePayload
  split
  · exact h.2
  split <;> exact h.2

lemma ChanInv.reset (h : ChanInv n pages c) (ok : ℕ → Bool) :
    Emptied n pages (phlTxResetPcieCh ok c) := by
  have hb := releaseBusyLoop_rule (fun _ _ _ h hr => (PagesInv.takeBusy h hr).enqueueWork)
    c.ring.busy.cnt .failure c.ring h.ring
  obtain ⟨hp, hbusy⟩ := releasePending_items
    (releaseBusyLoop c.ring.busy.cnt .failure c.ring).2.pending.cnt
    (releaseBusyLoop c.ring.busy.cnt .failure c.ring).2
  have hp0 := hp.trans (drop_eq_nil_of_le (by rw [hb.pending]))
  have hb0 := (congrArg items hbusy).trans ((releaseBusyLoop_items _ _ _).trans
    (drop_eq_nil_of_le (by rw [h.ring.busy])))
  refine resetWpTag_rule ok (fun c wpSeq hc => hc.recyclePayload (ok wpSeq) wpSeq) _ _ _
    ⟨?_, hp0, hb0⟩
  exact { h with
    ring := hb.releasePending _
    order := by simp [phlResetTxbd, rtwReleaseBusyWdPage, hp0]
    idx := { h.idx with hostIdx_lt := zero_lt_of_lt h.idx.hostIdx_lt }
    busy_lt := by simp [rtwReleaseBusyWdPage, hb0] }

end Channel

section Runs

variable {total : ℕ} {cs : ℕ → TxChan ρ ω}

lemma forTxCh_apply (total : ℕ) (f : ℕ → TxChan ρ ω → TxChan ρ ω) (cs : ℕ → TxChan ρ ω)
    (ch : ℕ) : forTxCh total f cs ch = if ch < total then f ch (cs ch) else cs ch := by
  unfold forTxCh
  induction total generalizing ch with
  | zero => rfl
  | succ total ih =>
    rw [range_succ, foldl_append, foldl_cons, foldl_nil]
    rcases lt_trichotomy ch total with hlt | rfl | hgt
    · rw [update_of_ne hlt.ne, ih, if_pos hlt, if_pos (by omega)]
    · rw [update_self, ih, if_neg (by omega), if_pos (by omega)]
    · rw [update_of_ne hgt.ne', ih, if_neg (by omega), if_neg (by omega)]

lemma txChanInit_inv (hn : 0 < n) (work : List ℕ) (hwork : work ≠ []) :
    ChanInv n (pages ++ work) (txChanInit pages work : TxChan ρ ω) := by
  refine ⟨⟨?_, ?_, rfl, rfl, ?_⟩, rfl, ⟨hn, hn, hn⟩, by simp⟩
  · simp [Function.comp_def]
  · simp [CntQueue.Counted]
  · simpa using length_pos_iff.mpr hwork

lemma wdStep_inv (hn : n ≤ 0x1000) (fill : ρ → ℕ → Option ω → ω × ℕ) {pages : ℕ → List ℕ}
    (h : ∀ ch, ChanInv n (pages ch) (cs ch)) (e : WdEvent ρ) (ch : ℕ) :
    ChanInv n (pages ch) (wdStep n total fill cs e ch) := by
  -- a step that changes one channel only has to keep that one
  have hone : ∀ {ch' : ℕ} {c : TxChan ρ ω}, ChanInv n (pages ch') c →
      ChanInv n (pages ch) (update cs ch' c ch) := fun hc =>
    (forall_update_iff cs fun ch c => ChanInv n (pages ch) c).mpr ⟨hc, fun ch _ => h ch⟩ ch
  cases e with
  | prepare ch' ok txReq => exact hone ((h ch').prepare fill ok txReq)
  | tx io =>
    simp only [wdStep, phlTxPcie, forTxCh_apply]
    split
    · exact (h ch).tx hn (io ch)
    · exact h ch
  | report ch' ok wpSeq => exact hone ((h ch').recyclePayload ok wpSeq)
  | reset ok =>
    simp only [wdStep, phlTxResetPcie, forTxCh_apply]
    split
    · exact ((h ch).reset (ok ch)).1
    · exact h ch
  | hw ch' k =>
    exact hone
      (chan_hwAdvance_rule (P := ChanInv n (pages ch')) (fun _ => ChanInv.hwStep) k (h ch'))

lemma wdRun_inv (hn : 0 < n) (hn' : n ≤ 0x1000) (fill : ρ → ℕ → Option ω → ω × ℕ)
    (pages : ℕ → List ℕ) {work : ℕ → List ℕ} (hwork : ∀ ch, work ch ≠ [])
    (es : List (WdEvent ρ)) (ch : ℕ) :
    ChanInv n (pages ch ++ work ch)
      (Run.run (wdStep n total fill) (fun ch => txChanInit (pages ch) (work ch)) es ch) :=
  Run.run_inv_all _ (P := fun cs : ℕ → TxChan ρ ω => ∀ ch, ChanInv n (pages ch ++ work ch) (cs ch))
    (fun _ e h ch => wdStep_inv hn' fill h e ch) es _ (fun ch => txChanInit_inv hn _ (hwork ch)) ch

/-- Each page is in exactly one place, the counters are right, and pages get descriptors in the
order they were prepared. -/
theorem wd_pages_conserved (n total : ℕ) (hn : 2 ≤ n) (hn' : n ≤ 0x1000)
    (fill : ρ → ℕ → Option ω → ω × ℕ)
    (pages work : ℕ → List ℕ) (hwork : ∀ ch, work ch ≠ [])
    (hnodup : ∀ ch, (pages ch ++ work ch).Nodup) (es : List (WdEvent ρ)) (ch : ℕ) :
    let cs := Run.run (wdStep n total fill) (fun ch => txChanInit (pages ch) (work ch)) es
    let r := (cs ch).ring
    r.addrs.Perm (pages ch ++ work ch) ∧ r.addrs.Nodup
      ∧ r.idle.cnt = r.idle.items.length ∧ r.pending.cnt = r.pending.items.length
      ∧ r.busy.cnt = r.busy.items.length
      ∧ (cs ch).prepared = (cs ch).bd.submitted.map Prod.fst ++ r.pending.items.map WdPage.addr
      ∧ ∀ ok, ch < total → (wdStep n total fill cs (.reset ok) ch).ring.pending.items = []
          ∧ (wdStep n total fill cs (.reset ok) ch).ring.busy.items = [] := by
  intro cs r
  have hinv : ChanInv n (pages ch ++ work ch) (cs ch) :=
    wdRun_inv (by omega) hn' fill pages hwork es ch
  have h := hinv.ring
  refine ⟨h.perm, (h.perm.nodup_iff).mpr (hnodup ch), h.idle, h.pending, h.busy, hinv.order, ?_⟩
  intro ok hch
  simp only [wdStep, phlTxResetPcie, forTxCh_apply, if_pos hch]
  exact (hinv.reset (ok ch)).2

/-- Two requests prepared and the first sent; the descriptor update for the second fails. -/
def wdSampleRun : List (WdEvent ℕ) :=
  [.prepare 0 true 7, .tx fun _ => ⟨fun _ => 0, fun _ => true, true⟩, .hw 0 1,
    .prepare 0 true 8, .tx fun _ => ⟨fun _ => 0, fun _ => false, true⟩]

theorem wd_pages_conserved_sample :
    let cs := Run.run (wdStep 4 1 fun _ _ _ => ((), 128))
      (fun _ => (txChanInit [10, 11, 12] [20, 21] : TxChan ℕ Unit)) wdSampleRun
    (cs 0).ring.addrs = [12, 20, 11, 10, 21] ∧ (cs 0).ring.addrs.Perm [10, 11, 12, 20, 21]
      ∧ (cs 0).prepared = (cs 0).bd.submitted.map Prod.fst ++ [11] := by
  have h := wd_pages_conserved 4 1 (by decide) (by decide) (fun _ _ _ => ((), 128))
    (fun _ => [10, 11, 12]) (fun _ => [20, 21]) (by simp) (by simp) wdSampleRun 0
  exact ⟨by decide +kernel, h.1, h.2.2.2.2.2.1⟩

end Runs

/-!
## Descriptors between the driver and the hardware

The driver has put `submitted.length` addresses in descriptors and has rung the doorbell for the
first `R` of them; the hardware has consumed `H`, and the driver knows of `L` that it has.
-/

variable {L H R : ℕ}

structure BdInv (n L H R : ℕ) (b : TxBaseDesc) : Prop where
  hostIdx : b.hostIdx = b.submitted.length % n
  regHost : b.regHostIdx = R % n
  regHw : b.regHwIdx = H % n
  seen : L ≤ H
  rung : H ≤ R
  put : R ≤ b.submitted.length
  room : b.submitted.length < H + n
  fifo : Circ.Fifo 0 n (Option.map TxBd.addr ∘ b.txbd) (b.submitted.map Prod.fst) H
  slot : ∀ k p, b.submitted[k]? = some p → p.2 = k % n
  done : b.done = ((b.submitted.map Prod.fst).take H).drop L

lemma txBaseDescInit_inv (hn : 0 < n) : BdInv n 0 0 0 txBaseDescInit where
  hostIdx := rfl
  regHost := rfl
  regHw := rfl
  seen := le_rfl
  rung := le_rfl
  put := le_rfl
  room := by simpa [txBaseDescInit] using hn
  fifo := Circ.Fifo.start ..
  slot := by simp [txBaseDescInit]
  done := rfl

section

variable (h : BdInv n L H R b)
include h

lemma BdInv.avail (hn : n ≤ 0x1000) : halGetAvailTxbd n b = (n - 1 - (R - H), H % n) := by
  have hpos : 0 < n := by have := h.put; have := h.rung; have := h.room; omega
  rw [halGetAvailTxbd_eq hn (h.regHost ▸ mod_lt _ hpos) (h.regHw ▸ mod_lt _ hpos),
    h.regHost, h.regHw, phlCalcAvailWptr_eq h.rung (by have := h.put; have := h.room; omega)]

lemma BdInv.avail_pos (hn : n ≤ 0x1000)
    (hroom : b.submitted.length + 1 < H + n) : 0 < (halGetAvailTxbd n b).1 := by
  rw [h.avail hn]
  have hput := h.put
  have hrung := h.rung
  omega

lemma BdInv.hwStep : ∃ H', H ≤ H' ∧ BdInv n L H' R (hwStep n b) := by
  have hseen := h.seen
  have hrung := h.rung
  have hput := h.put
  have hroom := h.room
  unfold Rtl8852be.hwStep
  split
  · exact ⟨H, le_rfl, h⟩
  rename_i hne
  have hlt : H < R := by
    refine lt_of_le_of_ne hrung fun he => hne ?_
    rw [h.regHw, h.regHost, he]
  obtain ⟨a, ha, hs⟩ := h.fifo.next (by rw [length_map]; omega)
  refine ⟨H + 1, by omega, { h with
    regHw := ?_, seen := by omega, rung := hlt, room := ?_, fifo := ?_, done := ?_ }⟩
  · rw [h.regHw, mod_add_mod]
  · simp only []
    omega
  · exact h.fifo.take (by rw [length_map]; omega)
  have hs' : (b.txbd b.regHwIdx).map TxBd.addr = some a := by
    rwa [h.regHw]
  have hlen : L ≤ (take H (b.submitted.map Prod.fst)).length := by
    rw [length_take, length_map]
    omega
  rw [hs', h.done, take_add_one, ha, Option.toList_some, drop_append_of_le_length hlen]

lemma BdInv.putTxbd (hroom : b.submitted.length + 1 < H + n)
    (wd : WdPage ω) : BdInv n L H R (putTxbd n wd b) := by
  have hlen : (Rtl8852be.putTxbd n wd b).submitted.length = b.submitted.length + 1 := by
    simp
  have hput := h.put
  have hrung := h.rung
  refine { h with
    hostIdx := ?_, put := by omega, room := by omega, fifo := ?_, slot := ?_, done := ?_ }
  · rw [hlen]
    simp only [Rtl8852be.putTxbd]
    rw [h.hostIdx, mod_add_mod]
  · have hf := h.fifo.push (by rw [length_map]; omega) wd.addr
    simpa [Function.comp_update, h.hostIdx] using hf
  · intro k p hp
    rcases Circ.getElem?_concat_cases hp with hp | ⟨rfl, rfl⟩
    · exact h.slot k p hp
    · exact h.hostIdx
  · simp
    rw [take_append_of_le_length (by rw [length_map]; omega), ← h.done]

lemma BdInv.trigger : BdInv n L H b.submitted.length (halTriggerTxdma b) :=
  { h with regHost := h.hostIdx, rung := h.rung.trans h.put, put := le_rfl }

lemma BdInv.look : BdInv n H H R { b with done := [] } :=
  { h with seen := le_rfl, done := by simp }

end

def releaseCount (bndy hwIdx : ℕ) (idxs : List ℕ) : ℕ :=
  let excess := idxs.length - (bndy - 1)
  match idxs.drop excess with
  | [] => 0
  | target :: _ => excess + busyReleaseNum bndy hwIdx target

lemma busyReleaseNum_eq {i : ℕ} (hle : i ≤ H) (hlt : H < i + n) :
    busyReleaseNum n (H % n) ((i + 1) % n) = H - i := by
  obtain ⟨d, rfl⟩ := Nat.exists_eq_add_of_le hle
  have hi := Nat.mod_lt i (by omega : 0 < n)
  have hsucc := Circ.wrap_succ i (by omega : 0 < n)
  rw [busyReleaseNum, Circ.add_mod_eq i (by omega : d < n), ← hsucc, Nat.add_sub_cancel_left]
  rcases Nat.eq_zero_or_pos d with rfl | hd
  · -- no page: the sum before the remainder is taken is `n` itself
    split_ifs <;> first | omega | exact Nat.mod_eq_zero_of_dvd ⟨1, by omega⟩
  · split_ifs <;> first | omega | (rw [Nat.mod_eq_of_lt] <;> omega)

lemma releaseCount_eq {idxs : List ℕ} (hn : 2 ≤ n) (hL : L ≤ H) (hH : H ≤ L + idxs.length)
    (hroom : L + idxs.length < H + n)
    (hidx : ∀ i x, idxs[i]? = some x → x = (L + i + 1) % n) :
    releaseCount n (H % n) idxs = H - L := by
  unfold releaseCount
  simp only []
  split
  · rename_i hd
    have := drop_eq_nil_iff.mp hd
    omega
  · rename_i target rest hd
    have ht : idxs[idxs.length - (n - 1)]? = some target := by
      rw [← head?_drop, hd, head?_cons]
    rw [hidx _ _ ht, busyReleaseNum_eq (by omega) (by omega)]
    omega

end Rtl8852be

import Rtl8852be.Proofs.WdRing

/-!
# Taking back and sending

`phl_tx_pcie` takes back the pages whose descriptors are done and then sends the pending ones. It
takes back exactly those; but when none is done it sends nothing.
-/

namespace Rtl8852be

open List WdPage Option Nat

variable {ρ ω : Type*} {n L H R : ℕ} {c' : TxChan ρ ω} {wd : WdPage ω}
variable {rest : List (WdPage ω)} {txcnt left : ℕ}

section Busy

variable {r : WdPageRing ρ ω}

@[local simp] lemma releaseBusyLoop_status : ∀ (k : ℕ) (pstatus : PhlStatus) (r : WdPageRing ρ ω),
    (releaseBusyLoop k pstatus r).1 = if k = 0 ∨ r.busy.items = [] then pstatus else .success
  | 0, _, _ => by simp [releaseBusyLoop]
  | k + 1, pstatus, r => by
    unfold releaseBusyLoop
    split
    · rename_i hr
      simp [hr]
    · rename_i hr
      rw [releaseBusyLoop_status]
      simp [hr]

lemma releaseDone_spec (bndy hwIdx : ℕ) (hr : r.busy.items = wd :: rest) :
    (releaseDone bndy hwIdx r).2.busy.items
        = r.busy.items.drop (busyReleaseNum bndy hwIdx wd.hostIdx)
      ∧ (releaseDone bndy hwIdx r).1
        = if busyReleaseNum bndy hwIdx wd.hostIdx = 0 then .failure else .success := by
  have heq : releaseDone bndy hwIdx r
      = releaseBusyLoop (busyReleaseNum bndy hwIdx wd.hostIdx) .failure r := by
    unfold releaseDone rtwReleaseBusyWdPage
    rw [hr]
  rw [heq]
  refine ⟨releaseBusyLoop_items _ _ _, ?_⟩
  simp [hr, reduceCtorEq]

def oldestBusy (bndy : ℕ) (busy : List (WdPage ω)) : Option (WdPage ω) :=
  busy[busy.length - (bndy - 1)]?

lemma phlHandleBusyWd_spec (hn : 2 ≤ n) (hc : r.busy.Counted) (hwIdx : ℕ) :
    (phlHandleBusyWd n hwIdx r).2.busy.items
        = r.busy.items.drop (releaseCount n hwIdx (r.busy.items.map hostIdx))
      ∧ (phlHandleBusyWd n hwIdx r).1
        = if ∃ wd ∈ oldestBusy n r.busy.items, busyReleaseNum n hwIdx wd.hostIdx = 0
          then .failure else .success := by
  unfold phlHandleBusyWd
  rcases hr : r.busy.items with _ | ⟨wd₀, rest₀⟩
  · simp [hr, oldestBusy]
  rw [if_neg (by simp)]
  obtain ⟨wd, rest, hd⟩ : ∃ wd rest,
      r.busy.items.drop (r.busy.items.length - (n - 1)) = wd :: rest := by
    refine exists_cons_of_ne_nil fun hd => ?_
    have := drop_eq_nil_iff.mp hd
    rw [hr, length_cons] at this
    omega
  have hold : oldestBusy n r.busy.items = some wd := by
    rw [oldestBusy, ← head?_drop, hd, head?_cons]
  have hcount : releaseCount n hwIdx (r.busy.items.map hostIdx)
      = (r.busy.items.length - (n - 1)) + busyReleaseNum n hwIdx wd.hostIdx := by
    unfold releaseCount
    simp
    rw [← map_drop, hd, map_cons]
  rw [← hr, hold, hcount, ← drop_drop, ← hc]
  simp only [mem_def, some.injEq, exists_eq_left']
  rw [← hc] at hd
  split
  · -- more pages are busy than descriptors: those beyond are released first
    have hi := releaseBusyLoop_items (r.busy.cnt - (n - 1)) .failure r
    have hs := releaseBusyLoop_status (r.busy.cnt - (n - 1)) .failure r
    rw [if_neg (by rw [hr]; simp; omega)] at hs
    unfold rtwReleaseBusyWdPage
    rcases hb : releaseBusyLoop (r.busy.cnt - (n - 1)) .failure r with ⟨s, r'⟩
    rw [hb] at hi hs
    cases hs
    rw [← hi]
    exact releaseDone_spec n hwIdx (hi.trans hd)
  · rw [show r.busy.cnt - (n - 1) = 0 by omega, drop_zero] at hd ⊢
    exact releaseDone_spec n hwIdx hd

end Busy

section Pending

section

variable {P : ℕ → TxChan ρ ω → Prop} (hw : ℕ → ℕ)
  (hhw : ∀ left c, P left c → P left { c with bd := hwStep n c.bd })
  (hsub : ∀ left c wd rest, P (left + 1) c → c.ring.pending.items = wd :: rest →
    P left (submitWdPage n wd c.takePending))
  (hlen : ∀ left c, P left c → left ≤ c.ring.pending.items.length)
include hhw hsub hlen

lemma pendingLoop_succeed : ∀ (left cnt : ℕ) (pstatus : PhlStatus) (c : TxChan ρ ω), P left c →
      P 0 (pendingLoop n (.succeed hw) left cnt pstatus c).2
        ∧ (pendingLoop n (.succeed hw) left cnt pstatus c).1
          = if left = 0 then pstatus else .success
  | 0, _, _, _, h => ⟨h, rfl⟩
  | left + 1, cnt, pstatus, c, h => by
    have h' := chan_hwAdvance_rule (P := P (left + 1)) (hhw _) (hw cnt) h
    obtain ⟨wd, rest, hr⟩ : ∃ wd rest, c.ring.pending.items = wd :: rest := by
      refine exists_cons_of_ne_nil fun he => ?_
      have := hlen _ _ h
      rw [he, length_nil] at this
      omega
    have heq : pendingLoop n (.succeed hw) (left + 1) cnt pstatus c
        = pendingLoop n (.succeed hw) left (cnt + 1) .success
          (submitWdPage n wd { c with bd := hwAdvance n (hw cnt) c.bd }.takePending) := by
      simp [pendingLoop, hr, TxIo.succeed]
    obtain ⟨hP, hs⟩ := pendingLoop_succeed left (cnt + 1) .success _ (hsub _ _ wd rest h' hr)
    rw [heq]
    refine ⟨hP, ?_⟩
    rw [hs]
    simp

lemma phlHandlePendingWd_succeed {c : TxChan ρ ω} (h0 : txcnt ≠ 0) (h : P txcnt c) :
    ∃ c', P 0 c' ∧ phlHandlePendingWd n (.succeed hw) txcnt c
      = (.success, { c' with bd := halTriggerTxdma c'.bd }) := by
  obtain ⟨hP, hs⟩ := pendingLoop_succeed hw hhw hsub hlen txcnt 0 .failure c h
  unfold phlHandlePendingWd
  rcases hloop : pendingLoop n (.succeed hw) txcnt 0 .failure c with ⟨s, c'⟩
  rw [hloop, if_neg h0] at hs
  rw [hloop] at hP
  cases hs
  exact ⟨c', hP, rfl⟩

end

end Pending

variable {c : TxChan ρ ω}

section Recycle

structure DmaInv (n L H R : ℕ) (c : TxChan ρ ω) : Prop where
  bd : BdInv n L H R c.bd
  pending : c.ring.pending.Counted
  counted : c.ring.busy.Counted
  busy : c.ring.busy.items.map (fun wd => (wd.addr, wd.hostIdx))
    = (c.bd.submitted.drop L).map fun p => (p.1, (p.2 + 1) % n)

section

variable (h : DmaInv n L H R c)
include h

lemma DmaInv.busy_length : L + c.ring.busy.items.length = c.bd.submitted.length := by
  have hl := congrArg length h.busy
  rw [length_map, length_map, length_drop] at hl
  have := h.bd.seen
  have := h.bd.rung
  have := h.bd.put
  omega

lemma DmaInv.busy_idx {i x : ℕ}
    (hx : (c.ring.busy.items.map hostIdx)[i]? = some x) : x = (L + i + 1) % n := by
  have hp : (c.ring.busy.items.map hostIdx)[i]?
      = (c.bd.submitted[L + i]?).map fun p => (p.2 + 1) % n := by
    have := congrArg (fun l => (l.map Prod.snd)[i]?) h.busy
    simpa [Function.comp_def] using this
  rw [hx] at hp
  rcases hs : c.bd.submitted[L + i]? with _ | p
  · rw [hs] at hp
    cases hp
  · rw [hs, map_some, some.injEq] at hp
    rw [hp, h.bd.slot _ p hs, mod_add_mod]

lemma DmaInv.releaseCount (hn : 2 ≤ n) :
    releaseCount n (H % n) (c.ring.busy.items.map hostIdx) = H - L := by
  have hlen := h.busy_length
  have := h.bd.rung
  have := h.bd.put
  have := h.bd.room
  refine releaseCount_eq hn h.bd.seen ?_ ?_ fun i x hx => h.busy_idx hx
  · rw [length_map]
    omega
  · rw [length_map]
    omega

lemma DmaInv.recycle (hn : 2 ≤ n) : DmaInv n H H R (recycleBusyWd n (H % n) c).2 := by
  have hspec := (phlHandleBusyWd_spec hn h.counted (H % n)).1
  rw [h.releaseCount hn] at hspec
  refine ⟨h.bd.look, ?_, ?_, ?_⟩
  · simp only [recycleBusyWd, phlHandleBusyWd_pending]
    exact h.pending
  · refine phlHandleBusyWd_rule (P := fun r => r.busy.Counted) ?_ n (H % n) c.ring h.counted
    intro r wd rest hr _
    rw [enqueueWdWorkRing_busy]
    exact hr.dropFirst
  · simp only [recycleBusyWd]
    have hseen := h.bd.seen
    rw [hspec, map_drop, h.busy, ← map_drop, drop_drop, show L + (H - L) = H by omega]

lemma DmaInv.hwStep : ∃ H', H ≤ H' ∧ DmaInv n L H' R { c with bd := hwStep n c.bd } := by
  obtain ⟨H', hle, hb⟩ := h.bd.hwStep
  exact ⟨H', hle, hb, h.pending, h.counted, by simpa using h.busy⟩

end

lemma DmaInv.submit (wd : WdPage ω) (h : DmaInv n L H R c) (hn : n ≤ 0x1000)
    (hroom : c.bd.submitted.length + 1 < H + n) :
    DmaInv n L H R (submitWdPage n wd c.takePending) := by
  rw [submitWdPage_eq (c := c.takePending) wd (h.bd.avail_pos hn hroom)]
  refine ⟨h.bd.putTxbd hroom _, h.pending.dropFirst, h.counted.pushTail _, ?_⟩
  have hL : L ≤ c.bd.submitted.length := by have := h.busy_length; omega
  simp [h.busy, drop_append_of_le_length hL]

def Sending (n L R left : ℕ) (c : TxChan ρ ω) : Prop :=
  ∃ H, DmaInv n L H R c ∧ c.bd.submitted.length + left < H + n
    ∧ left ≤ c.ring.pending.items.length

lemma Sending.hwStep (h : Sending n L R left c) :
    Sending n L R left { c with bd := hwStep n c.bd } := by
  obtain ⟨H, hd, hroom, hp⟩ := h
  obtain ⟨H', hle, hd'⟩ := hd.hwStep
  exact ⟨H', hd', by rw [hwStep_submitted]; omega, hp⟩

lemma Sending.submit (hn : n ≤ 0x1000) (h : Sending n L R (left + 1) c)
    (hr : c.ring.pending.items = wd :: rest) :
    Sending n L R left (submitWdPage n wd c.takePending) := by
  obtain ⟨H, hd, hroom, hp⟩ := h
  have hsub := hd.submit wd hn (by omega)
  rw [submitWdPage_eq (c := c.takePending) wd (hd.bd.avail_pos hn (by omega))] at hsub ⊢
  refine ⟨H, hsub, ?_, ?_⟩
  · simp
    omega
  · rw [hr, length_cons] at hp
    simp [hr]
    omega

def Settled (n : ℕ) (c : TxChan ρ ω) : Prop := ∃ L H, DmaInv n L H c.bd.submitted.length c

lemma DmaInv.handlePending (h : DmaInv n L H c.bd.submitted.length c) (hn : n ≤ 0x1000)
    (hw : ℕ → ℕ) (hroom : c.bd.submitted.length + txcnt < H + n)
    (htx : txcnt ≤ c.ring.pending.cnt) :
    Settled n (phlHandlePendingWd n (.succeed hw) txcnt c).2 := by
  rcases eq_or_ne txcnt 0 with rfl | h0
  · exact ⟨L, H, h⟩
  obtain ⟨c', ⟨H', hd, -⟩, heq⟩ := phlHandlePendingWd_succeed (n := n) hw
    (fun _ _ => Sending.hwStep) (fun _ _ _ _ => Sending.submit hn) (fun _ _ ⟨_, h⟩ => h.2.2) h0
    ⟨H, h, hroom, h.pending ▸ htx⟩
  rw [heq]
  exact ⟨L, H', hd.bd.trigger, hd.pending, hd.counted, hd.busy⟩

lemma Settled.recycle (h : Settled n c) (hn : 2 ≤ n) (hn' : n ≤ 0x1000) :
    Settled n (recycleBusyWd n (halGetAvailTxbd n c.bd).2 c).2 := by
  obtain ⟨L, H, hd⟩ := h
  rw [hd.bd.avail hn']
  exact ⟨H, H, hd.recycle hn⟩

lemma Settled.handlePending (h : Settled n c) (hn : n ≤ 0x1000) (hw : ℕ → ℕ)
    (hres : txcnt ≤ (halGetAvailTxbd n c.bd).1) (htx : txcnt ≤ c.ring.pending.cnt) :
    Settled n (phlHandlePendingWd n (.succeed hw) txcnt c).2 := by
  obtain ⟨L, H, hd⟩ := h
  rw [hd.bd.avail hn] at hres
  refine hd.handlePending hn hw ?_ htx
  have := hd.bd.room
  omega

lemma Settled.tx (h : Settled n c) (hn : 2 ≤ n) (hn' : n ≤ 0x1000) (hw : ℕ → ℕ) :
    Settled n (phlTxPcieCh n (.succeed hw) c).2 := by
  have hb := h.recycle hn hn'
  unfold phlTxPcieCh
  split
  · exact h
  simp only []
  split
  · exact hb
  split
  · exact hb
  split
  · exact hb
  · exact hb.handlePending hn' hw (min_le_left _ _) (min_le_right _ _)

lemma Settled.prepare (h : Settled n c) (fill : ρ → ℕ → Option ω → ω × ℕ) (ok : Bool)
    (txReq : ρ) :
    Settled n (phlPrepareTxPcie fill ok txReq c).2 := by
  obtain ⟨L, H, hd⟩ := h
  unfold phlPrepareTxPcie queryIdleWdPage
  split
  · exact ⟨L, H, hd⟩
  rcases c.ring.idle.items with _ | ⟨wd, rest⟩
  · exact ⟨L, H, hd⟩
  simp
  split
  · exact ⟨L, H, hd.bd, hd.pending.pushTail _, hd.counted, hd.busy⟩
  · exact ⟨L, H, hd.bd, hd.pending, hd.counted, hd.busy⟩

lemma chanStep_settled (hn : 2 ≤ n) (hn' : n ≤ 0x1000) (fill : ρ → ℕ → Option ω → ω × ℕ)
    (c : TxChan ρ ω) (e : ChanEvent ρ) (h : Settled n c) : Settled n (chanStep n fill c e) := by
  cases e with
  | prepare ok txReq => exact h.prepare fill ok txReq
  | submit txcnt hw =>
    refine h.handlePending hn' hw ?_ ?_
    · exact (min_le_right _ _).trans (min_le_left _ _)
    · exact (min_le_right _ _).trans (min_le_right _ _)
  | recycle => exact h.recycle hn hn'
  | tx hw => exact h.tx hn hn' hw
  | hw k =>
    refine chan_hwAdvance_rule (P := Settled n) (fun c h => ?_) k h
    obtain ⟨L, H, hd⟩ := h
    obtain ⟨H', -, hd'⟩ := hd.hwStep
    exact ⟨L, H', by simpa using hd'⟩

/-- In every run exactly the pages whose descriptors the hardware has consumed are taken from the
front of the busy list. -/
theorem wd_recycle_exact (n : ℕ) (hn : 2 ≤ n) (hn' : n ≤ 0x1000) (fill : ρ → ℕ → Option ω → ω × ℕ)
    (pages work : List ℕ) (es : List (ChanEvent ρ)) :
    let c := Run.run (chanStep n fill) (txChanInit pages work : TxChan ρ ω) es
    c.ring.busy.items.map addr
        = c.bd.done ++ (chanStep n fill c .recycle).ring.busy.items.map addr
      ∧ c.ring.busy.items.map (fun wd => (wd.addr, wd.hostIdx))
        = (c.bd.submitted.drop (c.bd.submitted.length - c.ring.busy.items.length)).map
          fun p => (p.1, (p.2 + 1) % n) := by
  intro c
  have hs : Settled n c :=
    Run.run_inv_all _ (chanStep_settled hn hn' fill) es _
      ⟨0, 0, txBaseDescInit_inv (by omega), rfl, rfl, rfl⟩
  obtain ⟨L, H, hd⟩ := hs
  have hL := hd.busy_length
  have hseen := hd.bd.seen
  have hr := hd.recycle hn
  have haddr : ∀ {L H} {c : TxChan ρ ω}, DmaInv n L H c.bd.submitted.length c →
      c.ring.busy.items.map addr = (c.bd.submitted.map Prod.fst).drop L := by
    intro L H c hd
    simpa [Function.comp_def] using congrArg (map Prod.fst) hd.busy
  constructor
  · have hstep : chanStep n fill c .recycle = (recycleBusyWd n (H % n) c).2 := by
      simp only [chanStep, hd.bd.avail hn']
    rw [hstep, haddr hd, haddr hr, hd.bd.done]
    simp only [recycleBusyWd]
    rw [← drop_append_of_le_length, take_append_drop]
    rw [length_take, length_map]
    omega
  · rw [show c.bd.submitted.length - c.ring.busy.items.length = L by omega]
    exact hd.busy

def recycleSampleRun : List (ChanEvent ℕ) :=
  [.prepare true 1, .prepare true 2, .tx fun _ => 0, .hw 2, .prepare true 3, .prepare true 4,
    .recycle, .submit 2 fun _ => 0, .hw 1]

theorem wd_recycle_exact_sample :
    let c := Run.run (chanStep 3 fun _ _ _ => ((), 128))
      (txChanInit [10, 11, 12, 13] [20, 21] : TxChan ℕ Unit) recycleSampleRun
    c.ring.busy.items.map addr = [12, 13]
      ∧ c.ring.busy.items.map addr
        = c.bd.done
          ++ (chanStep 3 (fun _ _ _ => ((), 128)) c .recycle).ring.busy.items.map addr
      ∧ c.bd.done = [12] :=
  ⟨by decide +kernel, (wd_recycle_exact 3 (by decide) (by decide) (fun _ _ _ => ((), 128))
    [10, 11, 12, 13] [20, 21] recycleSampleRun).1, by decide +kernel⟩

end Recycle

/-- The first `k` pending pages got descriptors, and the doorbell was rung once. -/
structure Submits (k : ℕ) (c c' : TxChan ρ ω) : Prop where
  submitted : c'.bd.submitted.map Prod.fst
    = c.bd.submitted.map Prod.fst ++ (c.ring.pending.items.take k).map addr
  pending : c'.ring.pending.items = c.ring.pending.items.drop k
  doorbell : c'.bd.doorbells = c.bd.doorbells + 1

structure Sent (n k left : ℕ) (c c' : TxChan ρ ω) : Prop where
  le : left ≤ k
  length : k ≤ c.ring.pending.items.length
  idx : IdxInv n c'.bd
  avail : 0 < (halGetAvailTxbd n c'.bd).1
  submitted : c'.bd.submitted.map Prod.fst
    = c.bd.submitted.map Prod.fst ++ (c.ring.pending.items.take (k - left)).map addr
  pending : c'.ring.pending.items = c.ring.pending.items.drop (k - left)
  doorbell : c'.bd.doorbells = c.bd.doorbells

lemma Sent.hwStep {k : ℕ} (hn : n ≤ 0x1000) (h : Sent n k left c c') :
    Sent n k left c { c' with bd := hwStep n c'.bd } := by
  refine { h with
    idx := h.idx.hwStep, avail := hwStep_avail hn h.idx h.avail
    submitted := by simpa using h.submitted, doorbell := ?_ }
  rw [← h.doorbell]
  unfold Rtl8852be.hwStep
  split <;> rfl

lemma Sent.submit {k : ℕ} (h : Sent n k (left + 1) c c')
    (hr : c'.ring.pending.items = wd :: rest) :
    Sent n k left c (submitWdPage n wd c'.takePending) := by
  have hle := h.le
  have hsucc : k - left = k - (left + 1) + 1 := by omega
  rw [submitWdPage_eq (c := c'.takePending) wd h.avail]
  have hd : c.ring.pending.items.drop (k - (left + 1)) = wd :: rest := by rw [← h.pending, hr]
  refine { h with le := by omega, idx := h.idx.put _, submitted := ?_, pending := ?_ }
  · have hget : c.ring.pending.items[k - (left + 1)]? = some wd := by
      rw [← head?_drop, hd, head?_cons]
    simp [h.submitted, hsucc, take_add_one, hget]
  · simp [hr, hsucc]
    rw [← tail_drop, hd, tail_cons]

lemma phlHandlePendingWd_submits (hn : n ≤ 0x1000) (hidx : IdxInv n c.bd)
    (ha : 0 < (halGetAvailTxbd n c.bd).1) (hw : ℕ → ℕ) (txcnt : ℕ) (h0 : txcnt ≠ 0)
    (hlen : txcnt ≤ c.ring.pending.items.length) :
    Submits txcnt c (phlHandlePendingWd n (.succeed hw) txcnt c).2 := by
  obtain ⟨c', hs, heq⟩ := phlHandlePendingWd_succeed (n := n) hw
    (P := fun left c' => Sent n txcnt left c c')
    (fun _ _ => Sent.hwStep hn) (fun _ _ _ _ => Sent.submit)
    (fun left c' h => by
      have := h.le
      rw [h.pending, length_drop]
      omega) h0
    ⟨le_rfl, hlen, hidx, ha, by simp, by simp, rfl⟩
  rw [heq]
  exact ⟨by simpa [halTriggerTxdma] using hs.submitted, by simpa using hs.pending, by
    simp only [halTriggerTxdma]
    rw [hs.doorbell]⟩

lemma busyReleaseNum_eq_zero {hwIdx target : ℕ} (hw : hwIdx < n) (ht : target < n) :
    busyReleaseNum n hwIdx target = 0 ↔ target = (hwIdx + 1) % n := by
  have hpos : 0 < n := by omega
  have hsucc := Circ.wrap_succ (N := n) hwIdx hpos
  rw [mod_eq_of_lt hw] at hsucc
  unfold busyReleaseNum
  rw [← hsucc]
  split_ifs with h1 h2 h2
  · rw [show hwIdx - target + 1 = n - target by omega]
    rcases Nat.eq_zero_or_pos target with rfl | h0
    · simp
    · rw [mod_eq_of_lt (by omega)]
      omega
  · rw [mod_eq_of_lt (by omega)]
    omega
  · omega
  · rcases lt_or_ge (n - target + (hwIdx + 1)) n with hlt | hge
    · rw [mod_eq_of_lt hlt]
      omega
    · rw [show n - target + (hwIdx + 1) = n by omega, mod_self]
      omega

/-- Exactly when no page is busy or the hardware is past the descriptor of the oldest busy page. -/
theorem tx_work_conserving_iff (n total : ℕ) (hn : 2 ≤ n) (hn' : n ≤ 0x1000) {pages : List ℕ}
    (cs : ℕ → TxChan ρ ω) (ch : ℕ) (hch : ch < total) (hinv : ChanInv n pages (cs ch))
    (hpend : (cs ch).ring.pending.items ≠ []) (hres : 0 < (halGetAvailTxbd n (cs ch).bd).1)
    (hw : ℕ → ℕ → ℕ) :
    Submits (min (halGetAvailTxbd n (cs ch).bd).1 (cs ch).ring.pending.cnt) (cs ch)
        (phlTxPcie n (fun ch => .succeed (hw ch)) total cs ch)
      ↔ ∀ wd ∈ oldestBusy n (cs ch).ring.busy.items,
        wd.hostIdx ≠ ((cs ch).bd.regHwIdx + 1) % n := by
  rw [phlTxPcie, forTxCh_apply, if_pos hch]
  generalize cs ch = c at *
  have hcnt : c.ring.pending.cnt ≠ 0 := by
    rw [hinv.ring.pending]
    exact fun h => hpend (length_eq_zero_iff.mp h)
  have hstatus := (phlHandleBusyWd_spec hn hinv.ring.busy c.bd.regHwIdx).2
  have hhw : (halGetAvailTxbd n c.bd).2 = c.bd.regHwIdx := by
    rw [halGetAvailTxbd_eq hn' hinv.idx.regHost_lt hinv.idx.regHw_lt]
  have hb := hinv.recycleBusy c.bd.regHwIdx
  have hstalled : (∃ wd ∈ oldestBusy n c.ring.busy.items,
      busyReleaseNum n c.bd.regHwIdx wd.hostIdx = 0)
      ↔ ¬ ∀ wd ∈ oldestBusy n c.ring.busy.items, wd.hostIdx ≠ (c.bd.regHwIdx + 1) % n := by
    push Not
    refine exists_congr fun wd => and_congr_right fun hwd => ?_
    exact busyReleaseNum_eq_zero hinv.idx.regHw_lt (hinv.busy_lt wd (mem_of_getElem? hwd))
  have hpb : (recycleBusyWd n c.bd.regHwIdx c).2.ring.pending = c.ring.pending := by
    simp only [recycleBusyWd, phlHandleBusyWd_pending]
  unfold phlTxPcieCh
  rw [if_neg (fun h => hcnt h.1)]
  simp only [hhw, hpb]
  rw [if_neg hpend]
  constructor
  · intro hsub
    by_contra hcon
    have hf : (recycleBusyWd n c.bd.regHwIdx c).1 = .failure := by
      simp only [recycleBusyWd]
      rw [hstatus, if_pos (hstalled.mpr hcon)]
    rw [if_pos hf] at hsub
    -- the doorbell is not rung
    have := hsub.doorbell
    simp only [recycleBusyWd] at this
    omega
  · intro hall
    have hs : (recycleBusyWd n c.bd.regHwIdx c).1 = .success := by
      simp only [recycleBusyWd]
      rw [hstatus, if_neg (fun h => hstalled.mp h hall)]
    rw [if_neg (by rw [hs]; simp), if_neg (by omega)]
    have hsub := phlHandlePendingWd_submits (c := (recycleBusyWd n c.bd.regHwIdx c).2) hn' hb.idx
      hres (hw ch) (min (halGetAvailTxbd n c.bd).1 c.ring.pending.cnt) (by omega)
      (by rw [hpb, hinv.ring.pending]; exact min_le_right _ _)
    exact ⟨hsub.submitted.trans (by rw [hpb]; rfl), hsub.pending.trans (by rw [hpb]), hsub.doorbell⟩

def workSample (k : ℕ) : ℕ → TxChan ℕ Unit :=
  Run.run (wdStep 4 1 fun _ _ _ => ((), 128)) (fun _ => txChanInit [10, 11] [20])
    [.prepare 0 true 1, .tx fun _ => .succeed fun _ => 0, .prepare 0 true 2, .hw 0 k]

theorem tx_work_conserving_sample : Submits 1 (workSample 1 0)
      (phlTxPcie 4 (fun _ => .succeed fun _ => 0) 1 (workSample 1) 0) := by
  have hinv : ChanInv 4 [10, 11, 20] (workSample 1 0) :=
    wdRun_inv (n := 4) (by decide) (by decide) _ (fun _ => [10, 11])
      (show ∀ _ : ℕ, [20] ≠ [] by simp) _ 0
  exact (tx_work_conserving_iff 4 1 (by decide) (by decide) (workSample 1) 0 (by decide) hinv
    (by decide +kernel) (by decide +kernel) fun _ _ => 0).mpr (by decide +kernel)

/-- With the first page not done, two descriptors are free and the second page stays. -/
theorem tx_stalls_when_none_done : (workSample 0 0).ring.pending.items.map addr = [11]
      ∧ (halGetAvailTxbd 4 (workSample 0 0).bd).1 = 2
      ∧ (phlTxPcie 4 (fun _ => .succeed fun _ => 0) 1 (workSample 0) 0).ring.pending.items.map
        addr = [11]
      ∧ ¬ Submits 1 (workSample 0 0)
        (phlTxPcie 4 (fun _ => .succeed fun _ => 0) 1 (workSample 0) 0) := by
  refine ⟨by decide +kernel, by decide +kernel, by decide +kernel, fun h => ?_⟩
  have hbell := h.doorbell
  exact absurd hbell (by decide +kernel)

end Rtl8852be

import Rtl8852be.RxBuf
import Rtl8852be.Lib.Run

/-!
# No receive buffer is lost

On every path of a poll a buffer that was taken from the busy list goes back to its front, or to the
idle list, or stays attached to the packet object that was taken with it.
-/

namespace Rtl8852be

open Function List CntQueue RxSys Nat Bool

variable {rest : List ℕ} {free : ℕ → ℕ}

def attached (ch : ℕ) (pkts : List PhlRxPkt) : List ℕ :=
  pkts.filterMap fun p => if p.dmaCh = ch then p.rxbufPtr else none

lemma attached_append (ch : ℕ) (l l' : List PhlRxPkt) :
    attached ch (l ++ l') = attached ch l ++ attached ch l' := filterMap_append

lemma attached_single {ch b : ℕ} {p : PhlRxPkt} (hp : p.rxbufPtr = some b) :
    attached ch [p] = if p.dmaCh = ch then [b] else [] := by
  unfold attached
  split <;> simp_all

/-- `att` of the buffers are attached to objects, and the busy ones are in the last descriptors
written, in that order. `free` descriptors are still to fill. -/
structure RxChanInv (n free : ℕ) (bufs att : List ℕ) (c : RxChan) : Prop where
  perm : (c.idle.items ++ c.busy.items ++ att).Perm bufs
  idle : c.idle.Counted
  busy : c.busy.Counted
  hostIdx : c.hostIdx = c.mapped.length % n
  room : c.busy.items.length + free ≤ n
  suffix : c.busy.items <:+ c.mapped
  fifo : Circ.Fifo 0 n c.rxbd c.mapped (c.mapped.length - c.busy.items.length)

variable {b n : ℕ}

section Channel

variable {free : ℕ} {bufs att : List ℕ} {c : RxChan}

lemma RxChanInv.enqueueIdle (h : RxChanInv n free bufs (b :: att) c) :
    RxChanInv n free bufs att (enqueueIdleRxBuf b c) := by
  refine { h with perm := .trans ?_ h.perm, idle := h.idle.pushTail b }
  rw [perm_iff_count]
  intro a
  simp [enqueueIdleRxBuf, pushTail_items, count_cons]
  omega

lemma RxChanInv.takeBusy (h : RxChanInv n free bufs att c) (hr : c.busy.items = b :: rest) :
    RxChanInv n (free + 1) bufs (b :: att) (queryBusyRxBuf c).2 := by
  have hroom := h.room
  have hlen := h.suffix.length_le
  rw [hr, length_cons] at hroom hlen
  have hf := h.fifo.take (by rw [hr, length_cons]; omega)
  refine { h with
    perm := .trans ?_ h.perm, busy := h.busy.dropFirst, room := ?_, suffix := ?_, fifo := ?_ }
  · rw [perm_iff_count]
    intro a
    simp [queryBusyRxBuf, dropFirst_items, hr, count_cons]
    omega
  · simp [queryBusyRxBuf, dropFirst_items, hr]
    omega
  · simp only [queryBusyRxBuf, dropFirst_items]
    exact (tail_suffix _).trans h.suffix
  · simp [queryBusyRxBuf, dropFirst_items, hr]
    rw [hr, length_cons] at hf
    rwa [show c.mapped.length - (rest.length + 1) + 1 = c.mapped.length - rest.length by omega]
      at hf

lemma queryBusy_putBack (hc : c.busy.Counted) (hr : c.busy.items = b :: rest) :
    enqueueBusyRxBuf b true (queryBusyRxBuf c).2 = c := by
  have hcnt : c.busy.cnt = rest.length + 1 := by rw [hc, hr, length_cons]
  obtain ⟨idle, ⟨items, cnt⟩, hostIdx, rxbd, mapped⟩ := c
  subst hr hcnt
  rfl

lemma RxChanInv.mapIdle (h : RxChanInv n (free + 1) bufs att c) (hr : c.idle.items = b :: rest) :
    RxChanInv n free bufs att
      (enqueueBusyRxBuf b false (halUpdateRxbd n b (queryIdleRxBuf c).2)) := by
  have hroom := h.room
  have hf := h.fifo.push (by omega) b
  rw [add_zero, ← h.hostIdx] at hf
  refine ⟨.trans ?_ h.perm, h.idle.dropFirst, h.busy.pushTail b, ?_, ?_, ?_, ?_⟩
  · rw [perm_iff_count]
    intro a
    simp [enqueueBusyRxBuf, halUpdateRxbd, false_eq_true, pushTail_items,
      dropFirst_items, hr, count_cons]
    omega
  · simp [enqueueBusyRxBuf, halUpdateRxbd]
    rw [h.hostIdx, mod_add_mod]
  · simp [enqueueBusyRxBuf, halUpdateRxbd, false_eq_true, pushTail_items]
    omega
  · obtain ⟨t, ht⟩ := h.suffix
    refine ⟨t, ?_⟩
    simp [enqueueBusyRxBuf, halUpdateRxbd, pushTail_items]
    rw [← append_assoc, ht]
  · simp only [enqueueBusyRxBuf, halUpdateRxbd, queryIdleRxBuf, false_eq_true, if_false,
      pushTail_items, length_append, length_singleton]
    rwa [show c.mapped.length + 1 - (c.busy.items.length + 1)
      = c.mapped.length - c.busy.items.length by omega]

lemma RxChanInv.weaken (h : RxChanInv n free bufs att c) {free' : ℕ} (hle : free' ≤ free) :
    RxChanInv n free' bufs att c :=
  { h with room := by have := h.room; omega }

lemma RxChanInv.refill : ∀ (k : ℕ) {c : RxChan}, RxChanInv n k bufs att c →
    RxChanInv n 0 bufs att (phlRefillRxbd n k c)
  | 0, _, h => h
  | k + 1, c, h => by
    unfold phlRefillRxbd
    rcases hr : c.idle.items with _ | ⟨b, rest⟩
    · simp [hr]
      exact h.weaken (zero_le _)
    · have := refill k (h.mapIdle hr)
      simpa [hr] using this

lemma phlReleaseBusyRxBuf_spec : ∀ (k : ℕ) (c : RxChan), c.idle.Counted → c.busy.Counted →
    (phlReleaseBusyRxBuf k c).idle.items = c.idle.items ++ c.busy.items.take k
      ∧ (phlReleaseBusyRxBuf k c).busy.items = c.busy.items.drop k
      ∧ (phlReleaseBusyRxBuf k c).idle.Counted ∧ (phlReleaseBusyRxBuf k c).busy.Counted
      ∧ (phlReleaseBusyRxBuf k c).hostIdx = c.hostIdx
      ∧ (phlReleaseBusyRxBuf k c).mapped = c.mapped
  | 0, c, hi, hb => by simp [phlReleaseBusyRxBuf, hi, hb]
  | k + 1, c, hi, hb => by
    unfold phlReleaseBusyRxBuf
    rcases hr : c.busy.items with _ | ⟨b, rest⟩
    · simp [queryBusyRxBuf, hr, hi, hb]
    · have ih := phlReleaseBusyRxBuf_spec k (enqueueIdleRxBuf b (queryBusyRxBuf c).2)
        (hi.pushTail b) hb.dropFirst
      simpa [queryBusyRxBuf, enqueueIdleRxBuf, hr] using ih

lemma RxChanInv.reset (h : RxChanInv n free bufs att c) :
    RxChanInv n n bufs att (phlReleaseBusyRxBuf (phlResetRxbd c).busy.cnt (phlResetRxbd c)) := by
  obtain ⟨hi, hb, hic, hbc, hh, hm⟩ :=
    phlReleaseBusyRxBuf_spec (phlResetRxbd c).busy.cnt (phlResetRxbd c) h.idle h.busy
  have hcnt : (phlResetRxbd c).busy.cnt = c.busy.items.length := h.busy
  rw [hcnt] at hi hb hic hbc hh hm ⊢
  have hi' := hi.trans (congrArg _ (take_length (l := c.busy.items)))
  have hb' := hb.trans (drop_length (l := c.busy.items))
  refine ⟨?_, hic, hbc, ?_, ?_, ?_, ?_⟩
  · rw [hi', hb', append_nil]
    exact h.perm
  · rw [hh, hm]
    exact (zero_mod n).symm
  · rw [hb', length_nil, zero_add]
  · rw [hb']
    exact nil_suffix
  · rw [hb', show _ = [] from hm]
    exact Circ.Fifo.start ..

lemma RxChanInv.busy_mapped (h : RxChanInv n free bufs att c) {j : ℕ}
    (hj : c.busy.items[j]? = some b) :
    c.rxbd ((c.hostIdx + n - c.busy.items.length + j) % n) = some b := by
  have hroom := h.room
  have hlen := h.suffix.length_le
  obtain ⟨t, ht⟩ := h.suffix
  have htl : t.length = c.mapped.length - c.busy.items.length := by
    rw [← ht, List.length_append]
    omega
  have hk : c.mapped[t.length + j]? = some b := by
    rwa [← ht, getElem?_append_right (by omega), Nat.add_sub_cancel_left]
  have hheld := h.fifo.held _ b (by omega) hk
  rw [htl, Nat.add_zero] at hheld
  have hidx : (c.hostIdx + n - c.busy.items.length + j) % n
      = (c.mapped.length - c.busy.items.length + j) % n := by
    rw [h.hostIdx, show c.mapped.length % n + n - c.busy.items.length + j
      = c.mapped.length % n + (n - c.busy.items.length + j) by omega, Nat.mod_add_mod,
      show c.mapped.length + (n - c.busy.items.length + j)
        = c.mapped.length - c.busy.items.length + j + n by omega, Nat.add_mod_right]
  rwa [hidx]

end Channel

structure RxInv (n : ℕ) (free : ℕ → ℕ) (bufs : ℕ → List ℕ) (pkts : List ℕ) (s : RxSys) : Prop where
  chan : ∀ ch, RxChanInv n (free ch) (bufs ch) (attached ch s.inUse) (s.chans ch)
  objs : ((s.pktIdle.items ++ s.inUse).map PhlRxPkt.id).Perm pkts
  counted : s.pktIdle.Counted
  bare : ∀ p ∈ s.pktIdle.items, p.rxbufPtr = none
  holds : ∀ p ∈ s.inUse, ∃ b, p.rxbufPtr = some b

variable {s : RxSys} {pkts : List ℕ} {ch : ℕ} {p : PhlRxPkt}

section Objects

variable {bufs : ℕ → List ℕ}

lemma RxChanInv.of_perm {att att' bs : List ℕ} {c : RxChan} {k : ℕ}
    (h : RxChanInv n k bs att c) (hp : att'.Perm att) : RxChanInv n k bs att' c :=
  { h with perm := (hp.append_left _).trans h.perm }

lemma RxInv.setChan {c : RxChan} {k : ℕ} (h : RxInv n free bufs pkts s)
    (hc : RxChanInv n k (bufs ch) (attached ch s.inUse) c) :
    RxInv n (update free ch k) bufs pkts (s.setChan ch c) := by
  refine { h with chan := fun ch' => ?_ }
  rcases eq_or_ne ch' ch with rfl | hne
  · simpa [RxSys.setChan] using hc
  · simpa [RxSys.setChan, hne] using h.chan ch'

lemma RxInv.recycle (l l' : List PhlRxPkt)
    (h : RxInv n free bufs pkts { s with inUse := l ++ p :: l' }) :
    RxInv n free bufs pkts (phlRecycleRxBuf p { s with inUse := l ++ l' }) := by
  obtain ⟨b, hb⟩ := h.holds p (by simp)
  have hatt : ∀ ch,
      (attached ch [p] ++ attached ch (l ++ l')).Perm (attached ch (l ++ p :: l')) := by
    intro ch
    rw [← attached_append, singleton_append]
    exact List.Perm.filterMap _ perm_middle.symm
  unfold phlRecycleRxBuf
  rw [hb]
  refine ⟨fun ch => ?_, .trans ?_ h.objs, h.counted.pushTail _, ?_, ?_⟩
  · have hc := (h.chan ch).of_perm (hatt ch)
    rw [attached_single hb] at hc
    rcases eq_or_ne ch p.dmaCh with rfl | hne
    · rw [if_pos rfl] at hc
      simpa [phlReleasePhlRx, phlReleaseTargetRxBuf, RxSys.setChan] using hc.enqueueIdle
    · rw [if_neg hne.symm] at hc
      simpa [phlReleasePhlRx, phlReleaseTargetRxBuf, RxSys.setChan, hne] using hc
  · rw [perm_iff_count]
    intro a
    simp [phlReleasePhlRx, phlReleaseTargetRxBuf, RxSys.setChan, pushTail_items, count_cons]
    omega
  · intro q hq
    rcases mem_append.mp hq with hq | hq
    · exact h.bare q hq
    · rw [mem_singleton.mp hq]
  · intro q hq
    refine h.holds q ?_
    rcases mem_append.mp hq with hq | hq
    · exact mem_append_left _ hq
    · exact mem_append_right _ (mem_cons_of_mem _ hq)

lemma RxInv.recycleLast (h : RxInv n free bufs pkts { s with inUse := s.inUse ++ [p] }) :
    RxInv n free bufs pkts (phlRecycleRxBuf p s) := by
  have := h.recycle s.inUse []
  rwa [append_nil] at this

section

variable (h : RxInv n free bufs pkts s)
include h

lemma RxInv.ret (i : ℕ) : RxInv n free bufs pkts (rtwPhlReturnRxbuf i s) := by
  unfold rtwPhlReturnRxbuf
  split
  · exact h
  rename_i p hp
  obtain ⟨hi, rfl⟩ := List.getElem?_eq_some_iff.mp hp
  rw [List.eraseIdx_eq_take_drop_succ]
  refine recycle _ _ ?_
  rwa [← List.drop_eq_getElem_cons hi, List.take_append_drop]

lemma RxInv.returnAll (is : List ℕ) : RxInv n free bufs pkts (returnAll is s) :=
  Run.run_inv_all (P := RxInv n free bufs pkts) (fun s i => rtwPhlReturnRxbuf i s)
    (fun _ i h => ret h i) is s h

lemma RxInv.release {rest : List PhlRxPkt}
    (hr : s.pktIdle.items = p :: rest) {q : PhlRxPkt} (hq : q.id = p.id) :
    RxInv n free bufs pkts (phlReleasePhlRx q { s with pktIdle := s.pktIdle.dropFirst }) := by
  refine { h with objs := .trans ?_ h.objs, counted := h.counted.dropFirst.pushTail _, bare := ?_ }
  · rw [perm_iff_count]
    intro a
    simp [phlReleasePhlRx, pushTail_items, dropFirst_items, hr, count_cons, hq]
    omega
  · intro x hx
    rcases mem_append.mp hx with hx | hx
    · rw [dropFirst_items] at hx
      exact h.bare x (mem_of_mem_tail hx)
    · rw [mem_singleton.mp hx]

lemma RxInv.take {rest : List PhlRxPkt} {brest : List ℕ}
    (hr : s.pktIdle.items = p :: rest) (hb : (s.chans ch).busy.items = b :: brest) :
    RxInv n (update free ch (free ch + 1)) bufs pkts
      { chans := update s.chans ch (queryBusyRxBuf (s.chans ch)).2
        pktIdle := s.pktIdle.dropFirst
        inUse := s.inUse ++ [{ p with rxbufPtr := some b, dmaCh := ch }] } := by
  have hatt : ∀ ch', attached ch' (s.inUse ++ [{ p with rxbufPtr := some b, dmaCh := ch }])
      = attached ch' s.inUse ++ if ch = ch' then [b] else [] := by
    intro ch'
    rw [attached_append, attached_single rfl]
  refine ⟨fun ch' => ?_, .trans ?_ h.objs, h.counted.dropFirst, ?_, ?_⟩
  · rw [hatt]
    rcases eq_or_ne ch' ch with rfl | hne
    · simpa using ((h.chan ch').takeBusy hb).of_perm (perm_append_singleton b _)
    · rw [if_neg hne.symm]
      simpa [hne] using h.chan ch'
  · rw [perm_iff_count]
    intro a
    simp [dropFirst_items, hr, count_cons]
    omega
  · intro x hx
    rw [dropFirst_items] at hx
    exact h.bare x (mem_of_mem_tail hx)
  · intro x hx
    rcases mem_append.mp hx with hx | hx
    · exact h.holds x hx
    · rw [mem_singleton.mp hx]
      exact ⟨b, rfl⟩

end

end Objects

section Polling

variable {bufs : ℕ → List ℕ}

lemma RxSys.setChan_none (hb : (s.chans ch).busy.items = []) :
    s.setChan ch (queryBusyRxBuf (s.chans ch)).2 = s := by
  have hq : (queryBusyRxBuf (s.chans ch)).2 = s.chans ch := by
    simp only [queryBusyRxBuf, dropFirst_nil hb]
  rw [hq, setChan, update_eq_self]

lemma RxSys.setChan_putBack (hc : (s.chans ch).busy.Counted)
    (hb : (s.chans ch).busy.items = b :: rest) :
    (s.setChan ch (queryBusyRxBuf (s.chans ch)).2).setChan ch
      (enqueueBusyRxBuf b true (queryBusyRxBuf (s.chans ch)).2) = s := by
  rw [queryBusy_putBack hc hb, setChan, setChan, update_idem, update_eq_self]

lemma phlGetSingleRx_spec (h : RxInv n free bufs pkts s) (wk : Bool) (ch : ℕ) (o : RxOutcome) :
    ∃ s', (phlGetSingleRx wk ch o s = (.failure, none, s') ∧ RxInv n free bufs pkts s')
      ∨ (phlGetSingleRx wk ch o s = (.frameDrop, none, s')
        ∧ RxInv n (update free ch (free ch + 1)) bufs pkts s')
      ∨ ∃ p, phlGetSingleRx wk ch o s = (.success, some p, s')
        ∧ RxInv n (update free ch (free ch + 1)) bufs pkts
          { s' with inUse := s'.inUse ++ [{ p with dmaCh := ch }] } := by
  have hcnt := (h.chan ch).busy
  have hchan : (rtwPhlQueryPhlRx s).2.chans ch = s.chans ch := rfl
  have hb₁ : (queryBusyRxBuf (s.chans ch)).1 = (s.chans ch).busy.items.head? := rfl
  have hp₁ : (rtwPhlQueryPhlRx s).1 = s.pktIdle.items.head? := rfl
  unfold phlGetSingleRx
  rcases hp : s.pktIdle.items with _ | ⟨p, prest⟩
  · -- no object: a buffer that was taken goes back to the front
    have hs : (rtwPhlQueryPhlRx s).2 = s := by
      simp only [rtwPhlQueryPhlRx, dropFirst_nil hp]
    refine ⟨s, .inl ⟨?_, h⟩⟩
    rcases hb : (s.chans ch).busy.items with _ | ⟨b, brest⟩
    · simp [hp₁, hp, hs, hb₁, hb, setChan_none hb]
    · simp [hp₁, hp, hs, hb₁, hb, setChan_putBack hcnt hb]
  · rcases hb : (s.chans ch).busy.items with _ | ⟨b, brest⟩
    · refine ⟨_, .inl ⟨?_, h.release hp rfl⟩⟩
      have hs := setChan_none (s := (rtwPhlQueryPhlRx s).2) hb
      rw [hchan] at hs
      simp [hp₁, hp, hchan, hb₁, hb, hs]
      rfl
    · simp [hp₁, hp, hchan, hb₁, hb]
      have htake := h.take hp hb
      split
      · have hs := setChan_putBack (s := (rtwPhlQueryPhlRx s).2) hcnt hb
        rw [hchan] at hs
        rw [hs]
        exact ⟨_, .inl ⟨rfl, h.release hp rfl⟩⟩
      · split
        · exact ⟨_, .inr (.inl ⟨rfl, RxInv.recycleLast htake⟩)⟩
        · exact ⟨_, .inr (.inr ⟨_, rfl, htake⟩)⟩

lemma RxInv.process (o : RxOutcome)
    (h : RxInv n free bufs pkts { s with inUse := s.inUse ++ [p] }) :
    RxInv n free bufs pkts (phlRxProcessPcie o p s) := by
  unfold phlRxProcessPcie
  split
  · exact h
  all_goals exact h.recycleLast

lemma RxInv.loop (wk : Bool) (o : ℕ → RxOutcome) : ∀ (left i : ℕ) {s : RxSys},
    RxInv n (update (fun _ => 0) ch i) bufs pkts s →
      RxInv n (update (fun _ => 0) ch (rxLoop wk ch o left i s).1) bufs pkts
        (rxLoop wk ch o left i s).2
  | 0, _, _, h => h
  | left + 1, i, s, h => by
    have hbump : update (update (fun _ => 0) ch i) ch
        (update (fun _ => 0) ch i ch + 1) = update (fun _ => 0) ch (i + 1) := by
      rw [update_self, update_idem]
    unfold rxLoop
    obtain ⟨s', ⟨heq, h'⟩ | ⟨heq, h'⟩ | ⟨p, heq, h'⟩⟩ := phlGetSingleRx_spec h wk ch (o i)
    · rwa [heq]
    · rw [heq]
      rw [hbump] at h'
      exact loop wk o left (i + 1) (h'.returnAll _)
    · rw [heq]
      rw [hbump] at h'
      exact loop wk o left (i + 1) ((process (o i) h').returnAll _)

lemma RxInv.pollCh (wk : Bool) (ch : ℕ) (io : RxIo) (h : RxInv n (fun _ => 0) bufs pkts s) :
    RxInv n (fun _ => 0) bufs pkts (phlRxPcieCh wk n ch io s) := by
  unfold phlRxPcieCh
  split_ifs
  · exact h
  · exact h
  have hstart : RxInv n (update (fun _ => 0) ch 0) bufs pkts s := by
    rwa [update_eq_self]
  have hloop := loop wk io.outcome (min io.rxcnt (s.chans ch).idle.cnt) 0 hstart
  have hc := hloop.chan ch
  rw [update_self] at hc
  have := hloop.setChan (RxChanInv.refill _ hc)
  rwa [update_idem, update_eq_self] at this

lemma RxInv.poll (wk : Bool) (total : ℕ) (io : ℕ → RxIo) (h : RxInv n (fun _ => 0) bufs pkts s) :
    RxInv n (fun _ => 0) bufs pkts (phlRxPcie wk n total io s) :=
  Run.run_inv_all (P := RxInv n (fun _ => 0) bufs pkts)
    (fun s ch => phlRxPcieCh wk n ch (io ch) s) (fun _ ch h => h.pollCh wk ch (io ch))
    (range total) s h

end Polling

section Runs

variable {bufs : ℕ → List ℕ}

lemma RxInv.forChans (free' : ℕ → ℕ) {f : RxChan → RxChan} : ∀ (total : ℕ),
    (∀ ch < total, ∀ att c, RxChanInv n (free ch) (bufs ch) att c →
      RxChanInv n (free' ch) (bufs ch) att (f c)) → RxInv n free bufs pkts s →
    RxInv n (fun ch => if ch < total then free' ch else free ch) bufs pkts
      ((range total).foldl (fun s ch => s.setChan ch (f (s.chans ch))) s)
  | 0, _, h => by simpa using h
  | total + 1, hf, h => by
    have ih := forChans free' total (fun ch hch => hf ch (by omega)) h
    have hc := ih.chan total
    rw [if_neg (lt_irrefl _)] at hc
    have hfree : (fun ch => if ch < total + 1 then free' ch else free ch)
        = update (fun ch => if ch < total then free' ch else free ch) total (free' total) := by
      funext ch
      rcases lt_trichotomy ch total with hlt | rfl | hgt
      · rw [update_of_ne (by omega), if_pos (by omega), if_pos hlt]
      · rw [update_self, if_pos (by omega)]
      · rw [update_of_ne (by omega), if_neg (by omega), if_neg (by omega)]
    rw [range_succ, foldl_append, hfree]
    exact ih.setChan (hf total (by omega) _ _ hc)

lemma RxInv.updateDefault {total : ℕ} (hfree : ∀ ch < total, free ch = n)
    (h : RxInv n free bufs pkts s) :
    RxInv n (fun _ => 0) bufs pkts (phlUpdateDefaultRxBd n total s) := by
  have := forChans (fun _ => 0) total (f := phlRefillRxbd n n)
    (fun ch hch att c hc => RxChanInv.refill n (hfree ch hch ▸ hc)) h
  exact { this with chan := fun ch => (this.chan ch).weaken (zero_le _) }

lemma RxInv.reset (total : ℕ) (h : RxInv n (fun _ => 0) bufs pkts s) :
    RxInv n (fun _ => 0) bufs pkts (phlRxResetPcie n total s) :=
  updateDefault (fun _ hch => if_pos hch)
    (forChans (fun _ => n) total (fun _ _ _ _ hc => hc.reset) h)

lemma rxBufInit_inv (n total : ℕ) (bufs : ℕ → List ℕ) (pkts : List ℕ) :
    RxInv n (fun _ => 0) bufs pkts (rxBufInit n total bufs pkts) := by
  suffices h : RxInv n (fun _ => n) bufs pkts _ from h.updateDefault fun _ _ => rfl
  refine ⟨fun ch => ?_, ?_, ?_, ?_, ?_⟩
  · refine ⟨?_, rfl, rfl, (zero_mod n).symm, ?_, nil_suffix, Circ.Fifo.start ..⟩
    · simp [attached]
    · simp
  · simp [Function.comp_def]
  · simp [CntQueue.Counted]
  · intro p hp
    obtain ⟨i, -, rfl⟩ := mem_map.mp hp
    rfl
  · simp

lemma rxBufStep_inv (wk : Bool) (total : ℕ) (e : RxBufEvent)
    (h : RxInv n (fun _ => 0) bufs pkts s) :
    RxInv n (fun _ => 0) bufs pkts (rxBufStep wk n total s e) := by
  cases e with
  | poll io => exact h.poll wk total io
  | ret i => exact h.ret i
  | reset => exact h.reset total

end Runs

/-- In every run, each buffer of a channel is in exactly one place, the counters are the lengths of
their lists, no idle object has a buffer, and no object is lost. -/
theorem rx_buffers_conserved (wk : Bool) (n total : ℕ) (bufs : ℕ → List ℕ) (pkts : List ℕ)
    (hbufs : ∀ ch, (bufs ch).Nodup) (hpkts : pkts.Nodup) (es : List RxBufEvent) :
    let s := Run.run (rxBufStep wk n total) (rxBufInit n total bufs pkts) es
    (∀ ch,
      let c := s.chans ch
      let all := c.idle.items ++ c.busy.items ++ attached ch s.inUse
      all.Perm (bufs ch) ∧ all.Nodup
        ∧ c.idle.cnt = c.idle.items.length ∧ c.busy.cnt = c.busy.items.length
        ∧ c.busy.items.length ≤ n
        ∧ ∀ j b, c.busy.items[j]? = some b →
          c.rxbd ((c.hostIdx + n - c.busy.items.length + j) % n) = some b)
      ∧ (∀ p ∈ s.pktIdle.items, p.rxbufPtr = none)
      ∧ (∀ p ∈ s.inUse, ∃ b, p.rxbufPtr = some b)
      ∧ ((s.pktIdle.items ++ s.inUse).map PhlRxPkt.id).Perm pkts
      ∧ ((s.pktIdle.items ++ s.inUse).map PhlRxPkt.id).Nodup := by
  intro s
  have h : RxInv n (fun _ => 0) bufs pkts s :=
    Run.run_inv_all (P := RxInv n (fun _ => 0) bufs pkts) _
      (fun _ e h => rxBufStep_inv wk total e h) es _ (rxBufInit_inv n total bufs pkts)
  refine ⟨fun ch => ?_, h.bare, h.holds, h.objs, h.objs.nodup_iff.mpr hpkts⟩
  have hc := h.chan ch
  exact ⟨hc.perm, hc.perm.nodup_iff.mpr (hbufs ch), hc.idle, hc.busy, hc.room,
    fun j b hj => hc.busy_mapped hj⟩

/-- Two buffers are polled, one is handed on, and a reset comes while it is in use. -/
theorem rx_buffers_conserved_sample :
    let s := Run.run (rxBufStep false 2 1)
      (rxBufInit 2 1 (fun _ => [10, 11, 12, 13]) [1, 2, 3])
      [.poll fun _ => ⟨2, fun i => ⟨true, true, i == 0, .wifi, []⟩⟩, .reset, .ret 0]
    let c := s.chans 0
    c.idle.items = [13, 10] ∧ c.busy.items = [11, 12]
      ∧ (c.idle.items ++ c.busy.items ++ attached 0 s.inUse).Nodup := by
  intro s c
  refine ⟨by decide +kernel, by decide +kernel, ?_⟩
  exact ((rx_buffers_conserved false 2 1 _ _ (fun _ => by decide) (by decide) _).1 0).2.1

end Rtl8852be

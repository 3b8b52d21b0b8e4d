import Rtl8852be.Proofs.ReorderWindow

/-!
# Delivery in order, once

The unwrapped number of a frame is the unwrapped head plus the distance from the head when it
arrives. When `buf_size` divides the sequence space, slots and unwrapped numbers agree modulo
`buf_size`.
-/

namespace Rtl8852be

open Run Slots Function List Option Nat Prod

variable {α β : Type*}

section Map

variable (f : α → β)

def RxPkt.map (p : RxPkt α) : RxPkt β := ⟨p.seq, p.seq_lt, f p.rest⟩

def RxCtx.map (c : RxCtx α) : RxCtx β where
  reorderBuf := fun i => (c.reorderBuf i).map (RxPkt.map f)
  reorderTime := c.reorderTime
  headSeqNum := c.headSeqNum
  storedMpduNum := c.storedMpduNum
  ssn := c.ssn
  bufSize := c.bufSize
  started := c.started
  removed := c.removed
  frames := c.frames.map (RxPkt.map f)
  recycled := c.recycled.map (RxPkt.map f)
  timerSet := c.timerSet

def RxEvent.map : RxEvent α → RxEvent β
  | .mpdu pkt storeTime curTime => .mpdu (pkt.map f) storeTime curTime
  | .bar seq h => .bar seq h
  | .timer curTime => .timer curTime

section

variable (c : RxCtx α)

@[simp] lemma map_bufSize : (c.map f).bufSize = c.bufSize := rfl

@[simp] lemma map_headSeqNum : (c.map f).headSeqNum = c.headSeqNum := rfl

@[simp] lemma map_storedMpduNum : (c.map f).storedMpduNum = c.storedMpduNum := rfl

@[simp] lemma map_started : (c.map f).started = c.started := rfl

@[simp] lemma map_removed : (c.map f).removed = c.removed := rfl

@[simp] lemma map_reorderTime : (c.map f).reorderTime = c.reorderTime := rfl

@[simp] lemma map_reorderBuf (i : ℕ) :
    (c.map f).reorderBuf i = (c.reorderBuf i).map (RxPkt.map f) := rfl

@[simp] lemma map_reorderIndex (s : ℕ) :
    reorderIndex (c.map f).toTidAmpduRx s = reorderIndex c.toTidAmpduRx s := rfl

@[simp] lemma map_seq (p : RxPkt α) : (p.map f).seq = p.seq := rfl

end

lemma map_update (b : ℕ → Option α) (i : ℕ) (v : Option α) : (fun j => (update b i v j).map f)
      = update (fun j => (b j).map f) i (v.map f) := by
  funext j
  by_cases hj : j = i <;> simp [hj]

@[local simp] lemma release_map (c : RxCtx α) (i : ℕ) :
    phlReleaseReorderFrame (c.map f) i = (phlReleaseReorderFrame c i).map f := by
  unfold phlReleaseReorderFrame
  rcases h : c.reorderBuf i with _ | p
  · simp [RxCtx.map, h]
  · simp [RxCtx.map, h, map_update]

lemma recyclePkts_map (c : RxCtx α) (l : List (RxPkt α)) :
    recyclePkts (l.map (RxPkt.map f)) (c.map f) = (recyclePkts l c).map f := by
  simp [RxCtx.map]

lemma recycleBetween_map (j : ℕ) : ∀ (fuel i : ℕ) (c : RxCtx α),
    recycleBetween (c.map f) j fuel i = (recycleBetween c j fuel i).map f
  | 0, _, _ => rfl
  | fuel + 1, i, c => by
    rw [recycleBetween, recycleBetween]
    split_ifs
    · rfl
    · rw [← recycleBetween_map j fuel, ← recyclePkts_map, map_reorderBuf, toList_map]
      rfl

lemma timeoutWalk_map (curTime index : ℕ) : ∀ (fuel j s : ℕ) (c : RxCtx α),
    timeoutWalk curTime index fuel j s (c.map f)
      = ((timeoutWalk curTime index fuel j s c).1.map f, (timeoutWalk curTime index fuel j s c).2)
  | 0, _, _, _ => rfl
  | fuel + 1, j, s, c => by
    rw [timeoutWalk, timeoutWalk]
    by_cases hj : j = index
    · simp only [if_pos hj]
    rw [if_neg hj, if_neg hj, map_reorderBuf]
    rcases c.reorderBuf j with _ | p
    · exact timeoutWalk_map curTime index fuel _ _ c
    simp [map_some, recycleBetween_map]
    split_ifs
    · rfl
    · exact timeoutWalk_map curTime index fuel _ _ (skipHead s _)

lemma releaseRun_map : ∀ (fuel : ℕ) (c : RxCtx α),
    releaseRun fuel (c.map f) = (releaseRun fuel c).map f
  | 0, _ => rfl
  | fuel + 1, c => by
    rw [releaseRun, releaseRun, map_reorderBuf, map_headSeqNum, map_reorderIndex]
    rcases c.reorderBuf (headSlot c) with _ | p
    · rfl
    · rw [release_map]
      exact releaseRun_map fuel _

lemma setReleaseTimer_map (c : RxCtx α) :
    setReleaseTimer (c.map f) = (setReleaseTimer c).map f := by
  rw [setReleaseTimer, setReleaseTimer, map_removed]
  split_ifs <;> rfl

lemma rearmTimer_map (c : RxCtx α) : rearmTimer (c.map f) = (rearmTimer c).map f := by
  rw [rearmTimer, rearmTimer, map_storedMpduNum, setReleaseTimer_map]
  split_ifs <;> rfl

lemma phlReorderRelease_map (curTime : ℕ) (c : RxCtx α) :
    phlReorderRelease curTime (c.map f) = (phlReorderRelease curTime c).map f := by
  simp [phlReorderRelease, map_eq_none_iff, timeoutWalk_map, releaseRun_map]
  split_ifs
  · rcases timeoutWalk curTime (headSlot c) c.bufSize
      ((headSlot c + 1) % c.bufSize) 1 c with ⟨c', _ | _⟩
    · exact setReleaseTimer_map f c'
    · exact rearmTimer_map f c'
  · exact rearmTimer_map f _

lemma releaseFramesLoop_map (t : ℕ) : ∀ (fuel : ℕ) (c : RxCtx α),
    releaseFramesLoop t fuel (c.map f) = (releaseFramesLoop t fuel c).map f
  | 0, _ => rfl
  | fuel + 1, c => by
    simp [releaseFramesLoop, releaseFramesLoop_map t fuel]
    split_ifs <;> rfl

@[local simp] lemma phlReleaseReorderFrames_map (t : ℕ) (c : RxCtx α) :
    phlReleaseReorderFrames t (c.map f) = (phlReleaseReorderFrames t c).map f := by
  simp only [phlReleaseReorderFrames, releaseFramesLoop_map]
  rfl

lemma slideWindow_map (seq : ℕ) (c : RxCtx α) :
    slideWindow seq (c.map f) = (slideWindow seq c).map f := by
  simp [slideWindow]
  split_ifs <;> rfl

lemma insertMpdu_map (pkt : RxPkt α) (storeTime curTime : ℕ) (c : RxCtx α) :
    insertMpdu (pkt.map f) storeTime curTime (c.map f)
      = ((insertMpdu pkt storeTime curTime c).1, (insertMpdu pkt storeTime curTime c).2.map f) := by
  have hst : ∀ i, storeMpdu (pkt.map f) i storeTime (c.map f)
      = (storeMpdu pkt i storeTime c).map f := by
    simp [storeMpdu, RxCtx.map, map_update]
  simp [insertMpdu, map_eq_none_iff, hst, phlReorderRelease_map]
  split_ifs
  · rfl
  · rfl
  · exact Prod.ext rfl (recyclePkts_map f c [pkt])

lemma phlManageStaReorderBuf_map (pkt : RxPkt α) (storeTime curTime : ℕ) (c : RxCtx α) :
    phlManageStaReorderBuf (pkt.map f) storeTime curTime (c.map f)
      = ((phlManageStaReorderBuf pkt storeTime curTime c).1,
        (phlManageStaReorderBuf pkt storeTime curTime c).2.map f) := by
  have hst : ({ c.map f with started := true } : RxCtx β)
      = ({ c with started := true } : RxCtx α).map f := rfl
  rw [phlManageStaReorderBuf, phlManageStaReorderBuf, hst, map_seq, slideWindow_map, insertMpdu_map,
    map_headSeqNum, map_started]
  split_ifs
  · exact Prod.ext rfl (recyclePkts_map f c [pkt])
  · rfl
  · rfl

lemma rxStep_map (c : RxCtx α) (e : RxEvent α) :
    rxStep (c.map f) (e.map f) = (rxStep c e).map f := by
  cases e with
  | mpdu pkt storeTime curTime =>
    simp only [RxEvent.map, rxStep, phlRxReorder, phlManageStaReorderBuf_map]
    rcases phlManageStaReorderBuf pkt storeTime curTime c with ⟨_ | _, c'⟩
    · simp [dontReorder, RxCtx.map]
    · rfl
  | bar seq h =>
    simp [RxEvent.map, rxStep, rtwPhlRxBar]
    split_ifs <;> rfl
  | timer curTime => exact phlReorderRelease_map f curTime { c with timerSet := false }

end Map

/-- What has been delivered stands below the unwrapped head `hU`, in order, and what has arrived is
delivered, recycled or held. -/
structure DeliveryInv (B : ℕ) (u : RxPkt α → ℕ) (arrived : List (RxPkt α)) (hU : ℕ)
    (c : RxCtx α) : Prop where
  started : c.started = true
  head : c.headSeqNum = hU % 4096
  stamp : ∀ i p, c.reorderBuf i = some p → u p = hU + seqSub p.seq c.headSeqNum
  below : ∀ p ∈ c.frames, u p < hU
  sorted : c.frames.Pairwise fun p q => u p < u q
  account : arrived.Perm (c.frames ++ c.recycled ++ occupied B c.reorderBuf)

variable {ssn B : ℕ}

section Delivery

variable {hU : ℕ} {u : RxPkt α → ℕ} {arrived : List (RxPkt α)} {c : RxCtx α}
variable {p : RxPkt α}

lemma release_started (c : RxCtx α) (i : ℕ) :
    (phlReleaseReorderFrame c i).started = c.started := by
  unfold phlReleaseReorderFrame; split <;> rfl

lemma account_release {l r : List (RxPkt α)} {b : ℕ → Option (RxPkt α)} {i : ℕ} (hi : i < B)
    (h : arrived.Perm (l ++ r ++ occupied B b)) :
    arrived.Perm (l ++ (b i).toList ++ r ++ occupied B (update b i none)) := by
  rcases hb : b i with _ | p
  · have hu : update b i none = b := by rw [← hb, update_eq_self]
    simpa [hu] using h
  · have hp : (l ++ [p] ++ r ++ occupied B (update b i none)).Perm
        (l ++ r ++ (p :: occupied B (update b i none))) := by
      simp
      exact List.Perm.append_left l perm_middle.symm
    exact h.trans ((hp.trans ((occupied_clear hi hb).append_left _)).symm)

lemma DeliveryInv.release (h : DeliveryInv B u arrived hU c) {i k : ℕ} (hi : i < B)
    (hk : ∀ p, c.reorderBuf i = some p → seqSub p.seq c.headSeqNum = k)
    (hlt : ∀ j p, c.reorderBuf j = some p → j ≠ i → k < seqSub p.seq c.headSeqNum) :
    DeliveryInv B u arrived (hU + k + 1) (skipHead k (phlReleaseReorderFrame c i)) := by
  have hhead : (skipHead k (phlReleaseReorderFrame c i)).headSeqNum
      = (c.headSeqNum + (k + 1)) % 4096 := by
    simp [skipHead, seqInc, seqModulo]
    omega
  refine ⟨?_, ?_, fun j p hp => ?_, fun p hp => ?_, ?_, ?_⟩
  · exact (release_started c i).trans h.started
  · rw [hhead, h.head]
    omega
  · simp only [skipHead, release_reorderBuf, clear_eq_some] at hp
    have := hlt j p hp.2 hp.1
    rw [hhead, seqSub_add_right this, h.stamp j p hp.2]
    omega
  · simp [skipHead, release_frames] at hp
    rcases hp with hp | hp
    · have := h.below p hp
      omega
    · rw [h.stamp i p hp, hk p hp]
      omega
  · simp only [skipHead, release_frames]
    refine pairwise_append.2 ⟨h.sorted, ?_, fun p hp q hq => ?_⟩
    · rcases c.reorderBuf i <;> simp
    · have := h.below p hp
      rw [h.stamp i q (mem_toList.1 hq)]
      omega
  · simp only [skipHead, release_frames, release_recycled, release_reorderBuf]
    exact account_release hi h.account

lemma DeliveryInv.recycle (h : DeliveryInv B u arrived hU c) (pkt : RxPkt α) :
    DeliveryInv B u (arrived ++ [pkt]) hU (recyclePkts [pkt] c) := by
  refine ⟨h.started, h.head, h.stamp, h.below, h.sorted, (h.account.append_right [pkt]).trans ?_⟩
  simp
  exact (List.Perm.append_left _ perm_append_comm).append_left _

lemma SessionInv.seq_unique (hs : SessionInv ssn B c) (hB : B ∣ 4096) {s : ℕ} (hlt : s < 4096)
    (hw : seqSub s c.headSeqNum < B) (hp : c.reorderBuf (reorderIndex c.toTidAmpduRx s) = some p) :
    p.seq = s := by
  have hslot := (hs.inWindow _ p hp).2
  have hline (s : ℕ) : InLine ssn B c.headSeqNum s := .inl hB
  rw [hs.reorderIndex_eq, hs.reorderIndex_eq, (hline s).slot_eq, (hline p.seq).slot_eq] at hslot
  have hmod : seqSub s c.headSeqNum % B = seqSub p.seq c.headSeqNum % B :=
    Nat.ModEq.add_left_cancel' _ hslot
  have hpw := (hs.inWindow _ p hp).1
  rw [mod_eq_of_lt hw, mod_eq_of_lt hpw] at hmod
  have hp4 := p.seq_lt
  simp only [seqSub, seqModulo] at hmod
  omega

lemma DeliveryInv.release_head (h : DeliveryInv B u arrived hU c) (hs : SessionInv ssn B c)
    (hB : B ∣ 4096) :
    DeliveryInv B u arrived (hU + 1)
      (phlReleaseReorderFrame c (headSlot c)) := by
  have hself : seqSub c.headSeqNum c.headSeqNum = 0 := by
    simp only [seqSub, seqModulo]
    omega
  have hrel := h.release (i := headSlot c) (k := 0)
    (by rw [← hs.bufSize_eq]; exact reorderIndex_lt (by rw [hs.bufSize_eq]; exact hs.pos) _)
    (fun p hp => by
      rw [hs.seq_unique hB hs.head_lt (by rw [hself]; exact hs.pos) hp, hself])
    (fun j p hp hj => by
      rcases Nat.eq_zero_or_pos (seqSub p.seq c.headSeqNum) with h0 | h0
      · refine absurd ?_ hj
        rw [(hs.inWindow j p hp).2, eq_of_seqSub_eq_zero p.seq_lt hs.head_lt h0]
      · exact h0)
  have hskip : skipHead 0 (phlReleaseReorderFrame c (headSlot c))
      = phlReleaseReorderFrame c (headSlot c) := by
    have := seqInc_lt c.headSeqNum
    rw [← release_headSeqNum c (headSlot c)] at this
    rw [skipHead, add_zero, seqModulo, mod_eq_of_lt this]
  rwa [hskip] at hrel

lemma DeliveryInv.releaseRun (hB : B ∣ 4096) : ∀ (fuel hU : ℕ) (c : RxCtx α),
    DeliveryInv B u arrived hU c → SessionInv ssn B c →
    ∃ n ≤ fuel, DeliveryInv B u arrived (hU + n) (releaseRun fuel c)
  | 0, hU, c, h, _ => ⟨0, le_rfl, h⟩
  | fuel + 1, hU, c, h, hs => by
    rw [Rtl8852be.releaseRun]
    split
    · exact ⟨0, zero_le _, h⟩
    · obtain ⟨n, hn, hr⟩ := DeliveryInv.releaseRun hB fuel (hU + 1) _ (h.release_head hs hB)
        hs.release_head
      exact ⟨n + 1, by omega, by rwa [add_assoc, add_comm 1 n] at hr⟩

lemma DeliveryInv.releaseFramesLoop (hB : B ∣ 4096) (t : ℕ) : ∀ (fuel hU : ℕ) (c : RxCtx α),
    DeliveryInv B u arrived hU c → SessionInv ssn B c →
    ∃ n ≤ seqSub t c.headSeqNum, DeliveryInv B u arrived (hU + n) (releaseFramesLoop t fuel c)
  | 0, hU, c, h, _ => ⟨0, zero_le _, h⟩
  | fuel + 1, hU, c, h, hs => by
    rw [Rtl8852be.releaseFramesLoop]
    split_ifs with hg
    · have hpos := (seqLess_iff.1 hg.1).1
      obtain ⟨n, hn, hr⟩ := DeliveryInv.releaseFramesLoop hB t fuel (hU + 1) _
        (h.release_head hs hB) hs.release_head
      rw [release_headSeqNum, seqSub_seqInc_right hpos] at hn
      exact ⟨n + 1, by omega, by rwa [add_assoc, add_comm 1 n] at hr⟩
    · exact ⟨0, zero_le _, h⟩

lemma DeliveryInv.release_frames (h : DeliveryInv B u arrived hU c) (hs : SessionInv ssn B c)
    (hB : B ∣ 4096) {t : ℕ} (ht : t < 4096)
    (hc : c.storedMpduNum = 0 ∨ seqSub t c.headSeqNum < 2048) :
    DeliveryInv B u arrived (hU + seqSub t c.headSeqNum) (phlReleaseReorderFrames t c) := by
  obtain ⟨n, hn, hl⟩ := DeliveryInv.releaseFramesLoop hB t seqModulo hU c h hs
  have hs' := hs.release_loop t seqModulo
  have hhead := h.head
  refine ⟨hl.started, ?_, fun i p hp => ?_, fun p hp => ?_, hl.sorted, hl.account⟩
  · simp only [phlReleaseReorderFrames, hhead, seqSub, seqModulo]
    omega
  · -- a frame is left only when the loop stopped at the target
    rcases hs.loop_exit ht hc with h0 | hx
    · simp only [phlReleaseReorderFrames] at hp
      rw [hs'.empty_of_stored hs'.pos h0 i] at hp
      cases hp
    · have hst := hl.stamp i p hp
      have hnt := hl.head
      rw [hx] at hst hnt
      simp only [phlReleaseReorderFrames]
      rw [hst]
      simp only [hhead, hnt, seqSub, seqModulo] at hn ⊢
      omega
  · have := hl.below p hp
    omega

lemma DeliveryInv.walk_release {head k s : ℕ} (hw : WalkInv ssn B head k s c) (hB : 0 < B)
    (h : DeliveryInv B u arrived (hU + (k - s)) c)
    (hp : c.reorderBuf ((seqSub head ssn % B + k) % B) = some p) (hpk : seqSub p.seq head = k) :
    DeliveryInv B u arrived (hU + (k + 1 - 0))
      (skipHead s (phlReleaseReorderFrame c ((seqSub head ssn % B + k) % B))) := by
  have hsk := hw.skipped_le
  have hoff : ∀ q : RxPkt α, k ≤ seqSub q.seq head →
      seqSub q.seq c.headSeqNum = seqSub q.seq head - (k - s) := by
    intro q hq
    rw [hw.headSeqNum, seqSub_add_right (by omega)]
  have hrel := h.release (i := (seqSub head ssn % B + k) % B) (k := s) (mod_lt _ hB)
    (fun q hq => by
      cases hp.symm.trans hq
      rw [hoff p (by omega)]
      omega)
    (fun j q hq hj => by
      have hlt := hw.ahead_of_ne hq hj
      rw [hoff q (by omega)]
      omega)
  have hsum : hU + (k - s) + s + 1 = hU + (k + 1 - 0) := by omega
  rwa [hsum] at hrel

section

variable (h : DeliveryInv B u arrived hU c) (hs : SessionInv ssn B c) (hB : B ∣ 4096)
include h hs hB

lemma DeliveryInv.reorder_release (curTime : ℕ) :
    ∃ n ≤ B, DeliveryInv B u arrived (hU + n) (phlReorderRelease curTime c) := by
  refine phlReorderRelease_rule (P := fun c => ∃ n ≤ B, DeliveryInv B u arrived (hU + n) c) curTime
    (fun c b ⟨n, hn, hc⟩ => ⟨n, hn, hc.started, hc.head, hc.stamp, hc.below, hc.sorted, hc.account⟩)
    (fun _ => ?_) fun hn h0 => ?_
  · rw [hs.bufSize_eq]
    exact DeliveryInv.releaseRun hB B hU c h hs
  obtain ⟨k, s, hk, hd⟩ := timeoutWalk_rule curTime c.headSeqNum
    (P := fun k s c => DeliveryInv B u arrived (hU + (k - s)) c)
    (fun k s c hc => by rwa [Nat.add_sub_add_right])
    (fun k s c' p hw hc hp hpk => hc.walk_release hw hs.pos hp hpk) B 1 1 c one_pos
    (hs.walk hn fun i p _ => .inl hB) h
  rw [headSlot, hs.reorderIndex_eq, hs.bufSize_eq]
  have := hk.le_size
  exact ⟨k - s, by omega, hd⟩

lemma DeliveryInv.slide {seq : ℕ} (hold : ¬ seqLess seq c.headSeqNum) :
    ∃ a, a + B < 4096 ∧ DeliveryInv B u arrived (hU + a) (slideWindow seq c)
      ∧ seqSub seq c.headSeqNum = a + seqSub seq (slideWindow seq c).headSeqNum := by
  have hlt := hs.lt
  have hpos := hs.pos
  have hsize := hs.bufSize_eq
  rw [slideWindow]
  split_ifs with hin
  · exact ⟨0, by omega, h, by omega⟩
  refine ⟨_, ?_, h.release_frames hs hB (seqInc_lt _) (hs.slide_target hold hin), ?_⟩
  all_goals
    rw [seqLess_iff] at hold
    rw [seqLess_iff] at hin
    simp only [phlReleaseReorderFrames, hsize, seqSub, seqInc, seqModulo] at *
    omega

lemma DeliveryInv.insert (pkt : RxPkt α) (storeTime curTime : ℕ)
    (hw : seqSub pkt.seq c.headSeqNum < B) (hu : u pkt = hU + seqSub pkt.seq c.headSeqNum) :
    ∃ n ≤ B, DeliveryInv B u (arrived ++ [pkt]) (hU + n)
      (dontReorder pkt (insertMpdu pkt storeTime curTime c)) := by
  rw [insertMpdu]
  split_ifs with hd hh
  · exact ⟨0, zero_le _, h.recycle pkt⟩
  · have hself : seqSub pkt.seq c.headSeqNum = 0 := by
      simp only [seqSub, seqModulo]
      omega
    have hempty := hs.empty_of_stored hs.pos hh.2
    refine ⟨1, hs.pos, h.started, ?_, fun i p hp => ?_, fun p hp => ?_, ?_, ?_⟩
    · simp only [dontReorder, seqInc, seqModulo, h.head]
      omega
    · simp only [dontReorder, hempty i] at hp
      cases hp
    · simp only [dontReorder, mem_append, mem_singleton] at hp
      rcases hp with hp | rfl
      · have := h.below p hp
        omega
      · omega
    · refine pairwise_append.2 ⟨h.sorted, pairwise_singleton _ _, fun p hp q hq => ?_⟩
      have := h.below p hp
      rw [mem_singleton.1 hq]
      omega
    · simp only [dontReorder]
      refine (h.account.append_right [pkt]).trans ?_
      simp
      refine List.Perm.append_left _ ?_
      rw [← append_assoc]
      exact perm_append_comm
  · have hi : reorderIndex c.toTidAmpduRx pkt.seq < B := by
      rw [hs.reorderIndex_eq]
      exact mod_lt _ hs.pos
    have hstore : DeliveryInv B u (arrived ++ [pkt]) hU
        (storeMpdu pkt (reorderIndex c.toTidAmpduRx pkt.seq) storeTime c) := by
      refine ⟨h.started, h.head, fun i p hp => ?_, h.below, h.sorted, ?_⟩
      · rcases fill_eq_some.1 hp with ⟨-, rfl⟩ | ⟨-, hp⟩
        · exact hu
        · exact h.stamp i p hp
      · refine (h.account.append_right [pkt]).trans ?_
        rw [append_assoc _ _ [pkt]]
        refine List.Perm.append_left _ ?_
        exact perm_append_comm.trans (occupied_fill hi (not_not.1 hd)).symm
    exact hstore.reorder_release (hs.store pkt storeTime (not_not.1 hd) hw hh) hB curTime

lemma DeliveryInv.mpdu (pkt : RxPkt α) (storeTime curTime : ℕ)
    (hu : u pkt = hU + seqSub pkt.seq c.headSeqNum) :
    ∃ n < 4096, DeliveryInv B u (arrived ++ [pkt]) (hU + n)
      (phlRxReorder pkt storeTime curTime c) := by
  rw [phlRxReorder, phlManageStaReorderBuf]
  by_cases hold : seqLess pkt.seq c.headSeqNum
  · rw [if_pos hold, if_pos h.started]
    exact ⟨0, by decide, h.recycle pkt⟩
  rw [if_neg hold]
  have hst : ({ c with started := true } : RxCtx α) = c := by rw [← h.started]
  rw [hst]
  obtain ⟨a, ha, hslide, heq⟩ := h.slide hs hB hold
  obtain ⟨hs', -, hw, -⟩ := hs.slide hold
  obtain ⟨n, hn, hd⟩ := hslide.insert hs' hB pkt storeTime curTime hw (by omega)
  exact ⟨a + n, by omega, by rwa [add_assoc] at hd⟩

end

end Delivery

section Recycled

variable {c : RxCtx α}

lemma releaseFramesLoop_recycled (t fuel : ℕ) (c : RxCtx α) :
    (releaseFramesLoop t fuel c).recycled = c.recycled :=
  releaseFramesLoop_rule (P := fun d => d.recycled = c.recycled)
    (fun d hd => (release_recycled d _).trans hd) t fuel rfl

lemma slideWindow_recycled (seq : ℕ) (c : RxCtx α) :
    (slideWindow seq c).recycled = c.recycled := by
  rw [slideWindow]
  split_ifs
  · rfl
  · exact releaseFramesLoop_recycled _ _ c

lemma SessionInv.reorder_release_recycled (hs : SessionInv ssn B c) (hB : B ∣ 4096)
    (curTime : ℕ) : (phlReorderRelease curTime c).recycled = c.recycled := by
  refine phlReorderRelease_rule (P := fun d => d.recycled = c.recycled) curTime
    (fun _ _ hd => hd)
    (fun _ => releaseRun_rule (fun d hd => (release_recycled d _).trans hd) _ rfl) fun hn _ => ?_
  obtain ⟨-, -, -, hr⟩ := timeoutWalk_rule curTime c.headSeqNum
    (P := fun _ _ d => d.recycled = c.recycled) (fun _ _ _ hd => hd)
    (fun k s d p _ hd _ _ => (release_recycled d _).trans hd) B 1 1 c one_pos
    (hs.walk hn fun i p _ => .inl hB) rfl
  rwa [headSlot, hs.reorderIndex_eq, hs.bufSize_eq]

def arrivals : RxEvent α → List (RxPkt α)
  | .mpdu pkt _ _ => [pkt]
  | .bar _ _ => []
  | .timer _ => []

def RxEvent.isBar : RxEvent α → Bool
  | .bar _ _ => true
  | _ => false

/-- A step recycles at most the frame that arrives, if it is old or its number is held. -/
lemma SessionInv.recycled_step (hs : SessionInv ssn B c) (hB : B ∣ 4096)
    (hst : c.started = true) (e : RxEvent α) :
    (rxStep c e).recycled = c.recycled
      ∨ ∃ pkt ∈ arrivals e, (rxStep c e).recycled = c.recycled ++ [pkt]
        ∧ (seqLess pkt.seq c.headSeqNum ∨ ∃ i q, c.reorderBuf i = some q ∧ q.seq = pkt.seq) := by
  cases e with
  | mpdu pkt storeTime curTime =>
    simp only [rxStep, phlRxReorder, phlManageStaReorderBuf, arrivals, mem_singleton,
      exists_eq_left]
    by_cases hold : seqLess pkt.seq c.headSeqNum
    · rw [if_pos hold, if_pos hst]
      exact .inr ⟨rfl, .inl hold⟩
    rw [if_neg hold, show ({ c with started := true } : RxCtx α) = c by rw [← hst], insertMpdu]
    obtain ⟨hs', -, hw, hsub⟩ := hs.slide hold
    have hrec := slideWindow_recycled pkt.seq c
    split_ifs with hd hh
    · obtain ⟨q, hq⟩ := ne_none_iff_exists'.1 hd
      refine .inr ⟨by simp [dontReorder, hrec], .inr ⟨_, q, hsub _ q hq, ?_⟩⟩
      exact hs'.seq_unique hB pkt.seq_lt hw hq
    · exact .inl hrec
    · left
      simp only [dontReorder]
      rwa [(hs'.store pkt storeTime (not_not.1 hd) hw hh).reorder_release_recycled hB]
  | bar seq h =>
    left
    simp only [rxStep, rtwPhlRxBar]
    split_ifs
    · rfl
    · exact releaseFramesLoop_recycled _ _ c
  | timer curTime =>
    exact .inl ((hs.of_tid { c with timerSet := false } rfl).reorder_release_recycled hB _)

end Recycled

structure Unwrapped (α : Type*) where
  ctx : RxCtx (α × ℕ)
  head : ℕ
  arrived : List (RxPkt (α × ℕ))

def unwrappedSeq (p : RxPkt (α × ℕ)) : ℕ := p.rest.2

def Unwrapped.stamp (g : Unwrapped α) (p : RxPkt α) : RxPkt (α × ℕ) :=
  p.map fun a => (a, g.head + seqSub p.seq g.ctx.headSeqNum)

def Unwrapped.stampEvent (g : Unwrapped α) : RxEvent α → RxEvent (α × ℕ)
  | .mpdu pkt storeTime curTime => .mpdu (g.stamp pkt) storeTime curTime
  | .bar seq h => .bar seq h
  | .timer curTime => .timer curTime

def unwrapStep (g : Unwrapped α) (e : RxEvent α) : Unwrapped α where
  ctx := rxStep g.ctx (g.stampEvent e)
  head := g.head + seqSub (rxStep g.ctx (g.stampEvent e)).headSeqNum g.ctx.headSeqNum
  arrived := g.arrived ++ arrivals (g.stampEvent e)

def unwrapCtx (c : RxCtx α) : RxCtx (α × ℕ) where
  reorderBuf := fun i => (c.reorderBuf i).map fun p =>
    p.map fun a => (a, c.headSeqNum + seqSub p.seq c.headSeqNum)
  reorderTime := c.reorderTime
  headSeqNum := c.headSeqNum
  storedMpduNum := c.storedMpduNum
  ssn := c.ssn
  bufSize := c.bufSize
  started := c.started
  removed := c.removed
  frames := []
  recycled := []
  timerSet := c.timerSet

def unwrapStart (c : RxCtx α) : Unwrapped α where
  ctx := unwrapCtx c
  head := c.headSeqNum
  arrived := occupied c.bufSize (unwrapCtx c).reorderBuf

section Run

variable {c : RxCtx α}

lemma unwrapStep_ctx_map (g : Unwrapped α) (e : RxEvent α) :
    (unwrapStep g e).ctx.map fst = rxStep (g.ctx.map fst) e := by
  have he : (g.stampEvent e).map fst = e := by
    cases e <;> rfl
  rw [unwrapStep, ← rxStep_map, he]

lemma unwrapRun_ctx_map : ∀ (es : List (RxEvent α)) (g : Unwrapped α),
    (run unwrapStep g es).ctx.map fst = run rxStep (g.ctx.map fst) es
  | [], _ => rfl
  | e :: es, g => by
    rw [run_cons, run_cons, unwrapRun_ctx_map es, unwrapStep_ctx_map]

lemma unwrapRun_arrived : ∀ (es : List (RxEvent α)) (g : Unwrapped α),
    (run unwrapStep g es).arrived.map (RxPkt.map fst)
      = g.arrived.map (RxPkt.map fst) ++ es.flatMap arrivals
  | [], _ => by simp
  | e :: es, g => by
    have he : (arrivals (g.stampEvent e)).map (RxPkt.map fst) = arrivals e := by
      cases e <;> rfl
    rw [run_cons, unwrapRun_arrived es, unwrapStep, map_append, he, flatMap_cons, append_assoc]

def UnwrappedInv (ssn B : ℕ) (g : Unwrapped α) : Prop :=
  SessionInv ssn B g.ctx ∧ DeliveryInv B unwrappedSeq g.arrived g.head g.ctx

lemma unwrapped_head {hU n : ℕ} {c' : RxCtx α} (hc : c.headSeqNum = hU % 4096)
    (hc' : c'.headSeqNum = (hU + n) % 4096) (hn : n < 4096) :
    hU + seqSub c'.headSeqNum c.headSeqNum = hU + n := by
  simp only [seqSub, seqModulo]
  omega

lemma safeStep_of_dvd (hs : SessionInv ssn B c) (hB : B ∣ 4096) {e : RxEvent α}
    (he : e.isBar = false) : SafeStep c e := by
  rw [← hs.bufSize_eq] at hB
  cases e with
  | mpdu pkt storeTime curTime => exact .inr (.inr (.inr fun _ _ _ => .inl hB))
  | bar seq h => cases he
  | timer curTime => exact .inr (.inr fun _ _ => .inl hB)

lemma UnwrappedInv.step (hB : B ∣ 4096) (g : Unwrapped α) (e : RxEvent α)
    (hg : UnwrappedInv ssn B g) (he : e.isBar = false) : UnwrappedInv ssn B (unwrapStep g e) := by
  obtain ⟨hs, hd⟩ := hg
  have hs' : SessionInv ssn B (unwrapStep g e).ctx :=
    hs.step _ (safeStep_of_dvd hs hB (by cases e <;> first | rfl | exact he))
  obtain ⟨n, hn, hd'⟩ : ∃ n < 4096, DeliveryInv B unwrappedSeq (g.arrived ++
      arrivals (g.stampEvent e)) (g.head + n) (rxStep g.ctx (g.stampEvent e)) := by
    cases e with
    | mpdu pkt storeTime curTime => exact hd.mpdu hs hB (g.stamp pkt) storeTime curTime rfl
    | bar seq h => cases he
    | timer curTime =>
      have hlt := hs.lt
      obtain ⟨n, hn, hr⟩ := DeliveryInv.reorder_release (c := { g.ctx with timerSet := false })
        ⟨hd.started, hd.head, hd.stamp, hd.below, hd.sorted, hd.account⟩ (hs.of_tid _ rfl) hB
        curTime
      exact ⟨n, by omega, by simpa [arrivals, Unwrapped.stampEvent, rxStep] using hr⟩
  refine ⟨hs', ?_⟩
  rwa [← unwrapped_head hd.head hd'.head hn] at hd'

lemma unwrapCtx_buf (c : RxCtx α) (i : ℕ) :
    ((unwrapCtx c).reorderBuf i).map (RxPkt.map fst) = c.reorderBuf i := by
  simp only [unwrapCtx]
  rcases c.reorderBuf i <;> rfl

lemma unwrapCtx_map (hf : c.frames = []) (hr : c.recycled = []) :
    (unwrapCtx c).map fst = c := by
  obtain ⟨r, f, l, t⟩ := c
  cases hf
  cases hr
  simp only [RxCtx.map, unwrapCtx_buf]
  rfl

lemma unwrapStart_arrived (c : RxCtx α) :
    (unwrapStart c).arrived.map (RxPkt.map fst) = occupied c.bufSize c.reorderBuf := by
  rw [unwrapStart, ← occupied_map]
  exact occupied_congr fun i _ => unwrapCtx_buf c i

lemma SessionInv.map (f : α → β) (hs : SessionInv ssn B c) : SessionInv ssn B (c.map f) := by
  refine ⟨⟨hs.ssn_eq, hs.bufSize_eq, ?_, fun i q hq => ?_⟩, hs.pos, hs.lt, hs.head_lt, hs.single⟩
  · simp only [RxCtx.map]
    rw [occupied_map, length_map, hs.stored]
  · obtain ⟨p, hp, rfl⟩ := map_eq_some_iff.1 hq
    exact hs.inWindow i p hp

lemma unwrapStart_inv (hs : SessionInv ssn B c) (hst : c.started = true) :
    UnwrappedInv ssn B (unwrapStart c) := by
  have hb : ∀ i q, (unwrapCtx c).reorderBuf i = some q → ∃ p, c.reorderBuf i = some p
      ∧ q = p.map fun a => (a, c.headSeqNum + seqSub p.seq c.headSeqNum) := by
    intro i q hq
    obtain ⟨p, hp, rfl⟩ := map_eq_some_iff.1 hq
    exact ⟨p, hp, rfl⟩
  refine ⟨⟨⟨hs.ssn_eq, hs.bufSize_eq, ?_, fun i q hq => ?_⟩, hs.pos, hs.lt, hs.head_lt, hs.single⟩,
    hst, ?_, fun i q hq => ?_, ?_, List.Pairwise.nil, ?_⟩
  · simp only [unwrapStart, unwrapCtx]
    rw [occupied_map, length_map, hs.stored]
  · obtain ⟨p, hp, rfl⟩ := hb i q hq
    exact hs.inWindow i p hp
  · exact (mod_eq_of_lt hs.head_lt).symm
  · obtain ⟨p, hp, rfl⟩ := hb i q hq
    rfl
  · simp [unwrapStart, unwrapCtx]
  · simp only [unwrapStart, hs.bufSize_eq]
    simp [unwrapCtx]

/-- The delivered frames' unwrapped numbers increase strictly, every frame is delivered, recycled or
held, exactly once, and only old and duplicate frames are recycled. -/
theorem rx_delivery_in_order_once {ssn B : ℕ} (hB : B ∣ 4096) (c : RxCtx α)
    (hs : SessionInv ssn B c) (hst : c.started = true) (hf : c.frames = []) (hr : c.recycled = [])
    (es : List (RxEvent α)) (hes : ∀ e ∈ es, e.isBar = false) :
    let g := run unwrapStep (unwrapStart c) es
    let c' := run rxStep c es
    g.ctx.map fst = c' ∧ g.ctx.frames.Pairwise (fun p q => unwrappedSeq p < unwrappedSeq q)
      ∧ (occupied B c.reorderBuf ++ es.flatMap arrivals).Perm
        (c'.frames ++ c'.recycled ++ occupied B c'.reorderBuf)
      ∧ ∀ pre e post, es = pre ++ e :: post →
        let d := run rxStep c pre
        (rxStep d e).recycled = d.recycled
          ∨ ∃ pkt ∈ arrivals e, (rxStep d e).recycled = d.recycled ++ [pkt]
            ∧ (seqLess pkt.seq d.headSeqNum
              ∨ ∃ i q, d.reorderBuf i = some q ∧ q.seq = pkt.seq) := by
  have hrun : ∀ es' : List (RxEvent α), (∀ e ∈ es', e.isBar = false) →
      UnwrappedInv ssn B (run unwrapStep (unwrapStart c) es')
        ∧ (run unwrapStep (unwrapStart c) es').ctx.map fst = run rxStep c es' := by
    intro es' hes'
    refine ⟨run_inv unwrapStep (fun _ e => e.isBar = false) (UnwrappedInv.step hB) es' _
      (unwrapStart_inv hs hst) (runOK_of_forall unwrapStep es' _ hes'), ?_⟩
    rw [unwrapRun_ctx_map, unwrapStart, unwrapCtx_map hf hr]
  obtain ⟨⟨hs', hd⟩, hmap⟩ := hrun es hes
  refine ⟨hmap, hd.sorted, ?_, fun pre e post hpre => ?_⟩
  · have hacc := hd.account.map (RxPkt.map fst)
    rw [unwrapRun_arrived] at hacc
    rw [unwrapStart_arrived, hs.bufSize_eq, map_append, map_append, ← occupied_map] at hacc
    rwa [← hmap]
  · obtain ⟨⟨hsp, hdp⟩, hmapp⟩ := hrun pre fun e' he' => hes e' (by rw [hpre]; simp [he'])
    rw [← hmapp]
    exact (hsp.map fst).recycled_step hB hdp.started e

/-- The second 1 is a duplicate, the second 0 is old, and the timer passes the gap at 2. -/
theorem rx_delivery_sample : let c : RxCtx Unit := { phlTidAmpduRxAlloc 0 8 with started := true }
    let es : List (RxEvent Unit) :=
      [.mpdu ⟨3, by decide, ()⟩ 0 0, .mpdu ⟨1, by decide, ()⟩ 1 1, .mpdu ⟨1, by decide, ()⟩ 2 2,
        .mpdu ⟨0, by decide, ()⟩ 3 3, .mpdu ⟨0, by decide, ()⟩ 4 4, .timer 200]
    let g := run unwrapStep (unwrapStart c) es
    let c' := run rxStep c es
    g.ctx.map fst = c' ∧ g.ctx.frames.Pairwise (fun p q => unwrappedSeq p < unwrappedSeq q)
      ∧ (occupied 8 c.reorderBuf ++ es.flatMap arrivals).Perm
        (c'.frames ++ c'.recycled ++ occupied 8 c'.reorderBuf)
      ∧ ∀ pre e post, es = pre ++ e :: post →
        let d := run rxStep c pre
        (rxStep d e).recycled = d.recycled
          ∨ ∃ pkt ∈ arrivals e, (rxStep d e).recycled = d.recycled ++ [pkt]
            ∧ (seqLess pkt.seq d.headSeqNum ∨ ∃ i q, d.reorderBuf i = some q ∧ q.seq = pkt.seq) :=
  rx_delivery_in_order_once (by decide) _
    ⟨⟨rfl, rfl, by simp [phlTidAmpduRxAlloc], fun _ _ hp => by cases hp⟩, by decide, by decide,
      by decide, fun h => by cases h⟩
    rfl rfl rfl _ (by decide)

end Run

end Rtl8852be

import Rtl8852be.Proofs.ReorderOrder

/-!
# Frames taken for duplicates

A slot is found from the distance to `ssn` modulo the size of the buffer, so past a full cycle of
sequence numbers two numbers of the window can share a slot.
-/

namespace Rtl8852be

open Run Slots Function Nat

variable {α : Type*}

def DropsAsStored (pkt : RxPkt α) (c : RxCtx α) : Prop :=
  ¬ seqLess pkt.seq c.headSeqNum ∧ (slideWindow pkt.seq c).reorderBuf
      (reorderIndex (slideWindow pkt.seq c).toTidAmpduRx pkt.seq) ≠ none

/-- A frame with the number is in the buffer. -/
def IsStored (seq : ℕ) (c : RxCtx α) : Prop := ∃ p ∈ occupied c.bufSize c.reorderBuf, p.seq = seq

/-- No frame is dropped as stored that is not. The window has moved up to the frame by then if it
was beyond. -/
def NoFalseDuplicate (c : RxCtx α) : Prop :=
  ∀ pkt : RxPkt α, ¬ IsStored pkt.seq (slideWindow pkt.seq c) → ¬ DropsAsStored pkt c

/-- Two numbers of the window do not share a slot. -/
def SlotsInjective (c : RxCtx α) : Prop :=
  ∀ s < 4096, ∀ s' < 4096, seqSub s c.headSeqNum < c.bufSize → seqSub s' c.headSeqNum < c.bufSize →
    reorderIndex c.toTidAmpduRx s = reorderIndex c.toTidAmpduRx s' → s = s'

@[local simp] def RxEvent.isMpdu : RxEvent α → Bool
  | .mpdu _ _ _ => true
  | _ => false

variable {ssn B : ℕ} {c : RxCtx α}

lemma SessionInv.slots_injective (h : SessionInv ssn B c) (hB : B ∣ 4096) : SlotsInjective c := by
  intro s hs s' hs' hw hw' heq
  rw [h.bufSize_eq] at hw hw'
  have hline : InLine ssn B c.headSeqNum s := .inl hB
  have hline' : InLine ssn B c.headSeqNum s' := .inl hB
  rw [h.reorderIndex_eq, h.reorderIndex_eq, hline.slot_eq, hline'.slot_eq] at heq
  have hmod : seqSub s c.headSeqNum % B = seqSub s' c.headSeqNum % B :=
    Nat.ModEq.add_left_cancel' _ heq
  rw [mod_eq_of_lt hw, mod_eq_of_lt hw'] at hmod
  simp only [seqSub, seqModulo] at hmod
  omega

lemma SessionInv.no_false_duplicate (h : SessionInv ssn B c) (hB : B ∣ 4096) :
    NoFalseDuplicate c := by
  rintro pkt hnew ⟨hold, hfull⟩
  obtain ⟨hinv, -, hw, -⟩ := h.slide hold
  obtain ⟨p, hp⟩ := Option.ne_none_iff_exists'.1 hfull
  have hslot := hinv.slot_lt hinv.pos hp
  rw [← hinv.bufSize_eq] at hslot
  exact hnew ⟨p, mem_occupied.2 ⟨_, hslot, hp⟩, hinv.seq_unique hB pkt.seq_lt hw hp⟩

lemma SessionInv.of_mpdus (hB : B ∣ 4096) (h : SessionInv ssn B c) (es : List (RxEvent α))
    (hes : ∀ e ∈ es, e.isMpdu) : SessionInv ssn B (run rxStep c es) := by
  refine run_inv rxStep (fun _ e => e.isBar = false) (fun c e hc he => ?_) es c h
    (runOK_of_forall rxStep es c fun e he => ?_)
  · exact hc.step e (safeStep_of_dvd hc hB he)
  cases e with
  | mpdu pkt storeTime curTime => rfl
  | bar seq hs => exact absurd (hes _ he) (by simp)
  | timer curTime => rfl

section Wrap

variable {o : ℕ}

/-- The session holds `pkt` at most, which is the last of its window. Its clock has stood still. -/
structure HoldsLast (ssn B : ℕ) (pkt : RxPkt α) (c : RxCtx α) : Prop
    extends SessionInv ssn B c where
  time : ∀ i, c.reorderTime i = 0
  head : c.headSeqNum = seqInc (seqSub pkt.seq B)
  buf : c.reorderBuf = update (fun _ => none) (seqSub pkt.seq ssn % B) (some pkt)

lemma HoldsLast.of_tid {pkt : RxPkt α} {c' : RxCtx α} (h : HoldsLast ssn B pkt c)
    (he : c'.toTidAmpduRx = c.toTidAmpduRx) : HoldsLast ssn B pkt c' :=
  ⟨h.toSessionInv.of_tid c' he, fun i => by rw [he]; exact h.time i, by rw [he]; exact h.head,
    by rw [he]; exact h.buf⟩

lemma phlReorderRelease_idle (curTime : ℕ)
    (hn : c.reorderBuf (headSlot c) = none)
    (hw : ∀ i p, c.reorderBuf i = some p → Waiting curTime (c.reorderTime i)) :
    (phlReorderRelease curTime c).toTidAmpduRx = c.toTidAmpduRx := by
  refine phlReorderRelease_rule (P := fun c' => c'.toTidAmpduRx = c.toTidAmpduRx) curTime
    (fun c' b hc' => hc') (fun _ => ?_) fun _ _ => ?_
  · rw [releaseRun_of_none _ hn]
  · rw [timeoutWalk_waiting hw _ _ _ _ one_ne_zero]

lemma SessionInv.far_mpdu (h : SessionInv ssn B c) (htime : ∀ i, c.reorderTime i = 0)
    (h2 : 2 ≤ B) (pkt : RxPkt α) (hlo : B ≤ seqSub pkt.seq c.headSeqNum)
    (hhi : seqSub pkt.seq c.headSeqNum < 2048)
    (hgone : ∀ i p, c.reorderBuf i = some p → B ≤ seqSub p.seq (seqInc (seqSub pkt.seq B)))
    (hslot : seqSub (seqInc (seqSub pkt.seq B)) ssn % B ≠ seqSub pkt.seq ssn % B) :
    HoldsLast ssn B pkt (rxStep c (.mpdu pkt 0 0)) := by
  have hold : ¬ seqLess pkt.seq c.headSeqNum := by
    rw [seqLess_iff]
    simp only [seqSub, seqModulo] at *
    omega
  have hbeyond : ¬ seqLess pkt.seq (c.headSeqNum + c.bufSize) := by
    rw [seqLess_iff, h.bufSize_eq]
    simp only [seqSub, seqModulo] at *
    omega
  have hst : SessionInv ssn B { c with started := true } :=
    ⟨⟨h.ssn_eq, h.bufSize_eq, h.stored, h.inWindow⟩, h.pos, h.lt, h.head_lt, h.single⟩
  obtain ⟨hinv, hhead, hw, hsub⟩ := hst.slide hold
  have htime₁ : (slideWindow pkt.seq { c with started := true }).reorderTime = c.reorderTime :=
    slideWindow_reorderTime _ _
  have hslid : slidHead pkt.seq c.toTidAmpduRx = seqInc (seqSub pkt.seq B) := by
    rw [slidHead, if_neg hbeyond, h.bufSize_eq]
  replace hhead := hhead.trans hslid
  have hres : rxStep c (.mpdu pkt 0 0)
      = dontReorder pkt (insertMpdu pkt 0 0 (slideWindow pkt.seq { c with started := true })) := by
    rw [rxStep, phlRxReorder, phlManageStaReorderBuf, if_neg hold]
  rw [hres]
  generalize slideWindow pkt.seq { c with started := true } = c₁ at hinv hhead hw hsub htime₁
  have hempty : ∀ i, c₁.reorderBuf i = none := by
    intro i
    rcases hp : c₁.reorderBuf i with _ | p
    · rfl
    · have hin := (hinv.inWindow i p hp).1
      rw [hhead] at hin
      exact absurd (hgone i p (hsub i p hp)) (by omega)
  have hne : ¬ (pkt.seq = c₁.headSeqNum ∧ c₁.storedMpduNum = 0) := by
    rintro ⟨he, -⟩
    rw [hhead] at he
    simp only [seqSub, seqInc, seqModulo] at he
    omega
  have hindex := hinv.reorderIndex_eq pkt.seq
  have hstore := hinv.store pkt 0 (hempty _) hw hne
  have hlast : HoldsLast ssn B pkt (storeMpdu pkt (reorderIndex c₁.toTidAmpduRx pkt.seq) 0 c₁) := by
    refine ⟨hstore, fun i => ?_, hhead, ?_⟩
    · by_cases hi : i = reorderIndex c₁.toTidAmpduRx pkt.seq
      · simp [storeMpdu, hi]
      · simp [storeMpdu, hi, htime₁, htime]
    · rw [← hindex, ← funext hempty]
      rfl
  rw [insertMpdu, if_neg (not_not.2 (hempty _)), if_neg hne]
  refine hlast.of_tid (phlReorderRelease_idle 0 ?_ fun i p hp => ?_)
  · rw [headSlot, hstore.reorderIndex_eq, hlast.head, hlast.buf]
    exact update_of_ne hslot _ _
  · rw [hlast.time i]
    decide

lemma releaseFramesLoop_keeps (t : ℕ) {i : ℕ} {p : RxPkt α} : ∀ (fuel : ℕ) (c : RxCtx α),
    c.reorderBuf i = some p →
    (∀ k < seqSub t c.headSeqNum, seqSub ((c.headSeqNum + k) % 4096) c.ssn % c.bufSize ≠ i) →
    (releaseFramesLoop t fuel c).reorderBuf i = some p
  | 0, _, hp, _ => hp
  | fuel + 1, c, hp, hway => by
    rw [releaseFramesLoop]
    split_ifs with hg
    · have hpos := (seqLess_iff.1 hg.1).1
      have hd := seqSub_seqInc_right hpos
      refine releaseFramesLoop_keeps t fuel _ ?_ fun k hk => ?_
      · rw [release_reorderBuf, update_of_ne, hp]
        intro hi
        apply hway 0 hpos
        rw [hi, reorderIndex]
        congr 1
        simp only [seqSub, seqModulo]
        omega
      · rw [release_headSeqNum, hd] at hk
        rw [release_headSeqNum, release_ssn, release_bufSize, seqInc, seqModulo, mod_add_mod,
          add_assoc, add_comm 1 k]
        exact hway (k + 1) (by omega)
    · exact hp

def pktAt [Inhabited α] (ssn o : ℕ) : RxPkt α := ⟨(ssn + o) % 4096, mod_lt _ (by decide), default⟩

lemma seqSub_add_add {o' : ℕ} (hle : o' ≤ o) (hlt : o < o' + 4096) :
    seqSub ((ssn + o) % 4096) ((ssn + o') % 4096) = o - o' := by
  simp only [seqSub, seqModulo]
  omega

lemma seqSub_add_self (hlt : o < 4096) : seqSub ((ssn + o) % 4096) ssn = o := by
  simp only [seqSub, seqModulo]
  omega

lemma seqInc_seqSub_add (ho : B ≤ o + 1) (hB : B ≤ 255) :
    seqInc (seqSub ((ssn + o) % 4096) B) = (ssn + (o + 1 - B)) % 4096 := by
  simp only [seqSub, seqInc, seqModulo]
  omega

lemma slot_ne (h2 : 2 ≤ B) (hB : B ≤ 255) (ho : B ≤ o + 1) (hlt : o < 4096) :
    seqSub (seqInc (seqSub ((ssn + o) % 4096) B)) ssn % B ≠ seqSub ((ssn + o) % 4096) ssn % B := by
  rw [seqInc_seqSub_add ho hB, seqSub_add_self (by omega), seqSub_add_self hlt]
  intro he
  have hzero := sub_mod_eq_zero_of_mod_eq he.symm
  rw [show o - (o + 1 - B) = B - 1 by omega, mod_eq_of_lt (by omega)] at hzero
  omega

variable [Inhabited α]

lemma HoldsLast.far_mpdu {o' : ℕ} (h : HoldsLast ssn B (pktAt ssn o) c) (h2 : 2 ≤ B)
    (hB : B ≤ 255) (ho : B ≤ o) (hlo : o + B ≤ o') (hhi : o' < o + 1500) (hlt : o' < 4096) :
    HoldsLast ssn B (pktAt ssn o') (rxStep c (.mpdu (pktAt ssn o') 0 0)) := by
  have hhead : c.headSeqNum = (ssn + (o + 1 - B)) % 4096 :=
    h.head.trans (seqInc_seqSub_add (by omega) hB)
  have hdist : seqSub (pktAt ssn o' : RxPkt α).seq c.headSeqNum = o' - (o + 1 - B) := by
    rw [hhead]
    exact seqSub_add_add (by omega) (by omega)
  refine h.toSessionInv.far_mpdu h.time h2 _ (by omega) (by omega) (fun i p hp => ?_)
    (slot_ne h2 hB (by omega) hlt)
  rw [h.buf, fill_eq_some] at hp
  obtain ⟨-, rfl⟩ | ⟨-, hp⟩ := hp
  · rw [show (pktAt ssn o' : RxPkt α).seq = (ssn + o') % 4096 from rfl,
      seqInc_seqSub_add (by omega) hB]
    simp only [pktAt, seqSub, seqModulo]
    omega
  · cases hp

lemma holdsLast_run (hssn : ssn < 4096) (h2 : 2 ≤ B) (hB : B ≤ 255) (hlo : 3800 < o)
    (hlt : o < 4096) :
    HoldsLast ssn B (pktAt ssn o) (run rxStep (phlTidAmpduRxAlloc ssn B : RxCtx α)
      [.mpdu (pktAt ssn 1400) 0 0, .mpdu (pktAt ssn 2700) 0 0, .mpdu (pktAt ssn o) 0 0]) := by
  have halloc : SessionInv ssn B (phlTidAmpduRxAlloc ssn B : RxCtx α) :=
    alloc_inv hssn (by omega) (by omega)
  have hdist : seqSub (pktAt ssn 1400 : RxPkt α).seq
      (phlTidAmpduRxAlloc ssn B : RxCtx α).headSeqNum = 1400 := seqSub_add_self (by omega)
  have hfirst : HoldsLast ssn B (pktAt ssn 1400)
      (rxStep (phlTidAmpduRxAlloc ssn B : RxCtx α) (.mpdu (pktAt ssn 1400) 0 0)) := by
    refine halloc.far_mpdu (fun _ => rfl) h2 _ ?_ ?_ nofun (slot_ne h2 hB (by omega) (by omega))
    · rw [hdist]
      omega
    · rw [hdist]
      omega
  have hsecond : HoldsLast ssn B (pktAt ssn 2700) (rxStep _ (.mpdu (pktAt ssn 2700) 0 0)) :=
    hfirst.far_mpdu h2 hB (by omega) (by omega) (by omega) (by omega)
  exact hsecond.far_mpdu h2 hB (by omega) (by omega) (by omega) hlt

/-- The frame `ssn` after a full cycle finds its slot taken by the one that came
`4096 % B` numbers before. -/
lemma HoldsLast.drops {q : RxPkt α} (hq : q.seq = (ssn + 0) % 4096)
    (h : HoldsLast ssn B (pktAt ssn (4096 - 4096 % B)) c) (hB : B ≤ 255) (hr : 0 < 4096 % B) :
    ¬ IsStored q.seq (slideWindow q.seq c) ∧ DropsAsStored q c := by
  have hpos := h.pos
  have hrlt : 4096 % B < B := mod_lt _ hpos
  generalize hrdef : 4096 % B = r at *
  have hhead : c.headSeqNum = (ssn + (4096 - r + 1 - B)) % 4096 :=
    h.head.trans (seqInc_seqSub_add (by omega) hB)
  have hseq : q.seq = (ssn + 4096) % 4096 := by rw [add_mod_right]; exact hq
  have hdist : seqSub q.seq c.headSeqNum = r + B - 1 := by
    rw [hseq, hhead, seqSub_add_add (by omega) (by omega)]
    omega
  have hold : ¬ seqLess q.seq c.headSeqNum := by
    rw [seqLess_iff]
    simp only [seqSub, seqModulo] at hdist ⊢
    omega
  have hbeyond : ¬ seqLess q.seq (c.headSeqNum + c.bufSize) := by
    rw [seqLess_iff, h.bufSize_eq]
    simp only [seqSub, seqModulo] at hdist ⊢
    omega
  obtain ⟨hinv, -, -, hsub⟩ := h.toSessionInv.slide hold
  -- the slot of the old frame, and that of the new one
  have hfrom : seqSub (pktAt ssn (4096 - r) : RxPkt α).seq ssn = 4096 - r :=
    seqSub_add_self (by omega)
  have hslot : (4096 - r) % B = 0 := by
    rw [← hrdef]
    exact sub_mod_eq_zero_of_mod_eq (mod_mod _ _).symm
  have hslot' : reorderIndex (slideWindow q.seq c).toTidAmpduRx q.seq = 0 := by
    rw [hinv.reorderIndex_eq, hq, seqSub_add_self (by omega), zero_mod]
  refine ⟨?_, hold, ?_⟩
  · rintro ⟨p, hp, hpseq⟩
    obtain ⟨i, -, hp⟩ := mem_occupied.1 hp
    have hpc := hsub i p hp
    rw [h.buf, fill_eq_some] at hpc
    obtain ⟨-, rfl⟩ | ⟨-, hpc⟩ := hpc
    · simp only [pktAt, hq] at hpseq
      omega
    · cases hpc
  · rw [hslot', slideWindow, if_neg hbeyond]
    have hbuf : c.reorderBuf 0 = some (pktAt ssn (4096 - r)) := by
      rw [h.buf, hfrom, hslot, update_self]
    have hkeep := releaseFramesLoop_keeps (seqInc (seqSub q.seq c.bufSize)) seqModulo c hbuf
      fun k hk => ?_
    · exact fun hnone => by simp [phlReleaseReorderFrames, hkeep] at hnone
    rw [h.bufSize_eq, hseq, seqInc_seqSub_add (by omega) hB, hhead,
      seqSub_add_add (by omega) (by omega)] at hk
    rw [hhead, h.ssn_eq, h.bufSize_eq, mod_add_mod, add_assoc, seqSub_add_self (by omega)]
    intro hzero
    have hcong : (4096 - r + 1 - B + k + B - (4096 - r)) % B = 0 :=
      sub_mod_eq_zero_of_mod_eq (by rw [add_mod_right, hzero, hslot])
    rw [mod_eq_of_lt (by omega)] at hcong
    omega

end Wrap

theorem rx_no_false_duplicate_iff [Inhabited α] {ssn B : ℕ} (hssn : ssn < 4096) (hB : 0 < B)
    (hB' : B ≤ 255) :
    (∀ es : List (RxEvent α), (∀ e ∈ es, e.isMpdu) →
      NoFalseDuplicate (run rxStep (phlTidAmpduRxAlloc ssn B) es) ∧
        SlotsInjective (run rxStep (phlTidAmpduRxAlloc ssn B) es)) ↔ B ∣ 4096 := by
  constructor
  · intro hall
    by_contra hdvd
    have hr : 0 < 4096 % B := Nat.pos_of_ne_zero fun h0 => hdvd (Nat.dvd_of_mod_eq_zero h0)
    have hrlt : 4096 % B < B := Nat.mod_lt _ hB
    have hlast : HoldsLast ssn B (pktAt ssn (4096 - 4096 % B)) (run rxStep
        (phlTidAmpduRxAlloc ssn B : RxCtx α) [.mpdu (pktAt ssn 1400) 0 0,
          .mpdu (pktAt ssn 2700) 0 0, .mpdu (pktAt ssn (4096 - 4096 % B)) 0 0]) :=
      holdsLast_run hssn (by omega) hB' (by omega) (by omega)
    obtain ⟨hnew, hdrop⟩ := hlast.drops (q := pktAt ssn 0) rfl hB' hr
    exact (hall _ (by simp)).1 (pktAt ssn 0) hnew hdrop
  · intro hdvd es hes
    have halloc : SessionInv ssn B (phlTidAmpduRxAlloc ssn B : RxCtx α) :=
      alloc_inv hssn hB (by omega)
    have hinv := halloc.of_mpdus hdvd es hes
    exact ⟨hinv.no_false_duplicate hdvd, hinv.slots_injective hdvd⟩

def threeFrames : List (RxEvent Unit) :=
  [.mpdu ⟨2000, by decide, ()⟩ 0 0, .mpdu ⟨3500, by decide, ()⟩ 0 0, .mpdu ⟨0, by decide, ()⟩ 0 0]

theorem rx_no_false_duplicate_64 :
    NoFalseDuplicate (run rxStep (phlTidAmpduRxAlloc 7 64) threeFrames) ∧
      SlotsInjective (run rxStep (phlTidAmpduRxAlloc 7 64) threeFrames) :=
  (rx_no_false_duplicate_iff (by decide) (by decide) (by decide)).2 (by decide) threeFrames
    (by simp [threeFrames])

/-- Three slots, window at 4094, 4095 and 0: frame 0 is stored, and 4095 is taken for it. -/
theorem rx_false_duplicate :
    seqSub 4095 (run rxStep (phlTidAmpduRxAlloc 0 3) threeFrames).headSeqNum < 3 ∧
    ¬ ∀ es : List (RxEvent Unit), (∀ e ∈ es, e.isMpdu) →
      NoFalseDuplicate (run rxStep (phlTidAmpduRxAlloc 0 3) es) ∧
        SlotsInjective (run rxStep (phlTidAmpduRxAlloc 0 3) es) := by
  refine ⟨by decide, fun hall => ?_⟩
  obtain ⟨hno, -⟩ := hall threeFrames (by simp [threeFrames])
  refine hno ⟨4095, by decide, ()⟩ ?_ ?_
  · unfold IsStored
    decide
  · unfold DropsAsStored
    decide

end Rtl8852be

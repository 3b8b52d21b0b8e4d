import Rtl8852be.CmdSer

/-!
# The gate of system error recovery

The answer to other modules comes from the state bits and `bserl2`. While no timer of the firmware
expires and no M5 comes too early, it agrees with the pauses that are held.
-/

namespace Rtl8852be

open Run Function CmdSer List

lemma rx_ne_tx : TrxDir.rx ≠ TrxDir.tx := TrxDir.noConfusion

def SerPauses.None (p : SerPauses) : Prop := (∀ d, p.sw d = false) ∧ p.hw = false

instance (p : SerPauses) : Decidable p.None :=
  decidable_of_iff (p.sw .tx = false ∧ p.sw .rx = false ∧ p.hw = false)
    ⟨fun ⟨ht, hr, hh⟩ => ⟨fun d => by cases d <;> assumption, hh⟩,
      fun ⟨hs, hh⟩ => ⟨hs .tx, hs .rx, hh⟩⟩

lemma serSwResume_eq (io : SerIo) (d : TrxDir) (p : SerPauses) :
    (serSwResume io d p).2 = { p with sw := update p.sw d false } := by
  unfold serSwResume
  by_cases h : p.sw d
  · rw [if_pos h]
  · rw [if_neg h, ← Bool.eq_false_iff.2 h, update_eq_self]

variable {s : CmdSer}

section Handlers

lemma serCalls_eq (io : DataCtlCmd → SerIo) :
    ∀ (cmds : List (DataCtlCmd × (DataCtlStatus → Bool))) (s : CmdSer),
      ∃ p, (serCalls io cmds s).2 = { s with pauses := p }
  | [], s => ⟨s.pauses, rfl⟩
  | (cmd, accepts) :: cmds, s => by
    simp only [serCalls]
    split_ifs
    · obtain ⟨p, hp⟩ := serCalls_eq io cmds (s.dataCtrl (io cmd) cmd).2
      exact ⟨p, hp⟩
    · exact ⟨_, rfl⟩

lemma resetStatus_eq (s : CmdSer) : s.resetStatus.state = 0 ∧ s.resetStatus.bserl2 = s.bserl2 ∧
    s.resetStatus.pauses = s.pauses ∧ s.resetStatus.notices = s.notices := by
  unfold resetStatus
  by_cases h : s.evtsrc = .poll
  · simp [h, setTimer, cmdSerNotOccur]
  · simp [h, cmdSerNotOccur]

lemma m3M5Waiting_eq (s : CmdSer) : s.m3M5Waiting.state = s.state ∧
    s.m3M5Waiting.bserl2 = s.bserl2 ∧ s.m3M5Waiting.notices = s.notices := by
  unfold m3M5Waiting
  split_ifs <;> exact ⟨rfl, rfl, rfl⟩

inductive SerWait (s : CmdSer) : CmdSer → Prop
  | waiting (s' : CmdSer) (hstate : s'.state ≠ 0) (hb : s'.bserl2 = s.bserl2)
    (hl2 : .l2 ∈ s'.notices ↔ .l2 ∈ s.notices) : SerWait s s'
  | gaveUp (s' : CmdSer) (hb : s'.bserl2 = true) (hl2 : .l2 ∈ s'.notices) : SerWait s s'

lemma l2Notify_resetStatus (s : CmdSer) :
    s.l2Notify.resetStatus.bserl2 = true ∧ .l2 ∈ s.l2Notify.resetStatus.notices := by
  obtain ⟨-, hb, -, hn⟩ := resetStatus_eq s.l2Notify
  rw [hb, hn]
  exact ⟨rfl, by simp [l2Notify, CmdSer.tell]⟩

lemma mNotify_waiting (s : CmdSer) (p : SerPauses) {done next : UInt8} (hnext : next ≠ 0)
    {n : SerNotice} (hn : n ≠ .l2) :
    SerWait s (({ s with pauses := p }.mNotify done next n).m3M5Waiting) := by
  obtain ⟨hstate, hb, hnotices⟩ := m3M5Waiting_eq ({ s with pauses := p }.mNotify done next n)
  refine .waiting _ ?_ (by rw [hb]; rfl) ?_
  · rw [hstate]
    exact fun h => hnext (UInt8.or_eq_zero_iff.1 h).2
  · rw [hnotices]
    simp [mNotify, CmdSer.tell, setStatus, clearStatus, Ne.symm hn]

lemma SerWait.of_same {s₁ s' : CmdSer} (h : SerWait s₁ s') (hb : s₁.bserl2 = s.bserl2)
    (hl2 : .l2 ∈ s₁.notices ↔ .l2 ∈ s.notices) : SerWait s s' := by
  cases h with
  | waiting hstate hb' hl2' => exact .waiting _ hstate (hb'.trans hb) (hl2'.trans hl2)
  | gaveUp hb' hl2' => exact .gaveUp _ hb' hl2'

variable (io : DataCtlCmd → SerIo)

lemma serCalls_wait (s : CmdSer) (cmds : List (DataCtlCmd × (DataCtlStatus → Bool)))
    {done next : UInt8} (hnext : next ≠ 0) {n : SerNotice} (hn : n ≠ .l2) :
    SerWait s (match serCalls io cmds s with
      | (true, s) => (s.mNotify done next n).m3M5Waiting
      | (false, s) => s.giveUp) := by
  obtain ⟨p, hp⟩ := serCalls_eq io cmds s
  rcases hres : serCalls io cmds s with ⟨_ | _, s'⟩ <;> rw [hres] at hp <;> obtain rfl := hp
  · obtain ⟨hb, hl2⟩ := l2Notify_resetStatus { s with pauses := p }
    exact .gaveUp _ hb hl2
  · exact mNotify_waiting s p hnext hn

lemma serMsgHdlM1_wait (s : CmdSer) : SerWait s (serMsgHdlM1 io s) := by
  refine (serCalls_wait io _ _ (by decide) (by decide)).of_same ?_ ?_
  · split_ifs <;> rfl
  · simp only [CmdSer.tell, setStatus]
    split_ifs <;> simp [cancelTimer]

lemma serMsgHdlM5_eq (s : CmdSer) :
    (serMsgHdlM5 io s).state = 0 ∧ (serMsgHdlM5 io s).bserl2 = s.bserl2 ∧
      (serMsgHdlM5 io s).pauses = { s.pauses with sw := update s.pauses.sw .tx false } ∧
      (.l2 ∈ (serMsgHdlM5 io s).notices ↔ .l2 ∈ s.notices) := by
  obtain ⟨hstate, hb, hp, hn⟩ := resetStatus_eq
    (((s.cancelTimer.clearStatus cmdSerM4).setStatus cmdSerM5).dataCtrl (io .swTxResume)
      .swTxResume).2
  refine ⟨hstate, hb, hp.trans (serSwResume_eq ..), ?_⟩
  have hnotices : (serMsgHdlM5 io s).notices = s.notices ++ [.clrPendingMsg] :=
    congrArg (· ++ [SerNotice.clrPendingMsg]) hn
  rw [hnotices]
  simp

lemma serMsgHdlPollingChk_eq (recognized : Bool) (s : CmdSer) :
    (serMsgHdlPollingChk recognized s).state = s.state ∧
      (serMsgHdlPollingChk recognized s).bserl2 = s.bserl2 ∧
      (serMsgHdlPollingChk recognized s).pauses = s.pauses ∧
      (serMsgHdlPollingChk recognized s).notices = s.notices := by
  unfold serMsgHdlPollingChk
  split_ifs <;> exact ⟨rfl, rfl, rfl, rfl⟩

lemma serMsgHdlFwExpire_eq (s : CmdSer) :
    (serMsgHdlFwExpire s).bserl2 = true ∧ (serMsgHdlFwExpire s).notices = s.notices := by
  by_cases h : s.evtsrc = .poll <;> simp [serMsgHdlFwExpire, h, setTimer, setStatus]

end Handlers

/-- A recovery begins with M1, or with M3, and ends with M5 or M9. -/
def recovering (ms : List SerMsg) : Bool :=
  ms.foldl (fun b m => match m with
    | .m1PauseTrx _ | .m3DoRecov _ => true
    | .m5Ready _ | .m9L2Reset _ => false
    | _ => b) false

/-- The answers to other modules after the messages `ms`. -/
structure SerGate (ms : List SerMsg) (s : CmdSer) : Prop where
  ignore : serHdlExternalEvt s = .ignore → s.pauses.None
  pending : serHdlExternalEvt s = .pending → recovering ms
  fail : serHdlExternalEvt s = .fail → .l2 ∈ s.notices
  done : ∀ ms' io, ms = ms' ++ [.m5Ready io] → .l2 ∉ s.notices → serHdlExternalEvt s = .ignore

/-- No timer expires and no M5 comes while SER pauses the receiver or the hardware, unless L2 was
notified before. -/
def SerStepOK (s : CmdSer) : SerMsg → Prop
  | .fwTimerExpire => .l2 ∈ s.notices
  | .m5Ready _ => .l2 ∈ s.notices ∨ s.pauses.sw .rx = false ∧ s.pauses.hw = false
  | _ => True

structure SerInv (ms : List SerMsg) (s : CmdSer) : Prop where
  l2 : s.bserl2 = true ↔ .l2 ∈ s.notices
  idle : s.bserl2 = false → s.state = 0 → s.pauses.None
  busy : s.bserl2 = false → s.state ≠ 0 → recovering ms = true

section Run

variable {ms : List SerMsg} {s' : CmdSer}

lemma recovering_append (ms : List SerMsg) (m : SerMsg) : recovering (ms ++ [m]) = match m with
    | .m1PauseTrx _ | .m3DoRecov _ => true
    | .m5Ready _ | .m9L2Reset _ => false
    | _ => recovering ms := by
  rw [recovering, foldl_append]
  rfl

lemma SerInv.start (evtsrc : CmdSerSrc) : SerInv [] (phlSerMdlStart evtsrc) := by
  obtain ⟨hstate, hb, hp, hn⟩ :=
    resetStatus_eq ⟨0, evtsrc, 0, none, false, ⟨fun _ => false, false⟩, []⟩
  refine ⟨?_, fun _ _ => ?_, fun _ hne => absurd hstate hne⟩
  · rw [phlSerMdlStart, hb, hn]
    simp
  · rw [phlSerMdlStart, hp]
    exact ⟨fun _ => rfl, rfl⟩

lemma SerInv.wait (h : SerInv ms s) {m : SerMsg} (hw : SerWait s s')
    (hm : recovering (ms ++ [m]) = true) : SerInv (ms ++ [m]) s' := by
  cases hw with
  | waiting hstate hb hl2 =>
    exact ⟨by rw [hb, hl2]; exact h.l2, fun _ h0 => absurd h0 hstate, fun _ _ => hm⟩
  | gaveUp hb hl2 =>
    refine ⟨iff_of_true hb hl2, fun hf => ?_, fun _ _ => hm⟩
    rw [hb] at hf
    cases hf

lemma SerInv.keep (h : SerInv ms s) {m : SerMsg} (hstate : s'.state = s.state)
    (hb : s'.bserl2 = s.bserl2) (hp : s'.pauses = s.pauses) (hn : s'.notices = s.notices)
    (hm : recovering (ms ++ [m]) = recovering ms) : SerInv (ms ++ [m]) s' := by
  refine ⟨?_, ?_, ?_⟩
  · rw [hb, hn]
    exact h.l2
  · rw [hb, hstate, hp]
    exact h.idle
  · rw [hb, hstate, hm]
    exact h.busy

lemma SerInv.m5 (h : SerInv ms s) (io : DataCtlCmd → SerIo) (hok : SerStepOK s (.m5Ready io)) :
    SerInv (ms ++ [.m5Ready io]) (serMsgHdlM5 io s) := by
  obtain ⟨hstate, hb, hp, hl2⟩ := serMsgHdlM5_eq io s
  refine ⟨by rw [hb, hl2]; exact h.l2, fun hf _ => ?_, fun _ hne => absurd hstate hne⟩
  rw [hb] at hf
  have hno : .l2 ∉ s.notices := by
    rw [← h.l2, hf]
    exact Bool.false_ne_true
  obtain ⟨hrx, hhw⟩ := hok.resolve_left hno
  rw [hp]
  refine ⟨fun d => ?_, hhw⟩
  cases d with
  | tx => exact update_self TrxDir.tx false s.pauses.sw
  | rx => exact (update_of_ne rx_ne_tx false s.pauses.sw).trans hrx

lemma SerInv.step (h : SerInv ms s) (m : SerMsg) (hok : SerStepOK s m) :
    SerInv (ms ++ [m]) (serHdlInternalEvt s m) := by
  cases m with
  | pollingChk recognized =>
    obtain ⟨hstate, hb, hp, hn⟩ := serMsgHdlPollingChk_eq recognized s
    exact h.keep hstate hb hp hn (recovering_append ms _)
  | eventChk | ioTimerExpire => exact h.keep rfl rfl rfl rfl (recovering_append ms _)
  | m1PauseTrx io => exact h.wait (serMsgHdlM1_wait io s) (recovering_append ms _)
  | m3DoRecov io =>
    exact h.wait ((serCalls_wait io _ _ (by decide) (by decide)).of_same rfl Iff.rfl)
      (recovering_append ms _)
  | m5Ready io => exact h.m5 io hok
  | fwTimerExpire =>
    obtain ⟨hb, hn⟩ := serMsgHdlFwExpire_eq s
    rw [serHdlInternalEvt]
    refine ⟨iff_of_true hb (by rw [hn]; exact hok), fun hf => ?_, fun hf => ?_⟩
    all_goals
      cases hf
  | m9L2Reset io =>
    obtain ⟨hb, hl2⟩ : (serMsgHdlM9 io s).bserl2 = true ∧ _ := l2Notify_resetStatus _
    rw [serHdlInternalEvt]
    refine ⟨iff_of_true hb hl2, fun hf => ?_, fun hf => ?_⟩
    all_goals
      rw [hb] at hf
      cases hf

lemma SerInv.run (evtsrc : CmdSerSrc) : ∀ ms : List SerMsg,
    RunOK serHdlInternalEvt SerStepOK (phlSerMdlStart evtsrc) ms →
    SerInv ms (run serHdlInternalEvt (phlSerMdlStart evtsrc) ms) := by
  intro ms
  induction ms using reverseRecOn with
  | nil => exact fun _ => SerInv.start evtsrc
  | append_singleton ms m ih =>
    intro hok
    rw [run_append_singleton]
    exact (ih (hok.of_prefix (prefix_append ms [m]))).step m hok.last

lemma serHdlExternalEvt_ignore :
    serHdlExternalEvt s = .ignore ↔ s.bserl2 = false ∧ s.state = 0 := by
  unfold serHdlExternalEvt
  split_ifs <;> simp_all

lemma serHdlExternalEvt_pending :
    serHdlExternalEvt s = .pending ↔ s.bserl2 = false ∧ s.state ≠ 0 := by
  unfold serHdlExternalEvt
  split_ifs <;> simp_all

lemma serHdlExternalEvt_fail : serHdlExternalEvt s = .fail ↔ s.bserl2 = true := by
  unfold serHdlExternalEvt
  split_ifs <;> simp_all

lemma SerInv.gate (h : SerInv ms s)
    (hm5 : ∀ ms' io, ms = ms' ++ [.m5Ready io] → s.state = 0) : SerGate ms s := by
  refine ⟨?_, ?_, ?_, ?_⟩
  · intro ha
    obtain ⟨hb, h0⟩ := serHdlExternalEvt_ignore.1 ha
    exact h.idle hb h0
  · intro ha
    obtain ⟨hb, h0⟩ := serHdlExternalEvt_pending.1 ha
    exact h.busy hb h0
  · intro ha
    exact h.l2.1 (serHdlExternalEvt_fail.1 ha)
  · intro ms' io he hno
    refine serHdlExternalEvt_ignore.2 ⟨?_, hm5 ms' io he⟩
    rw [← h.l2] at hno
    exact Bool.eq_false_iff.2 hno

theorem ser_gate_run (evtsrc : CmdSerSrc) (ms : List SerMsg)
    (hok : RunOK serHdlInternalEvt SerStepOK (phlSerMdlStart evtsrc) ms) :
    ∀ ms', ms' <+: ms → SerGate ms' (run serHdlInternalEvt (phlSerMdlStart evtsrc) ms') := by
  intro ms' hp
  refine (SerInv.run evtsrc ms' (hok.of_prefix hp)).gate fun ms₁ io he => ?_
  rw [he, run_append_singleton]
  exact (serMsgHdlM5_eq io _).1

def sampleSerIo : DataCtlCmd → SerIo := fun _ => ⟨false, true, true, false, true⟩

def sampleSerMsgs : List SerMsg :=
  [.m1PauseTrx sampleSerIo, .m3DoRecov sampleSerIo, .m5Ready sampleSerIo]

theorem ser_gate_run_recovery :
    SerGate sampleSerMsgs (run serHdlInternalEvt (phlSerMdlStart .int) sampleSerMsgs) ∧
      serHdlExternalEvt (run serHdlInternalEvt (phlSerMdlStart .int) sampleSerMsgs) = .ignore := by
  refine ⟨ser_gate_run .int sampleSerMsgs ?_ sampleSerMsgs (prefix_refl _), by decide⟩
  exact ⟨trivial, trivial, .inr (by decide), trivial⟩

def afterM1 (ms : List SerMsg) : CmdSer :=
  run serHdlInternalEvt (phlSerMdlStart .int) (.m1PauseTrx sampleSerIo :: ms)

/-- The firmware is late: the failure was not notified, and stays. An M5 right after M1 opens the
gate while the receiver and the hardware are paused. -/
theorem ser_gate_fails :
    let late := afterM1 [.fwTimerExpire, .m3DoRecov sampleSerIo, .m5Ready sampleSerIo]
    (serHdlExternalEvt (afterM1 [.fwTimerExpire]) = .fail ∧
      .l2 ∉ (afterM1 [.fwTimerExpire]).notices) ∧
    (serHdlExternalEvt late = .fail ∧ .l2 ∉ late.notices) ∧
    serHdlExternalEvt (afterM1 [.m5Ready sampleSerIo]) = .ignore ∧
      ¬ (afterM1 [.m5Ready sampleSerIo]).pauses.None := by
  decide

end Run

end Rtl8852be

import Rtl8852be.DataCtrl

/-!
# Who may resume

A direction's state becomes running in one access only, that of a resume that has just found nobody
left who pauses it, and a module's bit is cleared in one access only, that of its own resume.
-/

namespace Rtl8852be

open Run Function DataCtrl

variable {s s' : DataCtrl} {d : TrxDir} {m : DataCtrlMdl} {id : PauseId}
variable {d' : TrxDir} {pc pc' : DataPc} {o : Option DataCtrlMdl}

def TrxSts.Stopped (sts : TrxSts) : Prop := sts = .stopInprogress ∨ sts = .swPause

@[local simp] def DataPc.op : DataPc → Option DataOp
  | .idle => none
  | .chkPause d | .chkStop d | .reqStop d | .notifyStop d | .poll d _ | .setFlag d _ =>
    some (.swPause d)
  | .testFlag d | .clearFlag d | .chkNone d | .resume d | .notifyResume d => some (.swResume d)
  | .rst d => some (.swRst d)
  | .hwTrxPause => some .hwTrxPause
  | .hwTrxRstResume => some .hwTrxRstResume

@[local simp] def DataPc.Stopping (d : TrxDir) : DataPc → Prop
  | .notifyStop d' | .poll d' _ | .setFlag d' _ => d' = d
  | _ => False

section

variable (op : DataOp) (s : DataCtrl)

lemma DataPc.Stopping.eq (h : pc.Stopping d) (h' : pc.Stopping d') : d = d' := by
  cases pc with
  | notifyStop | poll | setFlag => exact h.symm.trans h'
  | _ => exact h.elim

lemma DataPc.Stopping.ne_resume (h : pc.Stopping d) : pc ≠ .resume d' := by
  rintro rfl
  exact h

@[simp] lemma DataOp.op_pc : op.pc.op = some op := by cases op <;> rfl

@[simp] lemma DataOp.not_stopping : ¬ op.pc.Stopping d := by cases op <;> exact id

@[simp] lemma DataOp.pc_ne_resume : op.pc ≠ .resume d := by cases op <;> simp [pc]

lemma PauseId.setFlag_mono (h : id m = true) : id.setFlag o m = true := by
  cases o with
  | none => exact h
  | some m' => by_cases hm : m = m' <;> simp [setFlag, hm, h]

lemma PauseId.clearFlag_le (h : id.clearFlag o m = true) : id m = true := by
  cases o with
  | none => exact h
  | some m' => by_cases hm : m = m' <;> simp_all

lemma PauseId.clearFlag_own (h : id m = true) (h' : id.clearFlag o m = false) : o = some m := by
  cases o with
  | none => simp [h] at h'
  | some m' => by_cases hm : m = m' <;> simp_all

lemma PauseId.not_of_isNone (h : id.isNone) : id m = false := by
  simp only [isNone, Bool.and_eq_true, Bool.not_eq_true'] at h
  cases m
  exacts [h.1.1, h.1.2, h.2]

@[simp] lemma goto_path (pc : DataPc) : (s.goto pc).path = s.path := rfl

@[simp] lemma next_path : s.next.path = s.path := by
  unfold next
  split <;> rfl

@[simp] lemma stop_path (sts : DataCtlStatus) (err : DataCtrlErrCode) :
    (s.stop sts err).path = s.path := rfl

@[simp] lemma setHwTrxPause_path (pause : Bool) :
    (s.setHwTrxPause pause).path = s.path := rfl

@[simp] lemma setSts_self (d : TrxDir) (sts : TrxSts) :
    (s.setSts d sts).path d = { s.path d with sts := sts } := update_self _ _ _

@[simp] lemma setPauseId_self (d : TrxDir) (id : PauseId) :
    (s.setPauseId d id).path d = { s.path d with pauseId := id } := update_self _ _ _

end

lemma setPath_of_ne (h : d' ≠ d) (s : DataCtrl) (p : TrxPath) :
    (s.setPath d p).path d' = s.path d' := update_of_ne h _ _

/-- The four accesses that write, and what they write. -/
lemma dataCtrlTick_path (io : DataIo) (s : DataCtrl) (d : TrxDir) :
    (dataCtrlTick io s).path d = s.path d ∨
    (s.pc = .reqStop d ∧ (dataCtrlTick io s).path d = { s.path d with sts := .stopInprogress }) ∨
    ((∃ sts, s.pc = .setFlag d sts) ∧ (dataCtrlTick io s).path d =
      { s.path d with pauseId := (s.path d).pauseId.setFlag (phlGetCtrlMdl s.id) }) ∨
    (s.pc = .clearFlag d ∧ (dataCtrlTick io s).path d =
      { s.path d with pauseId := (s.path d).pauseId.clearFlag (phlGetCtrlMdl s.id) }) ∨
    (s.pc = .resume d ∧ (dataCtrlTick io s).path d = { s.path d with sts := .running }) := by
  cases hpc : s.pc with
  | reqStop d' =>
    simp only [dataCtrlTick, hpc, goto_path]
    by_cases hd : d = d'
    · subst hd
      exact .inr (.inl ⟨rfl, by simp⟩)
    · exact .inl (setPath_of_ne hd s _)
  | setFlag d' sts =>
    simp only [dataCtrlTick, hpc]
    by_cases hd : d = d'
    · subst hd
      refine .inr (.inr (.inl ⟨⟨sts, rfl⟩, ?_⟩))
      split_ifs <;> simp
    · refine .inl ?_
      split_ifs <;> simp [setPauseId, setPath_of_ne hd]
  | clearFlag d' =>
    simp only [dataCtrlTick, hpc, goto_path]
    by_cases hd : d = d'
    · subst hd
      exact .inr (.inr (.inr (.inl ⟨rfl, by simp⟩)))
    · exact .inl (setPath_of_ne hd s _)
  | resume d' =>
    simp only [dataCtrlTick, hpc, goto_path]
    by_cases hd : d = d'
    · subst hd
      exact .inr (.inr (.inr (.inr ⟨rfl, by simp⟩)))
    · exact .inl (setPath_of_ne hd s _)
  | poll d' left =>
    refine .inl ?_
    cases left <;> simp [dataCtrlTick, hpc]
    split_ifs <;> rfl
  | idle | chkPause | chkStop | notifyStop | testFlag | chkNone | notifyResume | rst | hwTrxPause
  | hwTrxRstResume =>
    refine .inl ?_
    simp only [dataCtrlTick, hpc]
    try split_ifs
    all_goals simp

structure PauseInv (s : DataCtrl) : Prop where
  held : ∀ d m, (s.path d).pauseId m = true → (s.path d).sts.Stopped
  stopping : ∀ d, s.pc.Stopping d → (s.path d).sts.Stopped
  resuming : ∀ d, s.pc = .resume d → (s.path d).pauseId.isNone
  current : ∀ op, s.pc.op = some op → op ∈ s.cmd.ops
  todo : ∀ op ∈ s.todo, op ∈ s.cmd.ops

lemma PauseInv.goto (h : PauseInv s) (hpc : s.pc = pc) (hop : pc'.op = pc.op)
    (hstop : ∀ d, pc'.Stopping d → (s.path d).sts.Stopped)
    (hres : ∀ d, pc' = .resume d → (s.path d).pauseId.isNone) : PauseInv (s.goto pc') where
  held := h.held
  stopping := hstop
  resuming := hres
  current := fun op hpc' => h.current op (by rw [hpc, ← hop]; exact hpc')
  todo := h.todo

section

variable (h : PauseInv s)
include h

lemma PauseInv.gotoStopping (hpc : s.pc = pc) (hop : pc'.op = pc.op)
    (hd : pc'.Stopping d) (hstop : (s.path d).sts.Stopped) : PauseInv (s.goto pc') := by
  refine h.goto hpc hop (fun d' hd' => ?_) fun d' hd' => absurd hd' hd.ne_resume
  rwa [← hd.eq hd']

lemma PauseInv.gotoPlain (hpc : s.pc = pc) (hop : pc'.op = pc.op)
    (hstop : ∀ d, ¬ pc'.Stopping d) (hres : ∀ d, pc' ≠ .resume d) : PauseInv (s.goto pc') :=
  h.goto hpc hop (fun d hd => absurd hd (hstop d)) fun d hd => absurd hd (hres d)

lemma PauseInv.begin (hpath : s'.path = s.path)
    (hpc : s'.pc = .idle ∨ ∃ op ∈ s'.cmd.ops, s'.pc = op.pc)
    (htodo : ∀ op ∈ s'.todo, op ∈ s'.cmd.ops) : PauseInv s' where
  held := hpath ▸ h.held
  stopping := by
    intro d hd
    rcases hpc with hpc | ⟨op, -, hpc⟩ <;> rw [hpc] at hd
    · exact hd.elim
    · exact absurd hd op.not_stopping
  resuming := by
    intro d hd
    rcases hpc with hpc | ⟨op, -, hpc⟩ <;> rw [hpc] at hd
    · cases hd
    · exact absurd hd op.pc_ne_resume
  current := by
    intro op hop
    rcases hpc with hpc | ⟨op', hop', hpc⟩ <;> rw [hpc] at hop
    · cases hop
    · rw [DataOp.op_pc, Option.some.injEq] at hop
      exact hop ▸ hop'
  todo := htodo

lemma PauseInv.next : PauseInv s.next := by
  refine h.begin (next_path s) ?_ ?_ <;> unfold DataCtrl.next
  · split
    · exact .inl rfl
    · rename_i op ops htodo
      exact .inr ⟨op, h.todo op (by simp [htodo]), rfl⟩
  · split
    · exact h.todo
    · rename_i op ops htodo
      exact fun op' hop' => h.todo op' (by simp [htodo, hop'])

lemma PauseInv.stop (sts : DataCtlStatus) (err : DataCtrlErrCode) : PauseInv (s.stop sts err) :=
  h.begin rfl (.inl rfl) (by simp [DataCtrl.stop])

lemma PauseInv.setPath {p : TrxPath}
    (hheld : ∀ m, p.pauseId m = true → p.sts.Stopped) (hstop : s.pc.Stopping d → p.sts.Stopped)
    (hres : s.pc = .resume d → p.pauseId.isNone) : PauseInv (s.setPath d p) where
  held := (forall_update_iff s.path fun _ p => ∀ m, p.pauseId m = true → p.sts.Stopped).2
    ⟨hheld, fun d' _ => h.held d'⟩
  stopping := fun d' hd' => by
    by_cases hd : d' = d
    · subst hd
      simpa [setPath] using hstop hd'
    · rw [setPath_of_ne hd]
      exact h.stopping d' hd'
  resuming := fun d' hd' => by
    by_cases hd : d' = d
    · subst hd
      simpa [setPath] using hres hd'
    · rw [setPath_of_ne hd]
      exact h.resuming d' hd'
  current := h.current
  todo := h.todo

lemma PauseInv.setHwTrxPause (pause : Bool) : PauseInv (s.setHwTrxPause pause) :=
  ⟨h.held, h.stopping, h.resuming, h.current, h.todo⟩

lemma PauseInv.call (cmd : DataCtlCmd) (id : PhlModuleId) (outbuf : Bool) :
    PauseInv (phlDataCtrler cmd id outbuf s) := by
  unfold phlDataCtrler
  split_ifs with hidle
  · split
    · exact h.begin rfl (.inl hidle) (by simp)
    · rename_i op ops hops
      exact h.begin rfl (.inr ⟨op, by simp [hops], rfl⟩) fun op' hop' => by simp [hops, hop']
  · exact h

lemma PauseInv.tick (io : DataIo) : PauseInv (dataCtrlTick io s) := by
  unfold dataCtrlTick
  cases hpc : s.pc with
  | idle => exact h
  | chkPause d =>
    dsimp only
    split_ifs with hsts
    · exact h.gotoStopping hpc rfl rfl (.inr hsts)
    · exact h.gotoPlain hpc rfl (fun _ => id) (by simp)
  | chkStop d =>
    dsimp only
    split_ifs with hsts
    · exact h.gotoStopping hpc rfl rfl (.inl hsts)
    · exact h.gotoPlain hpc rfl (fun _ => id) (by simp)
  | reqStop d =>
    have hset : PauseInv (s.setSts d .stopInprogress) :=
      h.setPath (fun _ _ => .inl rfl) (fun _ => .inl rfl) (by simp [hpc])
    exact hset.gotoStopping hpc rfl rfl (by simp [TrxSts.Stopped])
  | notifyStop d =>
    split_ifs
    · exact h.gotoStopping hpc rfl rfl (h.stopping d (by rw [hpc]; rfl))
    · exact h.stop _ _
  | poll d left =>
    have hstop : (s.path d).sts.Stopped := h.stopping d (by rw [hpc]; rfl)
    cases left with
    | zero =>
      exact h.gotoStopping hpc rfl rfl hstop
    | succ left =>
      dsimp only
      split_ifs <;> exact h.gotoStopping hpc rfl rfl hstop
  | setFlag d sts =>
    dsimp only
    have hstop : (s.path d).sts.Stopped := h.stopping d (by rw [hpc]; rfl)
    have hset : PauseInv (s.setPauseId d ((s.path d).pauseId.setFlag (phlGetCtrlMdl s.id))) :=
      h.setPath (fun _ _ => hstop) (fun _ => hstop) (by simp [hpc])
    split_ifs
    · exact hset.next
    · exact hset.stop _ _
  | testFlag d =>
    dsimp only
    split_ifs
    · exact h.gotoPlain hpc rfl (fun _ => id) (by simp)
    · exact h.stop _ _
  | clearFlag d =>
    have hset : PauseInv (s.setPauseId d ((s.path d).pauseId.clearFlag (phlGetCtrlMdl s.id))) :=
      h.setPath (fun m hm => h.held d m (PauseId.clearFlag_le hm)) (by simp [hpc])
        (by simp [hpc])
    exact hset.gotoPlain hpc rfl (fun _ => id) (by simp)
  | chkNone d =>
    dsimp only
    split_ifs with hnone
    · refine h.goto hpc rfl (fun _ => False.elim) fun d' hd' => ?_
      obtain rfl : d = d' := DataPc.resume.inj hd'
      exact hnone
    · exact h.next
  | resume d =>
    have hnone : ∀ m, (s.path d).pauseId m = false := fun m =>
      PauseId.not_of_isNone (h.resuming d hpc)
    have hset : PauseInv (s.setSts d .running) :=
      h.setPath (by simp [hnone]) (by simp [hpc]) (fun _ => h.resuming d hpc)
    exact hset.gotoPlain hpc rfl (fun _ => id) (by simp)
  | notifyResume d =>
    split_ifs
    · exact h.next
    · exact h.stop _ _
  | rst d => exact h.next
  | hwTrxPause | hwTrxRstResume =>
    split_ifs
    · exact (h.setHwTrxPause _).next
    · exact h.stop _ _

end

lemma callbackTick_cases (d : TrxDir) (s : DataCtrl) (a : CallbackAccess) :
    callbackTick d s a = s ∨ ∃ p, callbackTick d s a = s.setPath d p ∧
      p.pauseId = (s.path d).pauseId ∧ (p.sts = (s.path d).sts ∨ p.sts = .swPause) := by
  cases a with
  | enter =>
    simp only [callbackTick, callbackEnter]
    split_ifs
    · exact .inl rfl
    · exact .inr ⟨_, rfl, rfl, .inl rfl⟩
  | chkStop =>
    simp only [callbackTick, callbackChkStop]
    split_ifs
    · exact .inl rfl
    · exact .inr ⟨_, rfl, rfl, .inl rfl⟩
    · exact .inr ⟨_, rfl, rfl, .inl rfl⟩
  | stop =>
    simp only [callbackTick, callbackStop]
    split_ifs
    · exact .inl rfl
    · exact .inr ⟨_, rfl, rfl, .inr rfl⟩

lemma PauseInv.callback (h : PauseInv s) (d : TrxDir) (a : CallbackAccess) :
    PauseInv (callbackTick d s a) := by
  rcases callbackTick_cases d s a with heq | ⟨p, heq, hid, hsts⟩ <;> rw [heq]
  · exact h
  have hkeep : (s.path d).sts.Stopped → p.sts.Stopped := fun hs =>
    hsts.elim (fun heq => heq ▸ hs) .inr
  exact h.setPath (fun m hm => hkeep (h.held d m (hid ▸ hm))) (fun hd => hkeep (h.stopping d hd))
    (fun hpc => hid ▸ h.resuming d hpc)

lemma PauseInv.step (h : PauseInv s) (e : DataEvent) : PauseInv (dataCtrlStep s e) := by
  cases e with
  | cmd cmd id outbuf => exact h.call cmd id outbuf
  | tick io => exact h.tick io
  | callback d a => exact h.callback d a

lemma dataCtrlInit_inv (sts : TrxDir → TrxSts) : PauseInv (dataCtrlInit sts) where
  held := by simp
  stopping := by simp
  resuming := by simp
  current := by simp
  todo := by simp

/-- A direction runs again by a resume that leaves nobody's pause, and a module's pause ends by its
own resume. -/
structure PauseStep (s s' : DataCtrl) : Prop where
  running : ∀ d, (s.path d).sts ≠ .running → (s'.path d).sts = .running →
    s.pc = .resume d ∧ .swResume d ∈ s.cmd.ops ∧ (s'.path d).pauseId.isNone
  released : ∀ d m, (s.path d).pauseId m = true → (s'.path d).pauseId m = false →
    s.pc = .clearFlag d ∧ .swResume d ∈ s.cmd.ops ∧ phlGetCtrlMdl s.id = some m

lemma PauseInv.tick_pauses (h : PauseInv s) (io : DataIo) : PauseStep s (dataCtrlTick io s) where
  running := by
    intro d hrun hrun'
    rcases dataCtrlTick_path io s d with hp | ⟨-, hp⟩ | ⟨-, hp⟩ | ⟨-, hp⟩ | ⟨hpc, hp⟩ <;>
      rw [hp] at hrun' ⊢
    · exact absurd hrun' hrun
    · cases hrun'
    · exact absurd hrun' hrun
    · exact absurd hrun' hrun
    · exact ⟨hpc, h.current _ (by simp [hpc]), h.resuming d hpc⟩
  released := by
    intro d m hm hm'
    rcases dataCtrlTick_path io s d with hp | ⟨-, hp⟩ | ⟨-, hp⟩ | ⟨hpc, hp⟩ | ⟨-, hp⟩ <;>
      rw [hp] at hm'
    · simp [hm] at hm'
    · simp [hm] at hm'
    · simp [PauseId.setFlag_mono hm] at hm'
    · exact ⟨hpc, h.current _ (by simp [hpc]), PauseId.clearFlag_own hm hm'⟩
    · simp [hm] at hm'

lemma PauseStep.of_keeps (h : ∀ d, (s'.path d).pauseId = (s.path d).pauseId ∧
      ((s'.path d).sts = (s.path d).sts ∨ (s'.path d).sts = .swPause)) : PauseStep s s' where
  running := by
    intro d hrun hrun'
    rcases (h d).2 with hsts | hsts <;> rw [hsts] at hrun'
    · exact absurd hrun' hrun
    · cases hrun'
  released := by
    intro d m hm hm'
    rw [(h d).1, hm] at hm'
    cases hm'

lemma PauseInv.step_pauses (h : PauseInv s) (e : DataEvent) : PauseStep s (dataCtrlStep s e) := by
  cases e with
  | cmd cmd id outbuf =>
    refine .of_keeps fun d => ?_
    simp only [dataCtrlStep, phlDataCtrler]
    split_ifs
    · split <;> exact ⟨rfl, .inl rfl⟩
    · exact ⟨rfl, .inl rfl⟩
  | tick io => exact h.tick_pauses io
  | callback d a =>
    refine .of_keeps fun d' => ?_
    rw [dataCtrlStep]
    rcases callbackTick_cases d s a with heq | ⟨p, heq, hid, hsts⟩ <;> rw [heq]
    · exact ⟨rfl, .inl rfl⟩
    by_cases hd : d' = d
    · subst hd
      simpa [DataCtrl.setPath] using ⟨hid, hsts⟩
    · rw [setPath_of_ne hd]
      exact ⟨rfl, .inl rfl⟩

/-- A direction that a module pauses is stopped or is about to be. -/
theorem pause_accounting (sts : TrxDir → TrxSts) (es : List DataEvent) :
    (∀ d m, ((dataCtrlRun sts es).path d).pauseId m = true →
      ((dataCtrlRun sts es).path d).sts = .stopInprogress ∨
        ((dataCtrlRun sts es).path d).sts = .swPause) ∧
    ∀ e, PauseStep (dataCtrlRun sts es) (dataCtrlStep (dataCtrlRun sts es) e) := by
  have hinv : PauseInv (dataCtrlRun sts es) :=
    run_inv_all dataCtrlStep (fun s e h => h.step e) es _ (dataCtrlInit_inv sts)
  exact ⟨hinv.held, hinv.step_pauses⟩

/-- The command controller pauses the transmitter, recovery pauses it too, and the command
controller resumes. The transmitter stays paused. -/
example :
    let tick := DataEvent.tick ⟨true, true⟩
    let s := dataCtrlRun (fun _ => .running)
      ([.cmd .swTxPause .phyMgnt false, tick, tick, tick, tick, .callback .tx .enter,
        .callback .tx .chkStop, .callback .tx .stop, tick, tick,
        .cmd .swTxPause .ser false, tick, tick,
        .cmd .swTxResume .phyMgnt false, tick, tick, tick])
    (s.path .tx).sts = .swPause ∧ (s.path .tx).pauseId .ser = true
      ∧ (s.path .tx).pauseId .cmdCtrler = false ∧ s.pc = .idle ∧ s.sts = .success := by
  decide

end Rtl8852be

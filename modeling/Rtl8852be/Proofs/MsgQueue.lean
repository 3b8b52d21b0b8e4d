import Rtl8852be.Proofs.MsgLedger
import Rtl8852be.Lib.Run

/-!
# The queues keep the ledger

Each step of the dispatcher is an operation of the ledger or leaves it as it is. Controllers stay in
front as long as `clear_pending_msg` does not put one of them at the end.
-/

namespace Rtl8852be

open Places Run Function List CntQueue LedgerOp ThreadPc DisprMsg

variable {ex : MsgEx} {s' : DisprMsg} {e : MsgQueueEvent}

def MsgEx.key (ex : MsgEx) : MsgKey := ⟨ex.completes, ex.isDisprCtrl⟩

@[simp] def DisprMsg.places (s : DisprMsg) : MsgPlace → CntQueue MsgSlot
  | .idle => s.msgIdleQ
  | .wait => s.msgWaitQ
  | .pend => s.msgPendQ
  | .held => ⟨s.pc.held, s.pc.held.length⟩
  | .sending => ⟨s.sending, s.sending.length⟩

@[local simp] def DisprMsg.ledger (s : DisprMsg) : Ledger where
  q := s.places
  key := fun i => (s.msgExPool i).key
  tag := s.tag
  sent := s.sent
  taken := s.taken
  completed := s.completed

@[simp] lemma ledger_q (s : DisprMsg) : s.ledger.q = s.places := rfl

variable (mods : Modules)

section Key

variable (io : HdlrIo)

lemma feedMdlMsg_key (id : ModuleId) (d : Dispatching) :
    (feedMdlMsg mods io id d).2.ex.key = d.ex.key := by
  simp only [feedMdlMsg]
  cases io.ret id d.ex.indcPrePhase <;> cases io.cancel id d.ex.indcPrePhase <;>
    cases d.ex.indcPrePhase <;> rfl

lemma feedLoop_key (mods : Modules) (io : HdlrIo) (pre : Bool) :
    ∀ (mdls : List BkModule) (d : Dispatching), (feedLoop mods io pre mdls d).ex.key = d.ex.key
  | [], _ => rfl
  | mdl :: mdls, d => by
    rw [feedLoop]
    dsimp only
    split_ifs
    · exact feedLoop_key mods io pre mdls d
    · exact feedMdlMsg_key mods io mdl.id d
    · rw [feedLoop_key mods io pre mdls, feedMdlMsg_key]

variable (d : Dispatching)

lemma dispatchPost_key : (dispatchPost mods io d).2.ex.key = d.ex.key := by
  simp only [dispatchPost]
  set t : Dispatching := { d with ex := getMsgBitmap { d.ex with prePhase := false } } with ht
  have hwalk : (if t.ex.postmap ≠ 0 then msgPostPhaseHdl mods io t else t).ex.key = d.ex.key := by
    split_ifs
    · exact feedLoop_key mods io false _ t
    · rfl
  generalize (if t.ex.postmap ≠ 0 then msgPostPhaseHdl mods io t else t) = walked at hwalk ⊢
  split
  · exact hwalk
  · split_ifs <;> exact hwalk

lemma dispatchPre_key : (dispatchPre mods io d).2.ex.key = d.ex.key := by
  simp only [dispatchPre]
  have hwalk : (if d.ex.indcPrePhase = true ∧ d.ex.premap ≠ 0 then msgPrePhaseHdl mods io d
      else d).ex.key = d.ex.key := by
    split_ifs
    · exact feedLoop_key mods io true _ d
    · rfl
  generalize (if d.ex.indcPrePhase = true ∧ d.ex.premap ≠ 0 then msgPrePhaseHdl mods io d else d) =
    walked at hwalk ⊢
  split
  · exact hwalk
  · split_ifs
    · rw [dispatchPost_key, hwalk]
    · exact hwalk

lemma msgDispatch_key : (msgDispatch mods io d).2.ex.key = d.ex.key := by
  have hctrl : ∀ d : Dispatching, (notifyDisprController mods io d).ex.key = d.ex.key := by
    intro d
    simp only [notifyDisprController]
    split
    · rfl
    · exact feedMdlMsg_key mods io _ d
  simp only [msgDispatch]
  split
  · rfl
  split
  · exact hctrl _
  · rw [dispatchPre_key, hctrl]
    rfl

def PendingIfRescheduled (res : Redirect × Dispatching) : Prop :=
  res.1 = .reschedule → res.2.ex.pending = true

lemma pendingIfRescheduled_chk {next : Redirect × Dispatching}
    (hnext : PendingIfRescheduled next) (d : Dispatching) :
    PendingIfRescheduled (match msgRedirectChk d.ex with
      | some redirect => (redirect, d)
      | none => next) := by
  split
  · rename_i redirect hchk
    rintro rfl
    by_contra hpend
    simp [msgRedirectChk, hpend] at hchk
  · exact hnext

lemma dispatchPost_reschedule : PendingIfRescheduled (dispatchPost mods io d) := by
  refine pendingIfRescheduled_chk ?_ _
  split_ifs <;> exact nofun

lemma dispatchPre_reschedule : PendingIfRescheduled (dispatchPre mods io d) := by
  refine pendingIfRescheduled_chk ?_ _
  split_ifs
  all_goals first | exact dispatchPost_reschedule mods io _ | exact nofun

lemma msgDispatch_reschedule : PendingIfRescheduled (msgDispatch mods io d) :=
  pendingIfRescheduled_chk (pendingIfRescheduled_chk (dispatchPre_reschedule mods io _) _) _

lemma isMsgCanceled_key (s : DisprMsg) (ex : MsgEx) : (isMsgCanceled s ex).2.key = ex.key := by
  unfold isMsgCanceled
  split_ifs <;> rfl

end Key

section Moves

variable {s : DisprMsg} {i : MsgSlot} {c : ThreadPc}

section

variable (s : DisprMsg) (i : MsgSlot) (ex : MsgEx)

lemma key_setEx : (s.setEx i ex).ledger.key = update s.ledger.key i ex.key := by
  funext j
  by_cases hj : j = i
  · subst hj
    simp
  · simp [hj]

lemma key_setEx_twice (ex' : MsgEx) :
    ((s.setEx i ex).setEx i ex').ledger.key = update s.ledger.key i ex'.key := by
  rw [key_setEx, key_setEx, update_idem]

lemma setEx_self : (s.setEx i ex).msgExPool i = ex := update_self _ _ _

end

lemma key_setEx_self (h : ex.key = (s.msgExPool i).key) :
    (s.setEx i ex).ledger.key = s.ledger.key := by
  rw [key_setEx, h]
  exact update_eq_self i s.ledger.key

lemma ledger_setEx (h : ex.key = (s.msgExPool i).key) : (s.setEx i ex).ledger = s.ledger :=
  Ledger.ext rfl (key_setEx_self h) rfl rfl rfl rfl

lemma mem_held (h : s.pc.held = [i]) : i ∈ (s.ledger.q .held).items := by
  simp [h]

section

variable (hheld : s.pc.held = [i]) (hc : c.held = [])
include hheld hc

lemma complete_ledger : ((pushBackIdleMsg i s).goto c).ledger =
      apply s.ledger (.complete i (idleMsg (s.msgExPool i)).key) := by
  refine Ledger.ext ?_ (key_setEx s i _) rfl rfl rfl ?_
  · show _ = shift s.places i .held .idle (·.pushTail i)
    refine eq_shift (by decide) ?_ rfl ?_
    · simp [hheld, hc, erase]
    · rintro ⟨⟩ <;> simp [pushBackIdleMsg]
  · rfl

lemma pend_ledger :
    ((pushBackPendingMsg i s).goto c).ledger = apply s.ledger (.pend i) := by
  refine Ledger.ext ?_ (key_setEx_self rfl) rfl rfl rfl rfl
  show _ = shift s.places i .held .pend (·.pushTail i)
  refine eq_shift (by decide) ?_ rfl ?_
  · simp [hheld, hc, erase]
  · rintro ⟨⟩ <;> simp [pushBackPendingMsg]

lemma pushBackWait_ledger :
    ((pushBackWaitMsg i s).goto c).ledger = apply s.ledger (.resume i false) := by
  refine Ledger.ext ?_ (key_setEx_self rfl) rfl rfl rfl rfl
  refine eq_shift (by decide) ?_ ?_ ?_
  · simp [hheld, hc, erase]
  · exact (insertBefore_eq_pushTail _ (fun _ => rfl) i).symm
  · rintro ⟨⟩ <;> simp

lemma insertMsg_ledger : ((insertMsgByPriority i s).goto c).ledger =
      apply s.ledger (.resume i (s.msgExPool i).isDisprCtrl) := by
  refine Ledger.ext ?_ (key_setEx_self rfl) rfl rfl rfl rfl
  refine eq_shift (by decide) ?_ rfl ?_
  · simp [hheld, hc, erase]
  · rintro ⟨⟩ <;> simp [insertMsgByPriority]

lemma resumeMsg_ledger : ((resumeMsg i s).goto c).ledger = apply s.ledger
        (.resume i (decide ((s.msgExPool i).evtId < 10) && (s.msgExPool i).isDisprCtrl)) := by
  unfold resumeMsg
  split_ifs with hevt
  · simpa [hevt] using insertMsg_ledger hheld hc
  · simpa [hevt] using pushBackWait_ledger hheld hc

end

lemma unpend_ledger (hpop : popFrontPendingMsg s = some (i, s')) (hheld : s.pc.held = [])
    (hc : c.held = [i]) :
    i ∈ (s.ledger.q .pend).items ∧ (s'.goto c).ledger = apply s.ledger (.unpend i) := by
  unfold popFrontPendingMsg at hpop
  split at hpop
  · cases hpop
  rename_i j rest hitems
  cases hpop
  refine ⟨by simp [hitems], Ledger.ext ?_ rfl rfl rfl rfl rfl⟩
  show _ = shift s.places i .pend .held (·.pushTail i)
  refine eq_shift (by decide) (dropFirst_eq_erase hitems) ?_ ?_
  · simp [hheld, hc, pushTail]
  · rintro ⟨⟩ <;> simp

lemma take_ledger (hpop : popFrontWaitMsg s = some (i, s')) (hheld : s.pc.held = [])
    (hc : c.held = [i]) :
    LedgerOp.Enabled s.ledger (.take i) ∧ (s'.goto c).ledger = apply s.ledger (.take i) := by
  unfold popFrontWaitMsg at hpop
  split at hpop
  · cases hpop
  rename_i j rest hitems
  cases hpop
  refine ⟨by simp [LedgerOp.Enabled, hitems], Ledger.ext ?_ (key_setEx_self rfl) rfl rfl rfl rfl⟩
  show _ = shift s.places i .wait .held (·.pushTail i)
  refine eq_shift (by decide) (dropFirst_eq_erase hitems) ?_ ?_
  · simp [hheld, hc, pushTail]
  · rintro ⟨⟩ <;> simp

end Moves

def DisprMsg.Appends (s : DisprMsg) (i : MsgSlot) : Prop :=
  s.pc = .moving i ∨
    s.pc = .resuming i ∧ ((s.msgExPool i).isDisprCtrl = true → 10 ≤ (s.msgExPool i).evtId)

def MsgQueueEvent.isThread : MsgQueueEvent → Bool
  | .thread _ => true
  | _ => false

/-- A step, of the thread or not, is an operation of the ledger or none. -/
inductive Refines (s : DisprMsg) (thread : Bool) (s' : DisprMsg) : Prop
  | same (h : s'.ledger = s.ledger)
  | op (op : LedgerOp) (hen : op.Enabled s.ledger) (h : s'.ledger = op.apply s.ledger)
    (happ : ∀ i, op = .resume i false → thread = true ∧ s.Appends i)

section Refines

variable {s : DisprMsg} {i : MsgSlot}

lemma sendPop_refines (k : ℕ) (s : DisprMsg) : Refines s false (sendPop k s) := by
  unfold sendPop
  split
  · exact .same rfl
  dsimp only
  split
  · exact .same rfl
  rename_i i s' hpop
  unfold popFrontIdleMsg at hpop
  split at hpop
  · cases hpop
  rename_i j rest hitems
  cases hpop
  refine .op (.alloc i clearedMsg.key) ?_ ?_ nofun
  · have hmem : i ∈ s.msgIdleQ.items := by
      rw [show s.msgIdleQ.items = i :: rest from hitems]
      simp
    exact hmem
  · refine Ledger.ext ?_ (key_setEx s i _) rfl rfl rfl rfl
    show _ = shift s.places i .idle .sending (·.pushTail i)
    refine eq_shift (by decide) (dropFirst_eq_erase hitems) ?_ ?_
    · simp [pushTail]
    · rintro ⟨⟩ <;> simp

lemma fillMsg_args (a : SendArgs) :
    (fillMsg mods a).notifyComplete = a.completion ∧ (fillMsg mods a).completion = a.completion ∧
      (fillMsg mods a).mdlId = a.mdlId := by
  simp only [fillMsg, setMsgAttr, SendArgs.completion]
  rcases a.attr with _ | attr <;> exact ⟨rfl, rfl, rfl⟩

lemma erase_sending (hi : i ∈ s.sending) :
    (⟨s.sending.erase i, (s.sending.erase i).length⟩ : CntQueue MsgSlot) =
      (s.places .sending).erase i := by
  simp [erase, length_erase_of_mem hi]

lemma refuse_ledger (ex : MsgEx) (hi : i ∈ s.sending) (htag : s.tag i = none) :
    (pushBackIdleMsg i ({ s with sending := s.sending.erase i }.setEx i ex)).ledger =
      apply s.ledger (.refuse i (idleMsg ex).key) := by
  refine Ledger.ext ?_ ?_ rfl rfl rfl ?_
  · show _ = shift s.places i .sending .idle (·.pushTail i)
    refine eq_shift (by decide) (erase_sending hi) rfl ?_
    rintro ⟨⟩ <;> simp [pushBackIdleMsg]
  · show ((s.setEx i ex).setEx i (idleMsg ((s.setEx i ex).msgExPool i))).ledger.key = _
    rw [setEx_self, key_setEx_twice]
    rfl
  · show (if _ then s.completed ++ (s.tag i).toList else s.completed) = s.completed
    rw [htag]
    simp

lemma acceptMsg_ledger (hi : i ∈ s.sending) (hkey : ex.key = ⟨ex.completion, ex.isDisprCtrl⟩) :
    (acceptMsg i ex { s with sending := s.sending.erase i }).ledger =
      apply s.ledger (.accept i ⟨s.sent.length, i, ex.isDisprCtrl, ex.completion⟩) := by
  have hkey' : (s.setEx i ex).ledger.key =
      update s.ledger.key i ⟨ex.completion, ex.isDisprCtrl⟩ := by
    rw [key_setEx, hkey]
  have hpool : (acceptMsg i ex { s with sending := s.sending.erase i }).ledger.key =
      update s.ledger.key i ⟨ex.completion, ex.isDisprCtrl⟩ := by
    rw [← hkey, ← show (enqMsg ex).key = ex.key from rfl, ← key_setEx_twice s i ex]
    unfold acceptMsg
    split_ifs <;> simp [insertMsgByPriority]
  refine Ledger.ext ?_ hpool ?_ ?_ ?_ ?_
  · show _ = shift s.places i .sending .wait
      (enqueue (update s.ledger.key i ⟨ex.completion, ex.isDisprCtrl⟩) ex.isDisprCtrl i)
    rw [← hkey']
    unfold acceptMsg
    split_ifs with hctrl
    · refine eq_shift (by decide) (erase_sending hi) ?_ ?_
      · simp [insertMsgByPriority, isHigherPriority]
        rfl
      · rintro ⟨⟩ <;> simp [insertMsgByPriority]
    · refine eq_shift (by decide) (erase_sending hi) ?_ ?_
      · exact (insertBefore_eq_pushTail _ (fun _ => by simp [hctrl]) i).symm
      · rintro ⟨⟩ <;> simp
  all_goals
    unfold acceptMsg
    split_ifs <;> rfl

lemma disprSendMsg_refines (h : LedgerInv s.ledger) (mods : Modules) (hi : i ∈ s.sending) :
    Refines s false (disprSendMsg mods i { s with sending := s.sending.erase i }).2.2 := by
  unfold disprSendMsg
  dsimp only
  split_ifs with hrefuse
  · exact .op (.refuse i _) hi (refuse_ledger _ hi (h.untagged i hi)) nofun
  · refine .op (.accept i _) ⟨hi, rfl, rfl⟩ (acceptMsg_ledger hi ?_) nofun
    simp [MsgEx.key, fillMsg_args]

lemma ledger_goto (h : c.held = s.pc.held) : (s.goto c).ledger = s.ledger := by
  refine Ledger.ext ?_ rfl rfl rfl rfl rfl
  funext l
  cases l with
  | held => simp [h]
  | idle | wait | pend | sending => rfl

lemma ledger_pool (hq : s'.places = s.places)
    (hkey : ∀ i, (s'.msgExPool i).key = (s.msgExPool i).key) (htag : s'.tag = s.tag)
    (hlog : s'.sent = s.sent ∧ s'.taken = s.taken ∧ s'.completed = s.completed) :
    s'.ledger = s.ledger :=
  Ledger.ext hq (funext hkey) htag hlog.1 hlog.2.1 hlog.2.2

lemma deregMsgs_refines (mdl : ℕ) (hpc : s.pc = .tokenOp) : Refines s true (deregMsgs mdl s) := by
  set s' : DisprMsg := { s with
    msgExPool := fun i =>
      if (s.msgExPool i).mdlId = mdl then cancelMsg { s.msgExPool i with ownerReq := false }
      else s.msgExPool i } with hs'
  have hpool : s'.ledger = s.ledger := by
    refine ledger_pool rfl (fun i => ?_) rfl ⟨rfl, rfl, rfl⟩
    simp only [hs']
    split_ifs <;> rfl
  simp only [deregMsgs, ← hs']
  split_ifs
  · have hheld : clearing.held = s'.pc.held := by rw [hs', hpc]; rfl
    exact .same ((ledger_goto hheld).trans hpool)
  · exact .same hpool

/-- The end of a dispatch. The last case of the code does not happen. -/
lemma threadDispatch_refines (io : ThreadIo) (hpc : s.pc = .dispatching i) :
    Refines s true ((threadDispatch io i s).goto .loop) := by
  have hheld := congrArg held hpc
  have hcomplete : ∀ ex : MsgEx, ex.key = (s.msgExPool i).key →
      Refines s true ((pushBackIdleMsg i (s.setEx i ex)).goto .loop) := by
    intro ex hex
    refine .op (.complete i (idleMsg ex).key) (mem_held hheld) ?_ nofun
    have hledger := complete_ledger (s := s.setEx i ex) (c := .loop) hheld rfl
    rwa [ledger_setEx hex, setEx_self] at hledger
  have hcanceled := isMsgCanceled_key s (s.msgExPool i)
  unfold threadDispatch
  dsimp only
  generalize isMsgCanceled s (s.msgExPool i) = res at hcanceled
  by_cases hcancel : res.1 = true
  · rw [if_pos hcancel]
    exact hcomplete _ hcanceled
  rw [if_neg hcancel]
  generalize hex : ({ res.2 with
    premap := io.mods.bitmap &&& res.2.premap
    postmap := io.mods.bitmap &&& res.2.postmap } : MsgEx) = ex
  have hexkey : ex.key = (s.msgExPool i).key := by rw [← hex, ← hcanceled]; rfl
  have hkey := (msgDispatch_key io.mods io.hdlr ⟨ex, []⟩).trans hexkey
  have hpend := msgDispatch_reschedule io.mods io.hdlr ⟨ex, []⟩
  generalize msgDispatch io.mods io.hdlr ⟨ex, []⟩ = res at hkey hpend
  rcases res with ⟨_ | _, d⟩
  · exact hcomplete _ hkey
  dsimp only
  rw [if_pos (hpend rfl)]
  refine .op (.pend i) (mem_held hheld) ?_ nofun
  have hledger := pend_ledger (s := s.setEx i d.ex) (c := .loop) hheld rfl
  rwa [ledger_setEx hkey] at hledger

lemma threadStep_refines (io : ThreadIo) (s : DisprMsg) : Refines s true (threadStep io s) := by
  have hstay : ∀ {c : ThreadPc}, c.held = [] → s.pc.held = [] → (s.goto c).ledger = s.ledger :=
    fun h h' => ledger_goto (h.trans h'.symm)
  obtain ⟨pc, hpc⟩ : ∃ pc, s.pc = pc := ⟨_, rfl⟩
  have hheld := congrArg held hpc
  unfold threadStep
  rw [hpc]
  cases pc with
  | loop =>
    dsimp only
    split_ifs
    · exact .same (hstay (c := .tokenOp) rfl hheld)
    · exact .same (hstay (c := .clearing) rfl hheld)
    · exact .same (hstay rfl hheld)
  | clearing =>
    dsimp only
    split
    · rename_i i s' hpop
      obtain ⟨hi, hledger⟩ := unpend_ledger (c := .resuming i) hpop hheld rfl
      exact .op (.unpend i) hi hledger nofun
    · exact .same (hstay rfl hheld)
  | resuming i =>
    refine .op (.resume i _) ⟨mem_held hheld, fun hfirst => ?_⟩ (resumeMsg_ledger hheld rfl)
      fun j hj => ?_
    · exact (Bool.and_eq_true_iff.1 hfirst).2
    obtain ⟨rfl, hfirst⟩ := resume.inj hj
    refine ⟨rfl, .inr ⟨hpc, fun hctrl => ?_⟩⟩
    rw [hctrl, Bool.and_true] at hfirst
    exact Nat.le_of_not_lt (of_decide_eq_false hfirst)
  | tokenOp =>
    dsimp only
    split
    · exact deregMsgs_refines _ hpc
    split_ifs
    · exact .same (hstay rfl hheld)
    split
    · rename_i i s' hpop
      obtain ⟨hen, hledger⟩ := take_ledger (c := .dispatching i) hpop hheld rfl
      exact .op (.take i) hen hledger nofun
    · exact .same (hstay rfl hheld)
  | dispatching i =>
    exact threadDispatch_refines io hpc
  | waitHead =>
    refine .same (hstay ?_ hheld)
    split_ifs <;> rfl
  | drainPend =>
    dsimp only
    split
    · rename_i i s' hpop
      obtain ⟨hi, hledger⟩ := unpend_ledger (c := .moving i) hpop hheld rfl
      exact .op (.unpend i) hi hledger nofun
    · exact .same (hstay rfl hheld)
  | moving i =>
    refine .op (.resume i false) ⟨mem_held hheld, nofun⟩
      (pushBackWait_ledger hheld rfl) fun j hj => ?_
    cases hj
    exact ⟨rfl, .inl hpc⟩
  | drainWait =>
    dsimp only
    split
    · rename_i i s' hpop
      obtain ⟨hen, hledger⟩ := take_ledger (c := .dropping i) hpop hheld rfl
      exact .op (.take i) hen hledger nofun
    · exact .same (hstay rfl hheld)
  | dropping i =>
    exact .op (.complete i _) (mem_held hheld) (complete_ledger hheld rfl) nofun
  | left =>
    exact .same rfl

lemma msgQueueStep_refines (h : LedgerInv s.ledger) (e : MsgQueueEvent) :
    Refines s e.isThread (msgQueueStep s e) := by
  cases e with
  | sendEnter mods a attrErr =>
    simp only [msgQueueStep]
    split_ifs <;> exact .same rfl
  | sendPop k => exact sendPop_refines k s
  | sendPush mods i =>
    exact iteInduction (disprSendMsg_refines h mods) fun _ => .same rfl
  | cancel k =>
    simp only [msgQueueStep]
    split
    · exact .same rfl
    · rename_i i hi
      have hsame : (s.setEx i (cancelMsg (s.msgExPool i))).ledger = s.ledger := ledger_setEx rfl
      exact .same hsame
  | notifyDevIoStatus | notifyShallStop =>
    simp only [msgQueueStep]
    split_ifs <;> exact .same rfl
  | stopPrior =>
    refine .same (ledger_pool rfl (fun i => ?_) rfl ⟨rfl, rfl, rfl⟩)
    simp only [msgQueueStep, cancelMsgs]
    split_ifs <;> rfl
  | cancelEnter | clrPendingMsg | resetPendingEvt => exact .same rfl
  | thread io => exact threadStep_refines io s

lemma Refines.inv {thread : Bool} (h : Refines s thread s') (hinv : LedgerInv s.ledger) :
    LedgerInv s'.ledger := by
  cases h with
  | same h => rwa [h]
  | op op hen h _ =>
    rw [h]
    exact hinv.apply hen

end Refines

lemma msgQueueInit_inv : LedgerInv msgQueueInit.ledger where
  placed :=
    { cover := fun i => ⟨fun _ => ⟨.idle, mem_finRange i⟩, fun _ => trivial⟩
      unique := by
        intro i k k' hk hk'
        cases k <;> cases k' <;>
          first
          | rfl
          | simp [held] at hk hk'
      nodup := by
        rintro ⟨⟩
        · exact nodup_finRange 24
        all_goals exact nodup_nil
      counted := by
        rintro ⟨⟩
        · exact (length_finRange (n := 24)).symm
        all_goals rfl }
  accounts :=
    { numbered := by simp
      tagged := by
        rintro i ⟨k, hk, hi⟩
        cases k <;> simp [held, MsgPlace.inFlight] at hk hi
      done := by simp
      known := by simp }
  ordered :=
    { old := by
        rintro k (rfl | rfl) i hi <;> simp [held] at hi
      fifo := fun _ => rfl
      front := List.Pairwise.nil }
  untagged := fun _ _ => rfl

def ThreadPc.draining : ThreadPc → Bool
  | .waitHead | .drainPend | .moving _ | .drainWait | .dropping _ | .left => true
  | .loop | .clearing | .resuming _ | .tokenOp | .dispatching _ => false

/-- The thread leaves when the dispatcher is stopped, and then empties the queues. -/
structure ThreadInv (s : DisprMsg) : Prop where
  stopped : s.leaving = true → s.status.started = false
  draining : s.pc.draining = true → s.leaving = true

section Thread

variable {s : DisprMsg}

structure ThreadFrame (s s' : DisprMsg) : Prop where
  leaving : s'.leaving = s.leaving
  pc : s'.pc = s.pc
  started : s.status.started = false → s'.status.started = false

lemma ThreadInv.frame (h : ThreadInv s) (hf : ThreadFrame s s') : ThreadInv s' := by
  refine ⟨fun hl => hf.started (h.stopped (hf.leaving ▸ hl)), fun hd => ?_⟩
  rw [hf.leaving]
  exact h.draining (hf.pc ▸ hd)

lemma disprSendMsg_frame (i : MsgSlot) (s : DisprMsg) :
    ThreadFrame s (disprSendMsg mods i { s with sending := s.sending.erase i }).2.2 := by
  unfold disprSendMsg acceptMsg
  dsimp only
  split_ifs <;> exact ⟨rfl, rfl, id⟩

lemma sendPop_frame (k : ℕ) (s : DisprMsg) : ThreadFrame s (sendPop k s) := by
  unfold sendPop popFrontIdleMsg
  split
  · exact ⟨rfl, rfl, id⟩
  dsimp only
  split
  · exact ⟨rfl, rfl, id⟩
  rename_i hpop
  split at hpop
  · cases hpop
  · cases hpop
    exact ⟨rfl, rfl, id⟩

lemma msgQueueStep_frame (he : e.isThread = false) : ThreadFrame s (msgQueueStep s e) := by
  cases e with
  | thread io => cases he
  | sendPop k => exact sendPop_frame k s
  | sendPush mods i =>
    simp only [msgQueueStep]
    split_ifs
    · exact disprSendMsg_frame mods i s
    · exact ⟨rfl, rfl, id⟩
  | cancel k =>
    simp only [msgQueueStep]
    split <;> exact ⟨rfl, rfl, id⟩
  | stopPrior => exact ⟨rfl, rfl, fun _ => rfl⟩
  | sendEnter | notifyDevIoStatus | notifyShallStop =>
    simp only [msgQueueStep]
    split_ifs <;> exact ⟨rfl, rfl, id⟩
  | cancelEnter | clrPendingMsg | resetPendingEvt => exact ⟨rfl, rfl, id⟩

structure FlagFrame (s s' : DisprMsg) : Prop where
  leaving : s'.leaving = s.leaving
  started : s'.status.started = s.status.started

inductive ThreadMove (s : DisprMsg) : DisprMsg → Prop
  | go {s' : DisprMsg} (hf : FlagFrame s s') (hc : s'.pc.draining = true → s.leaving = true) :
    ThreadMove s s'
  | leave (hstop : s.status.started = false) :
    ThreadMove s ({ s with leaving := true }.goto .tokenOp)

lemma ThreadMove.goto (hf : FlagFrame s s') (hc : c.draining = true → s.leaving = true) :
    ThreadMove s (s'.goto c) :=
  .go ⟨hf.leaving, hf.started⟩ hc

lemma ThreadMove.inv (hm : ThreadMove s s') (h : ThreadInv s) : ThreadInv s' := by
  cases hm with
  | go hf hc =>
    exact ⟨fun hl => hf.started.trans (h.stopped (hf.leaving ▸ hl)),
      fun hd => hf.leaving.trans (hc hd)⟩
  | leave hstop => exact ⟨fun _ => hstop, nofun⟩

lemma ThreadMove.leaving (hm : ThreadMove s s') (h : s'.leaving = false) : s.leaving = false := by
  cases hm with
  | go hf _ => exact hf.leaving ▸ h
  | leave => cases h

lemma popFrontPendingMsg_frame {i : MsgSlot} (h : popFrontPendingMsg s = some (i, s')) :
    FlagFrame s s' := by
  unfold popFrontPendingMsg at h
  split at h
  · cases h
  · cases h
    exact ⟨rfl, rfl⟩

lemma popFrontWaitMsg_frame {i : MsgSlot} (h : popFrontWaitMsg s = some (i, s')) :
    FlagFrame s s' := by
  unfold popFrontWaitMsg at h
  split at h
  · cases h
  · cases h
    exact ⟨rfl, rfl⟩

lemma threadDispatch_frame (io : ThreadIo) (i : MsgSlot) (s : DisprMsg) :
    FlagFrame s (threadDispatch io i s) := by
  unfold threadDispatch
  dsimp only
  split_ifs
  · exact ⟨rfl, rfl⟩
  · split
    · exact ⟨rfl, rfl⟩
    · split_ifs <;> exact ⟨rfl, rfl⟩

lemma threadStep_move (h : ThreadInv s) (io : ThreadIo) : ThreadMove s (threadStep io s) := by
  have hself : FlagFrame s s := ⟨rfl, rfl⟩
  unfold threadStep
  cases hpc : s.pc with
  | loop =>
    dsimp only
    split_ifs with hstop
    · exact .leave hstop.2
    · exact .goto ⟨rfl, rfl⟩ nofun
    · exact .goto hself nofun
  | clearing =>
    dsimp only
    split
    · rename_i hpop
      exact .goto (popFrontPendingMsg_frame hpop) nofun
    · exact .goto hself nofun
  | resuming i =>
    simp only [resumeMsg]
    split_ifs <;> exact .goto ⟨rfl, rfl⟩ nofun
  | tokenOp =>
    dsimp only
    split
    · simp only [deregMsgs]
      split_ifs
      · exact .goto ⟨rfl, rfl⟩ nofun
      · exact .go ⟨rfl, rfl⟩ h.draining
    · split_ifs with hleaving
      · exact .goto hself (fun _ => hleaving)
      · split
        · rename_i hpop
          exact .goto (popFrontWaitMsg_frame hpop) nofun
        · exact .goto hself nofun
  | dispatching i =>
    exact .goto (threadDispatch_frame io i s) nofun
  | waitHead =>
    exact .goto hself (fun _ => h.draining (by rw [hpc]; rfl))
  | drainPend =>
    have hleaving := h.draining (by rw [hpc]; rfl)
    dsimp only
    split
    · rename_i hpop
      exact .goto (popFrontPendingMsg_frame hpop) (fun _ => hleaving)
    · exact .goto hself (fun _ => hleaving)
  | moving i =>
    exact .goto ⟨rfl, rfl⟩ (fun _ => h.draining (by rw [hpc]; rfl))
  | drainWait =>
    have hleaving := h.draining (by rw [hpc]; rfl)
    dsimp only
    split
    · rename_i hpop
      exact .goto (popFrontWaitMsg_frame hpop) (fun _ => hleaving)
    · exact .goto hself (fun _ => hleaving)
  | dropping i =>
    exact .goto ⟨rfl, rfl⟩ (fun _ => h.draining (by rw [hpc]; rfl))
  | left =>
    exact .go hself h.draining

lemma ThreadInv.step (h : ThreadInv s) (e : MsgQueueEvent) : ThreadInv (msgQueueStep s e) := by
  cases e with
  | thread io => exact (threadStep_move h io).inv h
  | _ => exact h.frame (msgQueueStep_frame rfl)

@[local simp] def DisprMsg.drainLeft (s : DisprMsg) : ℕ :=
  let p := s.msgPendQ.items.length
  let w := s.msgWaitQ.items.length
  match s.pc with
  | .waitHead => if p + w = 0 then 1 else 4 * p + 2 * w + 4
  | .drainPend => 4 * p + 2 * w + 3
  | .moving _ => 4 * p + 2 * w + 6
  | .drainWait => 7 * p + 2 * w + 2
  | .dropping _ => 7 * p + 2 * w + 3
  | _ => 0

structure Quiet (s : DisprMsg) : Prop where
  draining : s.pc.draining = true
  started : s.status.started = false
  entered : s.entered = []
  sending : s.sending = []
  inv : LedgerInv s.ledger

lemma Quiet.left (h : Quiet s) (hzero : s.drainLeft = 0) : s.pc = .left := by
  have hd := h.draining
  cases hpc : s.pc <;> simp [hpc, ThreadPc.draining] at hzero hd ⊢
  split_ifs at hzero

lemma cnt_idle (h : LedgerInv s.ledger) (hwait : s.msgWaitQ.items = [])
    (hpend : s.msgPendQ.items = []) (hheld : s.pc.held = []) (hsending : s.sending = []) :
    s.msgIdleQ.cnt = 24 := by
  have hall : ∀ i, i ∈ s.msgIdleQ.items := by
    intro i
    obtain ⟨k, hk⟩ := (h.placed.cover i).1 trivial
    cases k with
    | idle => exact hk
    | wait | pend | held | sending =>
      simp [hwait, hpend, hheld, hsending] at hk
  have hperm : s.msgIdleQ.items.Perm (finRange 24) :=
    (perm_ext_iff_of_nodup (h.placed.nodup .idle) (nodup_finRange 24)).2
      fun i => ⟨fun _ => mem_finRange i, fun _ => hall i⟩
  have hcnt : s.msgIdleQ.cnt = s.msgIdleQ.items.length := h.placed.counted .idle
  rw [hcnt, hperm.length_eq, length_finRange]

lemma Quiet.other (h : Quiet s) (he : e.isThread = false) :
    Quiet (msgQueueStep s e) ∧ (msgQueueStep s e).drainLeft = s.drainLeft := by
  have hframe := msgQueueStep_frame (s := s) he
  have hkeep : (msgQueueStep s e).msgPendQ = s.msgPendQ ∧
      (msgQueueStep s e).msgWaitQ = s.msgWaitQ ∧ (msgQueueStep s e).entered = [] ∧
      (msgQueueStep s e).sending = [] := by
    have hself : s.msgPendQ = s.msgPendQ ∧ s.msgWaitQ = s.msgWaitQ ∧ s.entered = [] ∧
        s.sending = [] := ⟨rfl, rfl, h.entered, h.sending⟩
    cases e with
    | thread io => cases he
    | sendEnter mods a attrErr =>
      have hno : sendAllowed mods a attrErr s = false := by simp [sendAllowed, h.started]
      simpa [msgQueueStep, hno] using hself
    | sendPop k => simpa [msgQueueStep, sendPop, h.entered] using hself.2.2.2
    | sendPush mods i => simpa [msgQueueStep, h.sending] using hself.2.2.1
    | cancel k =>
      simp only [msgQueueStep]
      split <;> exact hself
    | notifyDevIoStatus | notifyShallStop =>
      simp only [msgQueueStep]
      split_ifs <;> exact hself
    | stopPrior | cancelEnter | clrPendingMsg | resetPendingEvt => exact hself
  obtain ⟨hpend, hwait, hentered, hsending⟩ := hkeep
  refine ⟨⟨?_, hframe.started h.started, hentered, hsending,
    (msgQueueStep_refines h.inv e).inv h.inv⟩, ?_⟩
  · rw [hframe.pc]
    exact h.draining
  · simp only [drainLeft, hframe.pc, hpend, hwait]

structure SendFrame (s s' : DisprMsg) : Prop where
  started : s'.status.started = s.status.started
  entered : s'.entered = s.entered
  sending : s'.sending = s.sending

lemma Quiet.goto (h : Quiet s) (hf : SendFrame s s') (hc : c.draining = true)
    (hinv : LedgerInv (s'.goto c).ledger) : Quiet (s'.goto c) :=
  ⟨hc, hf.started.trans h.started, hf.entered.trans h.entered, hf.sending.trans h.sending, hinv⟩

lemma popFrontPendingMsg_cases (s : DisprMsg) :
    (s.msgPendQ.items = [] ∧ popFrontPendingMsg s = none) ∨ ∃ i rest, s.msgPendQ.items = i :: rest ∧
        popFrontPendingMsg s = some (i, { s with msgPendQ := s.msgPendQ.dropFirst }) := by
  unfold popFrontPendingMsg
  split
  · rename_i hitems
    exact .inl ⟨hitems, rfl⟩
  · rename_i i rest hitems
    exact .inr ⟨i, rest, hitems, rfl⟩

lemma popFrontWaitMsg_cases (s : DisprMsg) : (s.msgWaitQ.items = [] ∧ popFrontWaitMsg s = none) ∨
      ∃ i rest s', s.msgWaitQ.items = i :: rest ∧ popFrontWaitMsg s = some (i, s') ∧
        s'.msgWaitQ.items = rest ∧ s'.msgPendQ = s.msgPendQ ∧ SendFrame s s' := by
  unfold popFrontWaitMsg
  split
  · rename_i hitems
    exact .inl ⟨hitems, rfl⟩
  · rename_i i rest hitems
    exact .inr ⟨i, rest, _, hitems, rfl, by simp [hitems], rfl, rfl, rfl, rfl⟩

lemma Quiet.thread (h : Quiet s) (io : ThreadIo) :
    Quiet (threadStep io s) ∧ (s.pc = .left ∨ (threadStep io s).drainLeft < s.drainLeft) := by
  have hinv := (threadStep_refines io s).inv h.inv
  have hd := h.draining
  have hself : SendFrame s s := ⟨rfl, rfl, rfl⟩
  cases hpc : s.pc with
  | loop | clearing | resuming i | tokenOp | dispatching i =>
    rw [hpc] at hd
    cases hd
  | waitHead =>
    simp only [threadStep, hpc] at hinv ⊢
    refine ⟨h.goto hself (by split_ifs <;> rfl) hinv, .inr ?_⟩
    by_cases hcnt : s.msgIdleQ.cnt = 24
    · simp [hcnt, hpc]
      split_ifs <;> omega
    have hne : s.msgPendQ.items.length + s.msgWaitQ.items.length ≠ 0 := by
      intro hzero
      refine hcnt (cnt_idle h.inv ?_ ?_ (by rw [hpc]; rfl) h.sending) <;>
        exact eq_nil_of_length_eq_zero (by omega)
    simp only [hcnt, ne_eq, not_false_eq_true, if_true, drainLeft, DisprMsg.goto, hpc, if_neg hne]
    omega
  | drainPend =>
    simp only [threadStep, hpc] at hinv ⊢
    rcases popFrontPendingMsg_cases s with ⟨hitems, hpop⟩ | ⟨i, rest, hitems, hpop⟩
    · rw [hpop] at hinv ⊢
      refine ⟨h.goto hself rfl hinv, .inr ?_⟩
      simp [hpc, hitems]
    · rw [hpop] at hinv ⊢
      refine ⟨h.goto ⟨rfl, rfl, rfl⟩ rfl hinv, .inr ?_⟩
      simp [hpc, dropFirst_items, hitems]
      omega
  | moving i =>
    simp only [threadStep, hpc] at hinv ⊢
    refine ⟨h.goto ⟨rfl, rfl, rfl⟩ rfl hinv, .inr ?_⟩
    simp [hpc, pushTail_items]
    omega
  | drainWait =>
    simp only [threadStep, hpc] at hinv ⊢
    rcases popFrontWaitMsg_cases s with
      ⟨hitems, hpop⟩ | ⟨i, rest, s', hitems, hpop, hrest, hpend, hframe⟩
    · rw [hpop] at hinv ⊢
      refine ⟨h.goto hself rfl hinv, .inr ?_⟩
      simp only [drainLeft, DisprMsg.goto, hpc, hitems, length_nil]
      split_ifs <;> omega
    · rw [hpop] at hinv ⊢
      refine ⟨h.goto hframe rfl hinv, .inr ?_⟩
      simp [hpc, hitems, hrest, hpend]
      omega
  | dropping i =>
    simp only [threadStep, hpc] at hinv ⊢
    refine ⟨h.goto ⟨rfl, rfl, rfl⟩ rfl hinv, .inr ?_⟩
    simp only [drainLeft, DisprMsg.goto, hpc, pushBackIdleMsg, setEx]
    omega
  | left =>
    simp only [threadStep, hpc]
    exact ⟨h, .inl trivial⟩

/-- Whatever the other threads do, the thread is done after so many steps. -/
lemma Quiet.run (es : List MsgQueueEvent) : ∀ {s : DisprMsg}, Quiet s →
    s.drainLeft ≤ es.countP MsgQueueEvent.isThread → (run msgQueueStep s es).pc = .left := by
  induction es with
  | nil =>
    intro s h hle
    exact h.left (Nat.le_zero.1 hle)
  | cons e es ih =>
    intro s h hle
    cases e with
    | thread io =>
      rw [countP_cons_of_pos rfl] at hle
      obtain ⟨hquiet, hless⟩ := h.thread io
      refine ih hquiet ?_
      rcases hless with hleft | hless
      · simp [msgQueueStep, threadStep, hleft]
      · exact Nat.le_of_lt_succ (Nat.lt_of_lt_of_le hless hle)
    | _ =>
      rw [countP_cons_of_neg Bool.false_ne_true] at hle
      exact ih (h.other (by rfl)).1 ((h.other (by rfl)).2.trans_le hle)

end Thread

/-- Every slot is in one place. The completion routine of a message has not been called while a slot
holds it, and has been called once afterwards. When the thread has begun to empty the queues, it
gets to the end once no call of `dispr_send_msg` is under way. -/
structure Conserved (s : DisprMsg) : Prop where
  placed : ∀ i, ∃! k, i ∈ (s.places k).items
  nodup : ∀ k, (s.places k).items.Nodup
  counted : ∀ k, (s.places k).cnt = (s.places k).items.length
  one : (s.places .held).items.length ≤ 1
  distinct : s.sent.Nodup
  once : ∀ t ∈ s.sent, (s.ledger.Holds t ∧ s.completed.count t = 0) ∨
    (¬ s.ledger.Holds t ∧ s.completed.count t = if t.completion then 1 else 0)
  ends : s.pc.draining = true → s.entered = [] → s.sending = [] → ∃ n, ∀ es : List MsgQueueEvent,
    n ≤ es.countP MsgQueueEvent.isThread → (run msgQueueStep s es).pc = .left

section Runs

variable {s : DisprMsg}

lemma held_length_le (c : ThreadPc) : c.held.length ≤ 1 := by
  cases c <;> simp [held]

lemma Accounts.nodup {L : Ledger} (h : Accounts L) : L.sent.Nodup := by
  rw [nodup_iff_getElem?_ne_getElem?]
  intro n m hlt hm heq
  have hn := getElem?_eq_getElem (hlt.trans hm)
  have hno := h.numbered n _ hn
  have hno' := h.numbered m _ (heq ▸ hn)
  omega

lemma LedgerInv.conserved (h : LedgerInv s.ledger) (hthread : ThreadInv s) : Conserved s where
  placed := fun i => h.placed.exists_unique trivial
  nodup := h.placed.nodup
  counted := h.placed.counted
  one := held_length_le s.pc
  distinct := h.accounts.nodup
  once := by
    intro t ht
    by_cases hholds : s.ledger.Holds t
    · exact .inl ⟨hholds, (h.accounts.of_tag hholds.1 hholds.2).2.2⟩
    · exact .inr ⟨hholds, h.accounts.done t ht hholds⟩
  ends := fun hd hentered hsending =>
    ⟨s.drainLeft, fun es => Quiet.run es
      ⟨hd, hthread.stopped (hthread.draining hd), hentered, hsending, h⟩⟩

lemma msgQueueStep_inv (h : LedgerInv s.ledger ∧ ThreadInv s) :
    LedgerInv (msgQueueStep s e).ledger ∧ ThreadInv (msgQueueStep s e) :=
  ⟨(msgQueueStep_refines h.1 e).inv h.1, h.2.step e⟩

lemma msgQueueInit_threadInv : ThreadInv msgQueueInit := ⟨nofun, nofun⟩

lemma msgQueueInv_run (es : List MsgQueueEvent) (hs : run msgQueueStep msgQueueInit es = s) :
    LedgerInv s.ledger ∧ ThreadInv s :=
  hs ▸ run_inv_all msgQueueStep (P := fun s => LedgerInv s.ledger ∧ ThreadInv s)
    (fun _ _ h => msgQueueStep_inv h) es msgQueueInit ⟨msgQueueInit_inv, msgQueueInit_threadInv⟩

/-- No interleaving of senders, cancelations and the thread loses a message slot. -/
theorem msg_slots_conserved (es : List MsgQueueEvent) :
    Conserved (run msgQueueStep msgQueueInit es) := by
  have hinv := msgQueueInv_run es rfl
  exact hinv.1.conserved hinv.2

/-- Controllers are ahead of all others in the waiting queue, until the thread leaves. In each class
messages are taken in the order in which they were sent. -/
structure CtrlPriority (s : DisprMsg) : Prop where
  first : s.leaving = false → s.msgWaitQ.items.Pairwise fun i j =>
    (s.msgExPool j).isDisprCtrl = true → (s.msgExPool i).isDisprCtrl = true
  order : ∀ c, s.taken.filter (·.ctrl = c) <+: s.sent.filter (·.ctrl = c)

/-- When `clear_pending_msg` resumes a controller's message whose event id is not below 10, only
controllers are waiting. -/
def CtrlOK (s : DisprMsg) : MsgQueueEvent → Prop
  | .thread _ => ∀ i, s.pc = .resuming i → (s.msgExPool i).isDisprCtrl = true →
    10 ≤ (s.msgExPool i).evtId → ∀ j ∈ s.msgWaitQ.items, (s.msgExPool j).isDisprCtrl = true
  | _ => True

instance (s : DisprMsg) : ∀ e, Decidable (CtrlOK s e)
  | .thread _ => inferInstanceAs (Decidable (∀ _, _))
  | .sendEnter .. | .sendPop _ | .sendPush .. | .cancelEnter _ | .cancel _ | .clrPendingMsg
  | .notifyDevIoStatus .. | .notifyShallStop | .resetPendingEvt _ | .stopPrior => isTrue trivial

lemma leaving_step (h : ThreadInv s) (hl : (msgQueueStep s e).leaving = false) :
    s.leaving = false := by
  cases e with
  | thread io => exact (threadStep_move h io).leaving hl
  | _ => exact (msgQueueStep_frame (by rfl)).leaving.symm.trans hl

lemma ctrlFirst_step (h : LedgerInv s.ledger ∧ ThreadInv s) (hok : CtrlOK s e)
    (hfirst : s.leaving = false → CtrlFirst s.ledger) (hl : (msgQueueStep s e).leaving = false) :
    CtrlFirst (msgQueueStep s e).ledger := by
  have hl' := leaving_step h.2 hl
  cases msgQueueStep_refines h.1 e with
  | same heq => rw [heq]; exact hfirst hl'
  | op op hen heq happ =>
    rw [heq]
    refine (hfirst hl').apply h.1 hen ?_
    cases op with
    | resume i first =>
      cases first with
      | true => exact .inl rfl
      | false =>
        obtain ⟨he, happ⟩ := happ i rfl
        rcases happ with hpc | ⟨hpc, hevt⟩
        · have hleaving := h.2.draining (by rw [hpc]; rfl)
          rw [hl'] at hleaving
          cases hleaving
        · by_cases hctrl : (s.msgExPool i).isDisprCtrl = true
          · cases e with
            | thread io => exact .inr (.inr (hok i hpc hctrl (hevt hctrl)))
            | _ => cases he
          · exact .inr (.inl (Bool.not_eq_true _ ▸ hctrl))
    | _ => trivial

lemma LedgerInv.order (h : LedgerInv s.ledger) (c : Bool) :
    s.taken.filter (·.ctrl = c) <+: s.sent.filter (·.ctrl = c) :=
  ⟨_, h.ordered.fifo c⟩

/-- As long as `clear_pending_msg` does not come upon a controller's message with another event id
while others wait. -/
theorem ctrl_priority_run (es : List MsgQueueEvent)
    (hok : RunOK msgQueueStep CtrlOK msgQueueInit es) :
    CtrlPriority (run msgQueueStep msgQueueInit es) := by
  obtain ⟨hinv, hfirst⟩ := run_inv msgQueueStep CtrlOK
    (P := fun s => (LedgerInv s.ledger ∧ ThreadInv s) ∧ (s.leaving = false → CtrlFirst s.ledger))
    (fun s e h hok => ⟨msgQueueStep_inv h.1, ctrlFirst_step h.1 hok h.2⟩) es msgQueueInit
    ⟨⟨msgQueueInit_inv, msgQueueInit_threadInv⟩, fun _ => List.Pairwise.nil⟩ hok
  exact ⟨hfirst, hinv.1.order⟩

end Runs

def twoModules : Modules where
  controller := some 1
  moduleQ
    | .role => [⟨11, true⟩]
    | .optional | .mandatory => []
  bitmap := ModlMask.addBit 0 11
  basemap := ModlMask.addBit 0 11
  controller_lt := first_controller_lt
  priority_eq := by
    intro p
    cases p <;> decide
  nodup := by
    intro p
    cases p <;> decide

def pendingThread : ThreadIo where
  stop := false
  dereg := none
  mods := twoModules
  hdlr := ⟨fun id pre => if id = 11 ∧ pre then .pending else .success, fun _ _ => false⟩

/-- The controller's message gets pending, the module sends one, and the first is resumed. -/
def resumeRun (evtId : ℕ) : List MsgQueueEvent :=
  [.sendEnter twoModules ⟨1, evtId, none, false, false⟩ false, .sendPop 0, .sendPush twoModules 0,
    .thread pendingThread, .thread pendingThread, .thread pendingThread,
    .sendEnter twoModules ⟨11, 1, none, false, false⟩ false, .sendPop 0, .sendPush twoModules 1,
    .clrPendingMsg, .thread pendingThread, .thread pendingThread, .thread pendingThread]

theorem ctrl_priority_sample :
    (run msgQueueStep msgQueueInit (resumeRun 1)).msgWaitQ.items = [0, 1] ∧
      CtrlPriority (run msgQueueStep msgQueueInit (resumeRun 1)) :=
  ⟨by decide +kernel, ctrl_priority_run (resumeRun 1) (by decide +kernel)⟩

/-- With an event id that is not below 10 the message of the controller is put behind that of the
module. -/
theorem ctrl_priority_resumed_last :
    (run msgQueueStep msgQueueInit (resumeRun 20)).msgWaitQ.items = [1, 0] ∧
      ¬ CtrlPriority (run msgQueueStep msgQueueInit (resumeRun 20)) := by
  refine ⟨by decide +kernel, fun h => ?_⟩
  have hfirst := h.first (by decide +kernel)
  revert hfirst
  decide +kernel

section Completion

variable {s : DisprMsg} {i : MsgSlot}

def sentTag (i : MsgSlot) (s : DisprMsg) : MsgTag :=
  ⟨s.sent.length, i, (s.args i).mdlId < 10, (s.args i).completion⟩

/-- A call that is refused completes nothing. One that is not has its message among those sent,
which are completed once, when their slot does not hold them any more. -/
structure ExclusiveCompletion (mods : Modules) (i : MsgSlot) (s : DisprMsg) : Prop where
  early : ∀ a err k, (msgQueueStep s (.sendEnter mods a err)).completed = s.completed ∧
    (msgQueueStep s (.sendPop k)).completed = s.completed
  refused : (disprSendMsg mods i s).2.1 = false
  accepted : (disprSendMsg mods i s).1 = .success →
    (msgQueueStep s (.sendPush mods i)).sent = s.sent ++ [sentTag i s]
  once : ∀ t ∈ s.sent, (s.ledger.Holds t ∧ s.completed.count t = 0) ∨
    (¬ s.ledger.Holds t ∧ s.completed.count t = if t.completion then 1 else 0)

lemma completes_disprSendMsg : (disprSendMsg mods i s).2.1 =
    (refusesReq mods (s.args i) && (s.args i).completion) := by
  simp only [disprSendMsg]
  split_ifs with href <;> simp [href, fillMsg_args]

lemma sent_disprSendMsg (h : refusesReq mods (s.args i) = false) :
    (disprSendMsg mods i s).2.2.sent = s.sent ++ [sentTag i s] := by
  obtain ⟨-, hcomp, hmdl⟩ := fillMsg_args mods (s.args i)
  simp only [disprSendMsg, sentTag, ← hcomp, ← hmdl]
  rw [if_neg (Bool.eq_false_iff.1 h), acceptMsg]
  split_ifs <;> rfl

lemma completed_sendPop (k : ℕ) (s : DisprMsg) : (sendPop k s).completed = s.completed := by
  simp only [sendPop, popFrontIdleMsg]
  rcases s.entered[k]? with _ | a
  · rfl
  · cases s.msgIdleQ.items <;> rfl

theorem send_completion_iff (es : List MsgQueueEvent) (hs : run msgQueueStep msgQueueInit es = s)
    (hi : i ∈ s.sending) : ExclusiveCompletion mods i s ↔
      (refusesReq mods (s.args i) = true → (s.args i).completion = false) := by
  obtain ⟨hledger, hthread⟩ := msgQueueInv_run es hs
  have hcalled := completes_disprSendMsg mods (i := i) (s := s)
  refine ⟨fun h href => ?_, fun h => ⟨fun a err k => ⟨?_, completed_sendPop k s⟩, ?_,
    fun hret => ?_, (hledger.conserved hthread).once⟩⟩
  · simpa [hcalled, href] using h.refused
  · simp only [msgQueueStep]
    split_ifs <;> rfl
  · simpa [hcalled] using h
  · simp only [msgQueueStep, if_pos hi]
    refine sent_disprSendMsg mods (Bool.eq_false_iff.2 fun href => ?_)
    simp [disprSendMsg, href] at hret

/-- The scan reports a switched channel when its request is about to end. -/
def swchDoneRun (sendInAbort : Bool) : List MsgQueueEvent :=
  [.sendEnter twoModules
    ⟨130, 5, some ⟨false, false, true, false, sendInAbort, [], true⟩, true, true⟩ false, .sendPop 0]

theorem send_completion_in_abort :
    0 ∈ (run msgQueueStep msgQueueInit (swchDoneRun true)).sending ∧
      ExclusiveCompletion twoModules 0 (run msgQueueStep msgQueueInit (swchDoneRun true)) :=
  ⟨by decide +kernel, (send_completion_iff _ _ rfl (by decide +kernel)).2 (by decide +kernel)⟩

theorem send_completion_twice : let s := run msgQueueStep msgQueueInit (swchDoneRun false)
    (disprSendMsg twoModules 0 s).1 = .failure ∧ (disprSendMsg twoModules 0 s).2.1 = true ∧
      ¬ ExclusiveCompletion twoModules 0 s :=
  ⟨by decide +kernel, by decide +kernel, fun h => absurd h.refused (by decide +kernel)⟩

end Completion

end Rtl8852be

import Rtl8852be.CmdScan
import Rtl8852be.Proofs.TokenReq

/-!
# When a scan is settled

A scan is settled when it has been told that it is over, or when it is the current request and the
operation that frees its token is due.
-/

namespace Rtl8852be

open Function List DisprToken TokenReqEx Prod

variable {ex : TokenReqEx}

def DisprToken.FreeDue (t : DisprToken) (i : ReqSlot) : Prop :=
  .freeReq i ∈ t.due ∧ (t.info (.freeReq i)).type = some .freeCmdReq

def ScanSettled (isScan : ℕ → Bool) (t : DisprToken) (k : ℕ) : Prop :=
  isScan k = true ∧ (k ∈ t.ended.map fst ∨ ∃ i, t.curCmdReq = some i ∧ t.inst i = k ∧ t.FreeDue i)

/-- A request whose end is enqueued is canceled. The token of a scan is freed only while it is the
current request and acquired. -/
structure ScanToken (isScan : ℕ → Bool) (t : DisprToken) : Prop where
  token : TokenInv t
  cancel : ∀ i, .freeReq i ∈ t.due → (t.tokenReqExPool i).cancel = true
  run : ∀ i, t.curCmdReq = some i → (∀ n, t.pc ≠ .aborting n i) → (t.tokenReqExPool i).run = true
  freeing : ∀ i, isScan (t.inst i) = true → t.FreeDue i →
    t.curCmdReq = some i ∧ ∀ n, t.pc ≠ .acquiring n i
  calls : ∀ c ∈ t.calls, c.cancel = false → isScan c.inst = false

variable {i : ReqSlot} {t : DisprToken} {isScan : ℕ → Bool}

section Roster

section

variable (h : RosterInv t.roster)
include h

lemma live_of_cur (hcur : t.curCmdReq = some i) : t.Live i := by
  have hi : i ∈ (t.places .current).items := by simp [hcur]
  exact (roster_live h i).1 ⟨.current, rfl, hi⟩

lemma live_of_wait (hi : i ∈ t.tokenReqWaitQ.items) : t.Live i :=
  (roster_live h i).1 ⟨.wait, rfl, hi⟩

lemma inst_notMem_ended (hi : t.Live i) (htold : t.pc.told ≠ some i) :
    t.inst i ∉ t.ended.map fst := by
  have hends := (h.ends_live i ((roster_live h i).2 hi)).trans (if_neg htold)
  exact count_eq_zero.1 hends

lemma not_settled (hi : t.Live i) (htold : t.pc.told ≠ some i)
    (hfree : t.curCmdReq = some i → ¬ t.FreeDue i) : ¬ ScanSettled isScan t (t.inst i) := by
  rintro ⟨-, hended | ⟨j, hcur, hinst, hdue⟩⟩
  · exact inst_notMem_ended h hi htold hended
  have hji : j = i := by
    have hj := (roster_live h j).2 (live_of_cur h hcur)
    exact h.inst_inj j i hj ((roster_live h i).2 hi) hinst
  subst hji
  exact hfree hcur hdue

end

end Roster

structure Outside (isScan : ℕ → Bool) (t t' : DisprToken) : Prop where
  cur : t'.curCmdReq = t.curCmdReq
  pc : t'.pc = t.pc
  ended : t'.ended = t.ended
  inst : ∀ i, t.Live i → t'.inst i = t.inst i
  freeDue : ∀ i, isScan (t'.inst i) = true → t'.FreeDue i → t.FreeDue i
  keeps : ∀ i, t.FreeDue i → t'.FreeDue i
  cancel : ∀ i, .freeReq i ∈ t'.due → (t'.tokenReqExPool i).cancel = true
  run : ∀ i, t.Live i → (t.tokenReqExPool i).run = true → (t'.tokenReqExPool i).run = true
  calls : ∀ c ∈ t'.calls, c.cancel = false → isScan c.inst = false

variable {t' : DisprToken}

section Outside

lemma Outside.scanToken (ho : Outside isScan t t') (h : ScanToken isScan t) (ht : TokenInv t') :
    ScanToken isScan t' where
  token := ht
  cancel := ho.cancel
  run := by
    intro i hcur hpc
    rw [ho.cur] at hcur
    rw [ho.pc] at hpc
    exact ho.run i (live_of_cur h.token.roster hcur) (h.run i hcur hpc)
  freeing := by
    intro i hscan hdue
    have hdue' := ho.freeDue i hscan hdue
    rw [ho.inst i (h.token.ops.live _ hdue'.1 i rfl)] at hscan
    rw [ho.cur, ho.pc]
    exact h.freeing i hscan hdue'
  calls := ho.calls

lemma Outside.settled (ho : Outside isScan t t') (h : RosterInv t.roster) (k : ℕ) :
    ScanSettled isScan t' k ↔ ScanSettled isScan t k := by
  have hinst : ∀ i, t.curCmdReq = some i → t'.inst i = t.inst i :=
    fun i hcur => ho.inst i (live_of_cur h hcur)
  unfold ScanSettled
  rw [ho.ended, ho.cur]
  refine and_congr_right fun hscan => or_congr_right (exists_congr fun i => ?_)
  constructor
  · rintro ⟨hcur, rfl, hdue⟩
    exact ⟨hcur, (hinst i hcur).symm, ho.freeDue i hscan hdue⟩
  · rintro ⟨hcur, rfl, hdue⟩
    exact ⟨hcur, hinst i hcur, ho.keeps i hdue⟩

lemma setReq_apply {α : Type*} (f : TokenReqEx → α) (hex : f ex = f (t.tokenReqExPool i))
    (j : ReqSlot) : f ((t.setReq i ex).tokenReqExPool j) = f (t.tokenReqExPool j) := by
  by_cases hji : j = i
  · subst hji
    simpa using hex
  · simp only [setReq, update_of_ne hji]

lemma setInfo_apply {α : Type*} (f : TokenReqEx → α) (info : TokenOpInfo) (n : OpNode)
    (hadd : ∀ ex, f { ex with addReqInfo := info } = f ex)
    (hfree : ∀ ex, f { ex with freeReqInfo := info } = f ex) (j : ReqSlot) :
    f ((t.setInfo info n).tokenReqExPool j) = f (t.tokenReqExPool j) := by
  cases n with
  | addReq i => exact setReq_apply f (hadd _) j
  | freeReq i => exact setReq_apply f (hfree _) j
  | renewReq => rfl

section

variable (h : ScanToken isScan t)
include h

lemma Outside.aside (entered : ℕ) (status : DisprStatus)
    {calls : List TokenCall} (hcalls : ∀ c ∈ calls, c.cancel = false → isScan c.inst = false) :
    Outside isScan t { t with entered := entered, calls := calls, status := status } where
  cur := rfl
  pc := rfl
  ended := rfl
  inst := fun _ _ => rfl
  freeDue := fun _ _ hdue => hdue
  keeps := fun _ hdue => hdue
  cancel := h.cancel
  run := fun _ _ hrun => hrun
  calls := hcalls

lemma Outside.refl : Outside isScan t t := .aside h t.entered t.status h.calls

lemma Outside.addPop : Outside isScan t (addPop t) := by
  unfold Rtl8852be.addPop
  split_ifs
  · exact .refl h
  unfold popFrontIdleReq
  dsimp only
  cases hq : t.tokenReqIdleQ.items with
  | nil => exact .aside h (t.entered - 1) t.status h.calls
  | cons i rest =>
    have hlive : ∀ j, t.Live j → j ≠ i := by
      rintro j hj rfl
      exact hj.1 (by simp [hq])
    have hdue : ∀ j, .freeReq j ∈ t.due → j ≠ i := fun j hj => hlive j (h.token.ops.live _ hj j rfl)
    have hinfo : ∀ j, j ≠ i → (t.setReq i clearedReq).info (.freeReq j) = t.info (.freeReq j) :=
      fun j hj => info_setReq_of_ne fun hslot => hj (Option.some.inj hslot)
    have hpool : ∀ j, j ≠ i → (t.setReq i clearedReq).tokenReqExPool j = t.tokenReqExPool j :=
      fun j hj => update_of_ne hj _ _
    refine ⟨rfl, rfl, rfl, fun _ _ => rfl, ?_, ?_, ?_, ?_, h.calls⟩
    · rintro j - ⟨hj, htype⟩
      exact ⟨hj, (congrArg _ (hinfo j (hdue j hj))).symm.trans htype⟩
    · rintro j ⟨hj, htype⟩
      exact ⟨hj, (congrArg _ (hinfo j (hdue j hj))).trans htype⟩
    · intro j hj
      exact (congrArg TokenReqEx.cancel (hpool j (hdue j hj))).trans (h.cancel j hj)
    · intro j hj hrun
      exact (congrArg TokenReqEx.run (hpool j (hlive j hj))).trans hrun

lemma Outside.acceptReq (hi : i ∈ t.adding) : Outside isScan t (acceptReq i t) where
  cur := rfl
  pc := rfl
  ended := rfl
  inst := by
    intro j hj
    have hji : j ≠ i := by
      rintro rfl
      exact hj.2 hi
    exact update_of_ne hji _ _
  freeDue := fun _ _ hdue => hdue
  keeps := fun _ hdue => hdue
  cancel := h.cancel
  run := fun _ _ hrun => hrun
  calls := h.calls

lemma Outside.setReq (hrun : ex.run = (t.tokenReqExPool i).run)
    (hcancel : (t.tokenReqExPool i).cancel = true → ex.cancel = true)
    (hadd : ex.addReqInfo = (t.tokenReqExPool i).addReqInfo)
    (hfree : ex.freeReqInfo = (t.tokenReqExPool i).freeReqInfo) :
    Outside isScan t (t.setReq i ex) where
  cur := rfl
  pc := rfl
  ended := rfl
  inst := fun _ _ => rfl
  freeDue := fun j _ hdue =>
    ⟨hdue.1, (congrArg _ (info_setReq hadd hfree (.freeReq j))).symm.trans hdue.2⟩
  keeps := fun j hdue =>
    ⟨hdue.1, (congrArg _ (info_setReq hadd hfree (.freeReq j))).trans hdue.2⟩
  cancel := by
    intro j hj
    have hj' := h.cancel j hj
    by_cases hji : j = i
    · subst hji
      simpa using hcancel hj'
    · simpa only [DisprToken.setReq, update_of_ne hji] using hj'
  run := fun j _ hj => (setReq_apply TokenReqEx.run hrun j).trans hj
  calls := h.calls

lemma Outside.markReq : Outside isScan t (markReq i t) := by
  have ho : Outside isScan t (t.setReq i { t.tokenReqExPool i with enq := true }) :=
    .setReq h rfl id rfl rfl
  exact ⟨ho.cur, ho.pc, ho.ended, ho.inst, ho.freeDue, ho.keeps, ho.cancel, ho.run, ho.calls⟩

lemma Outside.cancelCmdReq : Outside isScan t (cancelCmdReq i t) := by
  unfold Rtl8852be.cancelCmdReq
  dsimp only
  split_ifs
  · exact .setReq h rfl (fun _ => rfl) rfl rfl
  · exact .refl h

end

lemma Outside.push (hcancel : ∀ i, .freeReq i ∈ t.due → (t.tokenReqExPool i).cancel = true)
    (hcalls : ∀ c ∈ t.calls, c.cancel = false → isScan c.inst = false) {n : OpNode}
    (hn : ∀ i, .freeReq i ≠ n) (type : TokenOpType) (data : ℕ) :
    Outside isScan t (pushBackTokenOpInfo n type data t) := by
  unfold pushBackTokenOpInfo
  split_ifs
  · exact ⟨rfl, rfl, rfl, fun _ _ => rfl, fun _ _ hdue => hdue, fun _ hdue => hdue, hcancel,
      fun _ _ hrun => hrun, hcalls⟩
  have hinfo := fun j => info_setInfo_of_ne (s := t) ⟨true, some type, data⟩ (hn j)
  have hmem : ∀ j, .freeReq j ∈ t.pc.due ++ (t.tokenOpQ ++ [n]) ↔ .freeReq j ∈ t.due := by
    intro j
    simp [due, hn j]
  have hflag : ∀ (f : TokenReqEx → Bool), (∀ ex info, f { ex with addReqInfo := info } = f ex) →
      (∀ ex info, f { ex with freeReqInfo := info } = f ex) → ∀ j,
      f ((t.setInfo ⟨true, some type, data⟩ n).tokenReqExPool j) = f (t.tokenReqExPool j) :=
    fun f hadd hfree => setInfo_apply f _ n (fun ex => hadd ex _) (fun ex => hfree ex _)
  have hc := hflag TokenReqEx.cancel (fun _ _ => rfl) fun _ _ => rfl
  have hr := hflag TokenReqEx.run (fun _ _ => rfl) fun _ _ => rfl
  cases n with
  | freeReq j => exact absurd rfl (hn j)
  | addReq | renewReq =>
    refine ⟨rfl, rfl, rfl, fun _ _ => rfl, ?_, ?_, ?_, fun j _ hj => (hr j).trans hj, hcalls⟩
    · rintro j - ⟨hj, htype⟩
      exact ⟨(hmem j).1 hj, (congrArg _ (hinfo j)).symm.trans htype⟩
    · rintro j ⟨hj, htype⟩
      exact ⟨(hmem j).2 hj, (congrArg _ (hinfo j)).trans htype⟩
    · exact fun j hj => (hc j).trans (hcancel j ((hmem j).1 hj))

end Outside

section Issue

variable {c : TokenCall}

lemma issueReqOp_used (hused : (t.info (.freeReq c.slot)).used = true) :
    issueReqOp c t = t.setReq c.slot { t.tokenReqExPool c.slot with cancel := true } := by
  have hinfo : (t.setReq c.slot { t.tokenReqExPool c.slot with cancel := true }).info
      (.freeReq c.slot) = t.info (.freeReq c.slot) := info_setReq (by rfl) (by rfl) _
  unfold issueReqOp
  dsimp only
  rw [hinfo, if_pos hused]

structure Issued (t : DisprToken) (c : TokenCall) (t' : DisprToken) : Prop where
  cur : t'.curCmdReq = t.curCmdReq
  pc : t'.pc = t.pc
  ended : t'.ended = t.ended
  inst : t'.inst = t.inst
  calls : t'.calls = t.calls
  due : t'.due = t.due ++ [.freeReq c.slot]
  type : (t'.info (.freeReq c.slot)).type = some c.type
  info : ∀ i, i ≠ c.slot → t'.info (.freeReq i) = t.info (.freeReq i)
  cancel : ∀ i, (t'.tokenReqExPool i).cancel = true ↔
    (t.tokenReqExPool i).cancel = true ∨ i = c.slot
  run : ∀ i, (t'.tokenReqExPool i).run = (t.tokenReqExPool i).run

lemma issueReqOp_issued (hused : (t.info (.freeReq c.slot)).used ≠ true) :
    Issued t c (issueReqOp c t) := by
  set t₁ := t.setReq c.slot { t.tokenReqExPool c.slot with cancel := true } with ht₁
  have hinfo : ∀ n, t₁.info n = t.info n := info_setReq (by rfl) (by rfl)
  have heq : issueReqOp c t = { t₁.setInfo ⟨true, some c.type, c.slot⟩ (.freeReq c.slot) with
        tokenOpQ := t.tokenOpQ ++ [.freeReq c.slot]
        issued := update t.issued c.slot c.inst } := by
    unfold issueReqOp pushBackTokenOpInfo
    dsimp only
    rw [← ht₁, hinfo, if_neg hused, if_neg hused]
    rfl
  rw [heq]
  refine ⟨rfl, rfl, rfl, rfl, rfl, (append_assoc _ _ _).symm, ?_, ?_, ?_, ?_⟩
  · exact congrArg TokenOpInfo.type (info_setInfo_self (s := t₁) _ (.freeReq c.slot))
  · intro i hi
    have hne : OpNode.freeReq i ≠ .freeReq c.slot := fun h => hi (OpNode.freeReq.inj h)
    exact (info_setInfo_of_ne (s := t₁) _ hne).trans (hinfo _)
  · intro i
    have hset : ((t₁.setInfo ⟨true, some c.type, c.slot⟩ (.freeReq c.slot)).tokenReqExPool
        i).cancel = (t₁.tokenReqExPool i).cancel :=
      setInfo_apply cancel _ (.freeReq c.slot) (fun _ => rfl) (fun _ => rfl) i
    refine (iff_of_eq (congrArg (· = true) hset)).trans ?_
    by_cases hi : i = c.slot
    · subst hi
      simp [ht₁]
    · simp [ht₁, hi]
  · intro i
    have hset : ((t₁.setInfo ⟨true, some c.type, c.slot⟩ (.freeReq c.slot)).tokenReqExPool
        i).run = (t₁.tokenReqExPool i).run :=
      setInfo_apply run _ (.freeReq c.slot) (fun _ => rfl) (fun _ => rfl) i
    have hrun : (t₁.tokenReqExPool i).run = (t.tokenReqExPool i).run :=
      setReq_apply (t := t) run (by rfl) i
    exact hset.trans hrun

lemma Issued.freeDue (h : Issued t c t') (hdue : .freeReq c.slot ∉ t.due) (i : ReqSlot) :
    t'.FreeDue i ↔ t.FreeDue i ∨ (i = c.slot ∧ c.cancel = false) := by
  unfold DisprToken.FreeDue
  rw [h.due]
  by_cases hi : i = c.slot
  · subst hi
    rw [h.type]
    cases hc : c.cancel <;> simp [hdue, TokenCall.type, hc]
  · rw [h.info i hi]
    simp [hi]

lemma Issued.marked (h : Issued t c t')
    (hcancel : ∀ i, .freeReq i ∈ t.due → (t.tokenReqExPool i).cancel = true) (i : ReqSlot)
    (hi : .freeReq i ∈ t'.due) : (t'.tokenReqExPool i).cancel = true := by
  rw [h.due] at hi
  rw [h.cancel]
  rcases mem_append.1 hi with hi | hi
  · exact .inl (hcancel i hi)
  · exact .inr (OpNode.freeReq.inj (mem_singleton.1 hi))

lemma Outside.issueReqOp (h : ScanToken isScan t)
    (hfree : c.cancel = false → isScan c.inst = false) (hok : IssueOK t c) :
    Outside isScan t (issueReqOp c t) := by
  by_cases hused : (t.info (.freeReq c.slot)).used = true
  · rw [issueReqOp_used hused]
    exact .setReq h rfl (fun _ => rfl) rfl rfl
  obtain ⟨hinst, -, -, hdue⟩ := hok.resolve_left hused
  have hi := issueReqOp_issued hused
  have hfreeDue := hi.freeDue hdue
  refine ⟨hi.cur, hi.pc, hi.ended, fun i _ => congrFun hi.inst i, ?_, ?_, ?_, ?_, ?_⟩
  · intro i hscan hi'
    refine ((hfreeDue i).1 hi').resolve_right ?_
    rintro ⟨rfl, hc⟩
    rw [hi.inst, hinst, hfree hc] at hscan
    cases hscan
  · exact fun i hi' => (hfreeDue i).2 (.inl hi')
  · exact hi.marked h.cancel
  · exact fun i _ hrun => (hi.run i).trans hrun
  · rw [hi.calls]
    exact h.calls

lemma Issued.scanToken (hi : Issued t c t') (h : ScanToken isScan t) (ht : TokenInv t')
    (hdue : .freeReq c.slot ∉ t.due) (hcur : t.curCmdReq = some c.slot) (hpc : t.pc = .rest) :
    ScanToken isScan t' where
  token := ht
  cancel := hi.marked h.cancel
  run := by
    intro i hcur' hpc'
    rw [hi.run]
    exact h.run i (hi.cur ▸ hcur') (hi.pc ▸ hpc')
  freeing := by
    intro i hscan hfree
    rw [hi.cur, hi.pc, hpc]
    refine ⟨?_, nofun⟩
    rcases (hi.freeDue hdue i).1 hfree with hfree | ⟨rfl, -⟩
    · exact (h.freeing i (hi.inst ▸ hscan) hfree).1
    · exact hcur
  calls := by
    rw [hi.calls]
    exact h.calls

lemma Issued.settled (hi : Issued t c t') (hdue : .freeReq c.slot ∉ t.due)
    (hcur : t.curCmdReq = some c.slot) (hc : c.cancel = false) (k : ℕ) :
    ScanSettled isScan t' k ↔ ScanSettled isScan t k ∨ (isScan k = true ∧ k = t.inst c.slot) := by
  unfold ScanSettled
  rw [hi.ended, hi.cur, hi.inst, hcur, ← and_or_left, or_assoc]
  refine and_congr_right fun _ => or_congr_right ?_
  constructor
  · rintro ⟨i, hslot, rfl, hfree⟩
    rcases (hi.freeDue hdue i).1 hfree with hfree | ⟨rfl, -⟩
    · exact .inl ⟨i, hslot, rfl, hfree⟩
    · exact .inr rfl
  · rintro (⟨i, hslot, rfl, hfree⟩ | rfl)
    · exact ⟨i, hslot, rfl, (hi.freeDue hdue i).2 (.inl hfree)⟩
    · exact ⟨c.slot, rfl, rfl, (hi.freeDue hdue c.slot).2 (.inr ⟨rfl, hc⟩)⟩

end Issue

lemma ScanToken.outside_step (h : ScanToken isScan t) {e : TokenEvent}
    (he : e.outside isScan = true) (hok : TokenOK t e) : Outside isScan t (tokenStep t e) := by
  cases e with
  | addEnter =>
    exact iteInduction (fun _ => .aside h (t.entered + 1) t.status h.calls) fun _ => .refl h
  | addPop => exact .addPop h
  | addPush i => exact iteInduction (.acceptReq h) fun _ => .refl h
  | addMark i => exact iteInduction (fun _ => .markReq h) fun _ => .refl h
  | addOp i =>
    refine iteInduction (fun _ => ?_) fun _ => .refl h
    have ho := Outside.push (t := { t with marked := t.marked.erase i }) h.cancel h.calls
      (n := .addReq i) (by simp) .addCmdReq i
    exact ⟨ho.cur, ho.pc, ho.ended, ho.inst, ho.freeDue, ho.keeps, ho.cancel, ho.run, ho.calls⟩
  | cancelEnter hdl inst =>
    refine .aside h t.entered t.status fun c hc => ?_
    rcases mem_append.1 hc with hc | hc
    · exact h.calls c hc
    · obtain ⟨i, -, rfl⟩ := Option.map_eq_some_iff.1 (Option.mem_toList.1 hc)
      simp
  | freeEnter hdl inst =>
    refine .aside h t.entered t.status fun c hc => ?_
    rcases mem_append.1 hc with hc | hc
    · exact h.calls c hc
    · obtain ⟨i, -, rfl⟩ := Option.map_eq_some_iff.1 (Option.mem_toList.1 hc)
      intro _
      simpa [TokenEvent.outside] using he
  | issueOp k =>
    simp only [tokenStep, issueOp]
    cases hk : t.calls[k]? with
    | none => exact .refl h
    | some c =>
      have hcalls : ∀ c ∈ t.calls.eraseIdx k, c.cancel = false → isScan c.inst = false :=
        fun c hc => h.calls c (mem_of_mem_eraseIdx hc)
      have hside := Outside.aside h t.entered t.status hcalls
      have ho := Outside.issueReqOp
        (hside.scanToken h (h.token.aside t.entered (t.calls.eraseIdx k) t.status))
        (h.calls c (mem_of_getElem? hk)) (hok c hk)
      exact ⟨ho.cur, ho.pc, ho.ended, ho.inst, ho.freeDue, ho.keeps, ho.cancel, ho.run, ho.calls⟩
  | renewOp => exact .push h.cancel h.calls (n := .renewReq) (by simp) .renewCmdReq 0xff
  | setStatus status => exact .aside h t.entered status h.calls
  | thread ret => cases he

section Thread

variable {ret : MdlRet}

lemma ne_of_live_pushBackIdleReq {j : ReqSlot} (hj : (pushBackIdleReq i t).Live j) : j ≠ i := by
  rintro rfl
  exact hj.1 (by simp [CntQueue.pushTail])

lemma TokenMove.cancel (hm : TokenMove t ret t') {j : ReqSlot} (hj : t'.Live j) :
    (t'.tokenReqExPool j).cancel = (t.tokenReqExPool j).cancel := by
  cases hm with
  | stay | pop | pass | withdraw => rfl
  | free | fail | retire | drop =>
    exact congrArg _ (update_of_ne (ne_of_live_pushBackIdleReq hj) _ _)
  | abort | prepare | register => exact setReq_apply cancel (by rfl) j
  | release => exact setInfo_apply cancel _ _ (fun _ => rfl) (fun _ => rfl) j

lemma TokenMove.inst (hm : TokenMove t ret t') : t'.inst = t.inst := by
  cases hm with
  | @release n => cases n <;> rfl
  | _ => rfl

lemma TokenMove.calls (hm : TokenMove t ret t') : t'.calls = t.calls := by
  cases hm with
  | @release n => cases n <;> rfl
  | _ => rfl

lemma TokenMove.type (hm : TokenMove t ret t') (n : OpNode) :
    (t'.info n).type = (t.info n).type :=
  congrArg fst (hm.info n)

lemma TokenMove.freeDue (hm : TokenMove t ret t') (h : t'.FreeDue i) : t.FreeDue i :=
  ⟨hm.due_sublist.subset h.1, (hm.type _).symm.trans h.2⟩

lemma TokenMove.scanToken (h : ScanToken isScan t) (ht : TokenInv t') (hm : TokenMove t ret t') :
    ScanToken isScan t' where
  token := ht
  cancel := by
    intro i hi
    rw [hm.cancel (ht.ops.live _ hi i rfl)]
    exact h.cancel i (hm.due_sublist.subset hi)
  run := by
    intro i hcur hpc
    cases hm with
    | stay => exact h.run i hcur hpc
    | pop hpc' | withdraw hpc' => exact h.run i hcur (by simp [hpc'])
    | pass hpc' =>
      refine h.run i hcur fun n hn => ?_
      rcases hpc' with hpc' | hpc' | ⟨j, hpc'⟩ <;> rw [hpc'] at hn <;> cases hn
    | free | fail | retire => cases hcur
    | @abort j hpc' hcur' =>
      obtain rfl : j = i := Option.some.inj (hcur'.symm.trans hcur)
      exact absurd rfl (hpc _)
    | prepare hpc' hcur' =>
      cases hcur'.symm.trans hcur
    | @register n j =>
      obtain rfl : j = i := Option.some.inj hcur
      simp [registerCurCmdReq]
    | @drop j hpc' =>
      have hlive : ((pushBackIdleReq j t).goto (.handled (.freeReq j))).Live i :=
        live_of_cur ht.roster hcur
      have hji : i ≠ j := ne_of_live_pushBackIdleReq (t := t) hlive
      have hrun := h.run i hcur (by simp [hpc'])
      exact (congrArg TokenReqEx.run (update_of_ne hji _ _)).trans hrun
    | @release n hpc' =>
      have hcur' : t.curCmdReq = some i := by cases n <;> exact hcur
      have hrun := h.run i hcur' (by simp [hpc'])
      exact (setInfo_apply TokenReqEx.run _ n (fun _ => rfl) (fun _ => rfl) i).trans hrun
  freeing := by
    intro i hscan hdue
    have hlive := ht.ops.live _ hdue.1 i rfl
    rw [hm.inst] at hscan
    obtain ⟨hcur, hpc⟩ := h.freeing i hscan (hm.freeDue hdue)
    -- the current request changes only when its slot is given back
    have hback : ∀ {j}, t.curCmdReq = some j → (pushBackIdleReq j t).Live i → False := by
      intro j hj hlive
      exact ne_of_live_pushBackIdleReq hlive (Option.some.inj (hcur.symm.trans hj))
    cases hm with
    | stay => exact ⟨hcur, hpc⟩
    | pop | withdraw | abort | drop => exact ⟨hcur, by simp [abortWaitReq]⟩
    | pass hpc' hnext => exact ⟨hcur, by rcases hnext with rfl | rfl <;> simp⟩
    | free _ hj | fail _ hj | retire _ hj => exact (hback hj hlive).elim
    | prepare _ hnone | register _ hnone => cases hnone.symm.trans hcur
    | @release n => exact ⟨by cases n <;> exact hcur, by simp⟩
  calls := by
    rw [hm.calls]
    exact h.calls

lemma tokenOpHandler_free (h : ScanToken isScan t) (hpc : t.pc = .handling (.freeReq i))
    (hscan : isScan (t.inst i) = true) (hdue : t.FreeDue i) :
    tokenOpHandler ret t = (retireCurReq i (t.tell i .freed)).goto (.process (.freeReq i)) := by
  obtain ⟨hcur, -⟩ := h.freeing i hscan hdue
  have hrun := h.run i hcur (by simp [hpc])
  have hdata := (h.token.ops.fits _ hdue.1).2
  unfold tokenOpHandler
  rw [hpc]
  simp [handleTokenOpInfo, hdue.2, hdata, reqSlot_val, hrun, deregisterCurCmdReq, hcur]

lemma tokenOpHandler_cancel (h : TokenInv t) (hpc : t.pc = .handling (.freeReq i))
    (htype : (t.info (.freeReq i)).type = some .cancelCmdReq) (n : OpNode) :
    (tokenOpHandler ret t).pc ≠ .process n := by
  have hn : .freeReq i ∈ t.due := by simp [due, hpc, TokenPc.due]
  have hdata := (h.ops.fits _ hn).2
  unfold tokenOpHandler
  rw [hpc]
  simp only [handleTokenOpInfo, htype, hdata, reqSlot_val]
  split_ifs with henq hrun
  · simp [abortWaitReq]
  · simp only [abortCurReq, h.run i hrun]
    simp
  · simp

section

variable (h : ScanToken isScan t) (hm : TokenMove t ret t')
  (hkeeps : ∀ i, isScan (t.inst i) = true → t.curCmdReq = some i → t.FreeDue i →
    t'.curCmdReq = some i ∧ t'.FreeDue i ∨ t.inst i ∈ t'.ended.map fst)
include h hm hkeeps

lemma settled_congr {P : ℕ → Prop}
    (hended : ∀ k, k ∈ t'.ended.map fst ↔ k ∈ t.ended.map fst ∨ P k) (k : ℕ) :
    ScanSettled isScan t' k ↔ ScanSettled isScan t k ∨ (isScan k = true ∧ P k) := by
  unfold ScanSettled
  rw [hended, hm.inst, ← and_or_left]
  refine and_congr_right fun hscan => ?_
  constructor
  · rintro ((hk | hk) | ⟨i, -, rfl, hdue⟩)
    · exact .inl (.inl hk)
    · exact .inr hk
    · have hdue' := hm.freeDue hdue
      exact .inl (.inr ⟨i, (h.freeing i hscan hdue').1, rfl, hdue'⟩)
  · rintro ((hk | ⟨i, hcur, rfl, hdue⟩) | hk)
    · exact .inl (.inl hk)
    · rcases hkeeps i hscan hcur hdue with ⟨hcur, hdue⟩ | hk
      · exact .inr ⟨i, hcur, rfl, hdue⟩
      · exact .inl ((hended _).1 hk)
    · exact .inl (.inr hk)

lemma settled_quiet (hended : t'.ended = t.ended) (k : ℕ) :
    ScanSettled isScan t' k ↔ ScanSettled isScan t k := by
  have hiff := settled_congr (P := fun _ => False) h hm hkeeps (by simp [hended]) k
  simpa using hiff

end

lemma mem_ended_tell {e : TokenEnd} (hended : t'.ended = t.ended ++ [(t.inst i, e)]) (k : ℕ) :
    k ∈ t'.ended.map fst ↔ k ∈ t.ended.map fst ∨ k = t.inst i := by
  simp [hended]

/-- An operation that frees the token stays due until the request is told. -/
lemma TokenMove.keeps (h : TokenInv t) (hm : TokenMove t ret t') (hcur : t.curCmdReq = some i)
    (hdue : t.FreeDue i) (hpass : t.pc = .handling (.freeReq i) → t'.curCmdReq ≠ some i) :
    t'.curCmdReq = some i ∧ t'.FreeDue i ∨ t.inst i ∈ t'.ended.map fst := by
  obtain ⟨hi, htype⟩ := hdue
  rw [← hm.type] at htype
  have hqueue : .freeReq i ∉ t.pc.due → .freeReq i ∈ t.tokenOpQ :=
    fun hno => (mem_append.1 hi).resolve_left hno
  have htold : t.pc.told = some i → t.inst i ∈ t.ended.map fst := by
    intro ht
    have hends := (h.roster.ends_live i (h.roster.told_live i ht)).trans (if_pos ht)
    exact count_pos_iff.1 (Nat.lt_of_lt_of_eq Nat.one_pos hends.symm)
  cases hm with
  | stay => exact .inl ⟨hcur, hi, htype⟩
  | pop hpc hq =>
    have hmem := hqueue (by simp [hpc, TokenPc.due])
    rw [hq] at hmem
    exact .inl ⟨hcur, hmem, htype⟩
  | @pass n pc hpc hnext =>
    have hmem : .freeReq i ∈ t.tokenOpQ := by
      rcases hpc with hpc | hpc | ⟨j, hpc⟩
      · refine hqueue fun hmem => ?_
        rw [hpc] at hmem
        obtain rfl := mem_singleton.1 hmem
        exact hpass hpc hcur
      · exact hqueue (by simp [hpc, TokenPc.due])
      · exact hqueue (by simp [hpc, TokenPc.due])
    exact .inl ⟨hcur, mem_append_right _ hmem, htype⟩
  | free _ hj | fail _ hj | abort _ hj =>
    cases hj.symm.trans hcur
    exact .inr ((mem_ended_tell rfl _).2 (.inr rfl))
  | withdraw hpc =>
    rw [due, hpc] at hi
    exact .inl ⟨hcur, hi, htype⟩
  | prepare _ hnone | register _ hnone => cases hnone.symm.trans hcur
  | retire hpc hj =>
    cases hj.symm.trans hcur
    exact .inr (htold (by rw [hpc]; rfl))
  | @drop j hpc =>
    by_cases hij : i = j
    · subst hij
      exact .inr (htold (by rw [hpc]; rfl))
    · have hmem := hqueue fun hmem => by
        rw [hpc] at hmem
        exact hij (OpNode.freeReq.inj (mem_singleton.1 hmem))
      exact .inl ⟨hcur, hmem, htype⟩
  | @release n hpc =>
    have hmem := hqueue (by simp [hpc, TokenPc.due])
    refine .inl ⟨?_, ?_, htype⟩
    · cases n <;> exact hcur
    · cases n <;> exact hmem

lemma ScanToken.keeps (h : ScanToken isScan t) (hok : TokenOK t (.thread ret))
    (hscan : isScan (t.inst i) = true) (hcur : t.curCmdReq = some i) (hdue : t.FreeDue i) :
    (tokenOpHandler ret t).curCmdReq = some i ∧ (tokenOpHandler ret t).FreeDue i ∨
      t.inst i ∈ (tokenOpHandler ret t).ended.map fst := by
  refine (tokenOpHandler_move h.token hok).keeps h.token hcur hdue fun hpc => ?_
  rw [tokenOpHandler_free h hpc hscan hdue]
  nofun

lemma settled_acquiring (h : ScanToken isScan t) (hok : TokenOK t (.thread ret)) {n : OpNode}
    (hpc : t.pc = .acquiring n i) : ¬ ScanSettled isScan t (t.inst i) ∧
      ∀ k, ScanSettled isScan (tokenOpHandler ret t) k ↔
        ScanSettled isScan t k ∨ (isScan k = true ∧ ret = .fail ∧ k = t.inst i) := by
  have hcur : t.curCmdReq = some i := by
    have hknows := h.token.knows
    rwa [DisprToken.Knows, hpc] at hknows
  constructor
  · by_cases hscan : isScan (t.inst i) = true
    · refine not_settled h.token.roster (live_of_cur h.token.roster hcur)
        (by simp [hpc]) ?_
      exact fun _ hdue => (h.freeing i hscan hdue).2 n hpc
    · exact fun hsettled => hscan hsettled.1
  · refine settled_congr h (tokenOpHandler_move h.token hok) (fun j => h.keeps hok) fun k => ?_
    unfold tokenOpHandler
    rw [hpc]
    split_ifs with hret
    · simp only [deregisterCurCmdReq, hcur, hret, true_and]
      exact mem_ended_tell rfl k
    · simp [hret]

/-- What a step of the thread outside `acquired` settles: nothing, or a request whose `abort` it
calls. -/
inductive ThreadSettles (isScan : ℕ → Bool) (t t' : DisprToken) : Prop where
  | quiet (habort : abortedReq t t' = none)
    (hsettled : ∀ k, ScanSettled isScan t' k ↔ ScanSettled isScan t k) : ThreadSettles isScan t t'
  | abort (i : ReqSlot) (habort : abortedReq t t' = some i)
    (hopen : ¬ ScanSettled isScan t (t.inst i))
    (hsettled : ∀ k, ScanSettled isScan t' k ↔
      ScanSettled isScan t k ∨ (isScan k = true ∧ k = t.inst i)) : ThreadSettles isScan t t'

lemma abortedReq_none (hpc : ∀ n, t.pc ≠ .handling n) : abortedReq t t' = none := by
  unfold abortedReq
  split
  · rename_i n _ _ hn _
    exact absurd hn (hpc n)
  · rename_i n _ _ hn _
    exact absurd hn (hpc n)
  · rfl

lemma not_settled_of_cancel (h : ScanToken isScan t) (hpc : t.pc = .handling (.freeReq i))
    (hnext : ∀ n, (tokenOpHandler ret t).pc ≠ .process n) :
    ¬ ScanSettled isScan t (t.inst i) := by
  intro hsettled
  have hn : .freeReq i ∈ t.due := by simp [due, hpc, TokenPc.due]
  refine not_settled h.token.roster (h.token.ops.live _ hn i rfl) (by simp [hpc]) ?_
    hsettled
  intro _ hdue
  refine hnext (.freeReq i) ?_
  rw [tokenOpHandler_free h hpc hsettled.1 hdue]
  rfl

lemma settled_thread (h : ScanToken isScan t) (hok : TokenOK t (.thread ret))
    (hacq : ∀ n i, t.pc ≠ .acquiring n i) :
    ThreadSettles isScan t (tokenOpHandler ret t) := by
  have hm := tokenOpHandler_move h.token hok
  have hkeeps := fun i => h.keeps (i := i) hok
  have hcancel : ∀ i, t.pc = .handling (.freeReq i) →
      (t.info (.freeReq i)).type = some .cancelCmdReq →
      ∀ n, (tokenOpHandler ret t).pc ≠ .process n := fun i => tokenOpHandler_cancel h.token
  have hnot : ∀ i, t.pc = .handling (.freeReq i) →
      (∀ n, (tokenOpHandler ret t).pc ≠ .process n) → ¬ ScanSettled isScan t (t.inst i) :=
    fun i => not_settled_of_cancel h
  have hquiet := settled_quiet h hm hkeeps
  have hcongr := fun P => settled_congr (P := P) h hm hkeeps
  generalize tokenOpHandler ret t = t' at *
  cases hm with
  | stay hpc | pop hpc | prepare hpc | register hpc | retire hpc | drop hpc =>
    exact .quiet (abortedReq_none (by simp [hpc])) (hquiet rfl)
  | @release n hpc =>
    refine .quiet (abortedReq_none (by simp [hpc])) (hquiet ?_)
    cases n <;> rfl
  | pass hpc hnext =>
    refine .quiet ?_ (hquiet rfl)
    rcases hpc with hpc | hpc | ⟨j, hpc⟩
    · rcases hnext with rfl | rfl <;> simp [hpc]
    · exact abortedReq_none (by simp [hpc])
    · exact absurd hpc (hacq _ j)
  | @free i hpc hcur =>
    have hn : .freeReq i ∈ t.due := by simp [due, hpc, TokenPc.due]
    have hdue : t.FreeDue i := by
      refine ⟨hn, ((h.token.ops.fits _ hn).1).resolve_right fun htype => ?_⟩
      exact hcancel i hpc htype (.freeReq i) rfl
    refine .quiet (by simp [hpc]) fun k => ?_
    rw [hcongr _ (mem_ended_tell rfl) k]
    -- its handler had ended the scan before
    refine or_iff_left_of_imp ?_
    rintro ⟨hscan, rfl⟩
    exact ⟨hscan, .inr ⟨i, hcur, rfl, hdue⟩⟩
  | fail hpc => exact absurd hpc (hacq _ _)
  | @withdraw i hpc =>
    exact .abort i (by simp [hpc, abortWaitReq])
      (hnot i hpc (by simp [abortWaitReq]))
      (hcongr _ (mem_ended_tell rfl))
  | @abort i hpc =>
    exact .abort i (by simp [hpc]) (hnot i hpc (by simp))
      (hcongr _ (mem_ended_tell rfl))

end Thread

end Rtl8852be

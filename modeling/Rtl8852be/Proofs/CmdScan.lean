import Rtl8852be.Lib.LastCall
import Rtl8852be.Proofs.ScanToken

/-!
# Each scan is completed once

The step that settles a scan makes its last call, `scan_complete`, or sends the message whose
completion makes it. That goes wrong when the thread leaves while the operation that frees the token
of the current scan is due.
-/

namespace Rtl8852be

open Places Run LastCall Option

variable {t : DisprToken} {t' : DisprToken} {e : TokenEvent}

def CmdScan.completions (s : CmdScan) (k : ℕ) : ℕ := s.calls.count (k, .scanComplete)

/-- A scan is completed at most once, and once when its slot is back and the message of its `abort`
has completed. Nothing is called on its parameter after that. -/
structure ScanReport (isScan : ℕ → Bool) (s : CmdScan) : Prop where
  once : ∀ k, s.completions k ≤ 1
  back : ∀ k < s.tok.accepted, isScan k = true → (∀ i, s.tok.Live i → s.tok.inst i ≠ k) →
    k ∉ s.abortMsgs → s.completions k = 1
  silent : s.calls.Pairwise fun a b => a.2 = .scanComplete → b.1 ≠ a.1

def ScanEnv.acquiredRet (o : ScanEnv) (scan : Bool) : MdlRet :=
  if scan then if o.timeout || !o.startSent then .fail else .success else o.ret

section Condition

variable (isScan : ℕ → Bool)

def CmdScan.nextRet (s : CmdScan) (o : ScanEnv) : MdlRet :=
  match s.tok.pc with
  | .acquiring _ i => o.acquiredRet (isScan (s.tok.inst i))
  | _ => o.ret

/-- The thread does not leave while the operation that frees the token of the current scan is
queued. -/
def ScanOK (s : CmdScan) : ScanEvent → Prop
  | .token e => TokenOK s.tok e
  | .thread o => TokenOK s.tok (.thread (s.nextRet isScan o))
  | .freeToken => ∀ c ∈ s.ending, IssueOK s.tok c
  | .leave _ => ∀ i ∈ s.tok.curCmdReq, isScan (s.tok.inst i) = true →
    .freeReq i ∈ s.tok.tokenOpQ → (s.tok.info (.freeReq i)).type ≠ some .freeCmdReq
  | _ => True

instance (s : CmdScan) : DecidablePred (ScanOK isScan s)
  | .token e => inferInstanceAs (Decidable (TokenOK s.tok e))
  | .thread o => inferInstanceAs (Decidable (TokenOK s.tok (.thread (s.nextRet isScan o))))
  | .freeToken => inferInstanceAs (Decidable (∀ c ∈ s.ending, _))
  | .leave _ => inferInstanceAs (Decidable (∀ i ∈ s.tok.curCmdReq, _ → _ → _))
  | .cancelAll _ | .msg _ | .scanEnd _ | .abortMsgDone _ | .leaveReq _ => .isTrue trivial

end Condition

variable {s : CmdScan} {o : ScanEnv} {k : ℕ}

section Handlers

variable {isScan : ℕ → Bool} {settled settled' : ℕ → Prop}

structure Aside (s s' : CmdScan) : Prop where
  tok : s'.tok = s.tok
  ending : s'.ending = s.ending
  left : s'.left = s.left

lemma reqAbort_aside : Aside s (reqAbort isScan k o s) := by
  unfold reqAbort phlCmdScanReqAbort cmdAbortNotify
  split_ifs <;> exact ⟨rfl, rfl, rfl⟩

lemma reqAcquired_aside : Aside s (reqAcquired isScan k o s).2 := by
  simp only [reqAcquired, phlCmdScanReqAcquired, cmdAbortNotify]
  split_ifs <;> exact ⟨rfl, rfl, rfl⟩

lemma reqAcquired_ret : (reqAcquired isScan k o s).1 = o.acquiredRet (isScan k) := by
  unfold reqAcquired phlCmdScanReqAcquired ScanEnv.acquiredRet
  split_ifs <;> rfl

lemma account_abortNotify (h : Account .scanComplete settled (some k) s.abortMsgs s.calls) :
    Account .scanComplete settled none (cmdAbortNotify k o s).abortMsgs
      (cmdAbortNotify k o s).calls := by
  have hk := (h.owes k rfl).2.1
  unfold cmdAbortNotify
  split_ifs
  · exact h.send
  · have hfin := (h.call (c := .abortNotifyCb) hk nofun).finish
    simpa [CmdScan.call] using hfin
  · exact h.finish

section

variable (h : Account .scanComplete settled none s.abortMsgs s.calls) (hopen : ¬ settled k)
include h hopen

lemma account_abort (hsettled : ∀ j, settled' j ↔ settled j ∨ (isScan j = true ∧ j = k)) :
    Account .scanComplete settled' none (reqAbort isScan k o s).abortMsgs
      (reqAbort isScan k o s).calls := by
  unfold reqAbort
  split_ifs with hscan
  · have howed : Account .scanComplete settled' (some k) s.abortMsgs s.calls := by
      refine h.settle hopen fun j => ?_
      rw [hsettled j]
      refine or_congr_right ⟨fun hj => hj.2, ?_⟩
      rintro rfl
      exact ⟨hscan, rfl⟩
    have hk := (howed.owes k rfl).2.1
    exact account_abortNotify (s := s.call k [.abort]) (howed.call hk nofun)
  · refine h.congr fun j => ?_
    rw [hsettled j]
    refine or_iff_left ?_
    rintro ⟨hj, rfl⟩
    exact hscan hj

lemma account_acquired (hsettled : ∀ j, settled' j ↔
      settled j ∨ (isScan j = true ∧ o.acquiredRet (isScan k) = .fail ∧ j = k)) :
    Account .scanComplete settled' none (reqAcquired isScan k o s).2.abortMsgs
      (reqAcquired isScan k o s).2.calls := by
  have hk : (k, ScanCall.scanComplete) ∉ s.calls := fun hdone => hopen (h.done k hdone)
  unfold reqAcquired phlCmdScanReqAcquired
  unfold ScanEnv.acquiredRet at hsettled
  split_ifs with hscan hfail
  · have howed : Account .scanComplete settled' (some k) s.abortMsgs s.calls := by
      refine h.settle hopen fun j => ?_
      rw [hsettled j, hscan, if_pos rfl, if_pos hfail]
      refine or_congr_right ⟨fun hj => hj.2.2, ?_⟩
      rintro rfl
      exact ⟨hscan, rfl, rfl⟩
    exact account_abortNotify (s := s.call k [.acquired]) (howed.call hk nofun)
  · refine (h.call (c := .acquired) hk nofun).congr fun j => ?_
    rw [hsettled j, hscan, if_pos rfl, if_neg hfail]
    exact or_iff_left nofun
  · refine h.congr fun j => ?_
    rw [hsettled j]
    refine or_iff_left ?_
    rintro ⟨hj, -, rfl⟩
    exact hscan hj

end

end Handlers

structure ScanPhase (isScan : ℕ → Bool) (s : CmdScan) : Prop where
  work : s.left = false → ScanToken isScan s.tok
  gone : s.left = true →
    RosterInv s.tok.roster ∧ s.tok.pc = .rest ∧ s.tok.curCmdReq = none ∧ s.ending = none
  ending : ∀ c, s.ending = some c → s.tok.pc = .rest ∧ s.tok.curCmdReq = some c.slot ∧
    s.tok.inst c.slot = c.inst ∧ isScan c.inst = true ∧ c.cancel = false

structure ScanInv (isScan : ℕ → Bool) (s : CmdScan) : Prop where
  account : Account .scanComplete (ScanSettled isScan s.tok) none s.abortMsgs s.calls
  phase : ScanPhase isScan s

section Invariant

variable {isScan : ℕ → Bool} {s' : CmdScan}
variable {i : ReqSlot}

lemma ScanPhase.of_work (hleft : s.left = false) (hending : s.ending = none)
    (hwork : ScanToken isScan s.tok) : ScanPhase isScan s where
  work := fun _ => hwork
  gone := fun hleft' => absurd (hleft.symm.trans hleft') nofun
  ending := fun _ hc => absurd (hending.symm.trans hc) nofun

lemma ScanPhase.of_gone (hleft : s.left = true) (hroster : RosterInv s.tok.roster)
    (hpc : s.tok.pc = .rest) (hcur : s.tok.curCmdReq = none) (hending : s.ending = none) :
    ScanPhase isScan s where
  work := fun hleft' => absurd (hleft.symm.trans hleft') nofun
  gone := fun _ => ⟨hroster, hpc, hcur, hending⟩
  ending := fun _ hc => absurd (hending.symm.trans hc) nofun

lemma ScanPhase.aside (h : ScanPhase isScan s) (haside : Aside s s') : ScanPhase isScan s' where
  work := by
    rw [haside.left, haside.tok]
    exact h.work
  gone := by
    rw [haside.left, haside.tok, haside.ending]
    exact h.gone
  ending := by
    rw [haside.tok, haside.ending]
    exact h.ending

lemma ScanInv.roster (h : ScanInv isScan s) : RosterInv s.tok.roster := by
  cases hleft : s.left with
  | false => exact (h.phase.work hleft).token.roster
  | true => exact (h.phase.gone hleft).1

lemma ScanInv.report (h : ScanInv isScan s) : ScanReport isScan s where
  once := count_le_one h.account.silent
  back := by
    intro k hk hscan hlive hmsg
    have hends : s.tok.roster.ends k = 1 :=
      h.roster.ends_gone k hk fun i hi => hlive i ((roster_live h.roster i).1 hi)
    have hended : k ∈ s.tok.ended.map Prod.fst :=
      List.count_pos_iff.1 (Nat.lt_of_lt_of_eq Nat.one_pos hends.symm)
    exact h.account.count_eq_one ⟨hscan, .inl hended⟩ hmsg
  silent := h.account.silent

lemma scanInit_inv (isScan : ℕ → Bool) : ScanInv isScan scanInit where
  account := by
    refine Account.init _ ?_
    rintro k ⟨-, hk | ⟨i, hi, -⟩⟩
    · cases hk
    · cases hi
  phase := by
    refine .of_work rfl rfl ⟨tokenInit_inv, nofun, nofun, ?_, nofun⟩
    rintro i - ⟨hdue, -⟩
    cases hdue

lemma ScanInv.call (h : ScanInv isScan s) (hopen : ¬ ScanSettled isScan s.tok k)
    {cs : List ScanCall} (hcs : .scanComplete ∉ cs) : ScanInv isScan (s.call k cs) where
  account := h.account.calls (fun hdone => hopen (h.account.done k hdone)) hcs
  phase := h.phase.aside ⟨rfl, rfl, rfl⟩

lemma ScanPhase.reqAbort {settled : ℕ → Prop} (h : ScanPhase isScan s)
    (haccount : Account .scanComplete settled none s.abortMsgs s.calls) (hopen : ¬ settled k)
    (hsettled : ∀ j, ScanSettled isScan s.tok j ↔ settled j ∨ (isScan j = true ∧ j = k)) :
    ScanInv isScan (reqAbort isScan k o s) := by
  have haside : Aside s (Rtl8852be.reqAbort isScan k o s) := reqAbort_aside
  refine ⟨?_, h.aside haside⟩
  rw [haside.tok]
  exact account_abort haccount hopen hsettled

lemma ScanInv.outside (h : ScanInv isScan s) (hleft : s.left = false)
    (ho : Outside isScan s.tok t') (ht : TokenInv t') : ScanInv isScan { s with tok := t' } where
  account := h.account.congr (ho.settled h.roster)
  phase := by
    refine ⟨fun _ => ho.scanToken (h.phase.work hleft) ht,
      fun hleft' => absurd (hleft.symm.trans hleft') nofun, fun c hc => ?_⟩
    obtain ⟨hpc, hcur, hinst, hscan, hcancel⟩ := h.phase.ending c hc
    have hslot := ho.inst c.slot (live_of_cur h.roster hcur)
    exact ⟨ho.pc.trans hpc, ho.cur.trans hcur, hslot.trans hinst, hscan, hcancel⟩

structure Late (t t' : DisprToken) : Prop where
  roster : RosterOps t.roster t'.roster
  pc : t'.pc = t.pc
  cur : t'.curCmdReq = t.curCmdReq
  ended : t'.ended = t.ended

lemma ScanInv.late (h : ScanInv isScan s) (hleft : s.left = true) (hlate : Late s.tok t') :
    ScanInv isScan { s with tok := t' } := by
  obtain ⟨hinv, hrest, hnone, hending⟩ := h.phase.gone hleft
  refine ⟨h.account.congr fun k => ?_, .of_gone hleft (hlate.roster.inv hinv)
    (hlate.pc.trans hrest) (hlate.cur.trans hnone) hending⟩
  simp [ScanSettled, hlate.ended, hlate.cur, hnone]

lemma setReq_late (i : ReqSlot) (ex : TokenReqEx) : Late t (t.setReq i ex) :=
  ⟨.of_eq rfl, rfl, rfl, rfl⟩

lemma pushBackTokenOpInfo_late (n : OpNode) (type : TokenOpType) (data : ℕ) :
    Late t (pushBackTokenOpInfo n type data t) := by
  unfold pushBackTokenOpInfo
  split_ifs
  · exact ⟨.refl _, rfl, rfl, rfl⟩
  · cases n <;> exact ⟨.of_eq rfl, rfl, rfl, rfl⟩

lemma issueReqOp_late (c : TokenCall) : Late t (issueReqOp c t) := by
  unfold issueReqOp
  dsimp only
  split_ifs
  · exact setReq_late _ _
  have hlate := pushBackTokenOpInfo_late
    (t := t.setReq c.slot { t.tokenReqExPool c.slot with cancel := true })
    (.freeReq c.slot) c.type c.slot
  exact ⟨hlate.roster, hlate.pc, hlate.cur, hlate.ended⟩

lemma addPop_late : Late t (addPop t) := by
  unfold addPop
  split_ifs
  · exact ⟨.refl _, rfl, rfl, rfl⟩
  unfold popFrontIdleReq
  dsimp only
  cases hq : t.tokenReqIdleQ.items with
  | nil => exact ⟨.of_eq rfl, rfl, rfl, rfl⟩
  | cons i rest =>
    refine ⟨?_, rfl, rfl, rfl⟩
    have hi : i ∈ t.tokenReqIdleQ.items := by simp [hq]
    have hroster : ({ t.setReq i clearedReq with
        tokenReqIdleQ := t.tokenReqIdleQ.dropFirst
        adding := t.adding ++ [i] } : DisprToken).roster = _ := roster_alloc hq
    exact .op (.alloc i) hi (.of_eq hroster)

lemma tokenStep_late (he : e.outside isScan = true) : Late t (tokenStep t e) := by
  cases e with
  | addEnter =>
    simp only [tokenStep]
    split_ifs <;> exact ⟨.of_eq rfl, rfl, rfl, rfl⟩
  | addPop => exact addPop_late
  | addPush i =>
    simp only [tokenStep]
    split_ifs with hi
    · exact ⟨.op (.accept i) hi (.of_eq (roster_accept hi)), rfl, rfl, rfl⟩
    · exact ⟨.refl _, rfl, rfl, rfl⟩
  | addMark i =>
    simp only [tokenStep]
    split_ifs <;> exact ⟨.of_eq rfl, rfl, rfl, rfl⟩
  | addOp i =>
    simp only [tokenStep]
    split_ifs
    · have hlate := pushBackTokenOpInfo_late (t := { t with marked := t.marked.erase i })
        (.addReq i) .addCmdReq i
      exact ⟨hlate.roster, hlate.pc, hlate.cur, hlate.ended⟩
    · exact ⟨.refl _, rfl, rfl, rfl⟩
  | cancelEnter | freeEnter | setStatus => exact ⟨.of_eq rfl, rfl, rfl, rfl⟩
  | issueOp k =>
    simp only [tokenStep, issueOp]
    cases t.calls[k]? with
    | none => exact ⟨.refl _, rfl, rfl, rfl⟩
    | some c =>
      have hlate := issueReqOp_late (t := { t with calls := t.calls.eraseIdx k }) c
      exact ⟨hlate.roster, hlate.pc, hlate.cur, hlate.ended⟩
  | renewOp => exact pushBackTokenOpInfo_late _ _ _
  | thread ret => cases he

lemma cancelCmdReq_late (i : ReqSlot) : Late t (cancelCmdReq i t) := by
  unfold cancelCmdReq
  dsimp only
  split_ifs
  · exact setReq_late _ _
  · exact ⟨.refl _, rfl, rfl, rfl⟩

lemma ScanInv.token (h : ScanInv isScan s) (he : e.outside isScan = true)
    (hok : TokenOK s.tok e) : ScanInv isScan { s with tok := tokenStep s.tok e } := by
  cases hleft : s.left with
  | false =>
    have hwork := h.phase.work hleft
    exact hleft ▸ h.outside hleft (hwork.outside_step he hok) (hwork.token.step hok)
  | true => exact hleft ▸ h.late hleft (tokenStep_late he)

lemma ScanInv.cancelCmdReq (h : ScanInv isScan s) (i : ReqSlot) :
    ScanInv isScan { s with tok := cancelCmdReq i s.tok } := by
  cases hleft : s.left with
  | false =>
    have hwork := h.phase.work hleft
    have ht : TokenInv (Rtl8852be.cancelCmdReq i s.tok) := by
      unfold Rtl8852be.cancelCmdReq
      dsimp only
      split_ifs
      · exact hwork.token.setReq (by exact id) rfl rfl
      · exact hwork.token
    exact hleft ▸ h.outside hleft (.cancelCmdReq hwork) ht
  | true => exact hleft ▸ h.late hleft (cancelCmdReq_late i)

lemma idle_iff : s.idle = true ↔ s.tok.pc = .rest ∧ s.ending = none := by
  simp [CmdScan.idle]

lemma current_iff : s.current isScan = some i ↔
    s.tok.curCmdReq = some i ∧ (s.tok.tokenReqExPool i).run = true ∧
      (s.tok.tokenReqExPool i).cancel = false ∧ isScan (s.tok.inst i) = true := by
  simp [CmdScan.current, filter_eq_some_iff, and_assoc]

lemma current_open (h : ScanToken isScan s.tok) (hpc : s.tok.pc = .rest)
    (hi : s.current isScan = some i) : ¬ ScanSettled isScan s.tok (s.tok.inst i) := by
  obtain ⟨hcur, -, hcancel, -⟩ := current_iff.1 hi
  refine not_settled h.token.roster (live_of_cur h.token.roster hcur) (by rw [hpc]; nofun) ?_
  intro _ hdue
  exact nomatch (h.cancel i hdue.1).symm.trans hcancel

lemma ScanMsg.scanComplete_notMem (m : ScanMsg) : .scanComplete ∉ .msgHdlr :: m.calls := by
  cases m with
  | scanStart | swchDone | failed | external => simp [ScanMsg.calls]
  | listenStateExpire b | swchStart b => cases b <;> simp [ScanMsg.calls]

lemma ScanInv.curReqHdl (h : ScanInv isScan s) (hleft : s.left = false)
    (hpc : s.tok.pc = .rest) (m : ScanMsg) : ScanInv isScan (curReqHdl isScan m s) := by
  unfold Rtl8852be.curReqHdl
  cases hi : s.current isScan with
  | none => exact h
  | some i => exact h.call (current_open (h.phase.work hleft) hpc hi) m.scanComplete_notMem

lemma reqOfHdl_genValidHdl (i : ReqSlot) : reqOfHdl (genValidHdl i) = some i := by
  revert i
  decide

lemma freeTokenAllowed_stored {stored : Bool} {j : ReqSlot}
    (h : freeTokenAllowed (if stored then genValidHdl i else 0) t = some j) : j = i := by
  have hreq := (filter_eq_some_iff.1 h).1
  cases stored with
  | false => simp [reqOfHdl] at hreq
  | true =>
    rw [if_pos rfl, reqOfHdl_genValidHdl] at hreq
    exact (some.inj hreq).symm

lemma ScanInv.scanEndHdl (h : ScanInv isScan s) (hleft : s.left = false)
    (hpc : s.tok.pc = .rest) (stored : Bool) : ScanInv isScan (scanEndHdl isScan stored s) := by
  unfold Rtl8852be.scanEndHdl
  cases hi : s.current isScan with
  | none => exact h
  | some i =>
    have hcall : ScanInv isScan (s.call (s.tok.inst i) [.msgHdlr]) :=
      h.call (current_open (h.phase.work hleft) hpc hi) (by simp)
    refine ⟨hcall.account, hcall.phase.work,
      fun hleft' => absurd (hleft.symm.trans hleft') nofun, ?_⟩
    intro c hc
    obtain ⟨j, hj, rfl⟩ := map_eq_some_iff.1 hc
    obtain rfl := freeTokenAllowed_stored hj
    obtain ⟨hcur, -, -, hscan⟩ := current_iff.1 hi
    exact ⟨hpc, hcur, rfl, hscan, rfl⟩

lemma ScanInv.scanEndFree (h : ScanInv isScan s) (hok : ∀ c ∈ s.ending, IssueOK s.tok c) :
    ScanInv isScan (scanEndFree s) := by
  unfold Rtl8852be.scanEndFree
  cases hc : s.ending with
  | none => exact h
  | some c =>
    obtain ⟨hpc, hcur, hinst, hscan, hcancel⟩ := h.phase.ending c hc
    have hleft : s.left = false := by
      cases hleft : s.left with
      | false => rfl
      | true => cases (h.phase.gone hleft).2.2.2.symm.trans hc
    have hwork := h.phase.work hleft
    have ht := hwork.token.issueReqOp (hok c hc)
    dsimp only
    split_ifs with hused
    · have ho : Outside isScan s.tok (issueReqOp c s.tok) := by
        rw [issueReqOp_used hused]
        exact .setReq hwork rfl (fun _ => rfl) rfl rfl
      have hout := h.outside hleft ho ht
      exact ⟨hout.account, .of_work hleft rfl (hout.phase.work hleft)⟩
    · obtain ⟨-, hlive, -, hdue⟩ := (hok c hc).resolve_left hused
      have hi := issueReqOp_issued hused
      have hopen : ¬ ScanSettled isScan s.tok c.inst := by
        rw [← hinst]
        exact not_settled h.roster hlive (by rw [hpc]; nofun) fun _ hfree => hdue hfree.1
      have howed : Account .scanComplete (ScanSettled isScan (issueReqOp c s.tok)) (some c.inst)
          s.abortMsgs s.calls := by
        refine h.account.settle hopen fun k => ?_
        rw [hi.settled hdue hcur hcancel k, hinst]
        refine or_congr_right ⟨fun hk => hk.2, ?_⟩
        rintro rfl
        exact ⟨hscan, rfl⟩
      exact ⟨howed.finish, .of_work hleft rfl (hi.scanToken hwork ht hdue hcur hpc)⟩

lemma ScanInv.abortMsgDone (h : ScanInv isScan s) (k : ℕ) :
    ScanInv isScan (abortMsgDone k s) := by
  unfold Rtl8852be.abortMsgDone
  split_ifs with hk
  · have howed := h.account.back hk
    have hfin := (howed.call (c := .abortNotifyCb) (howed.owes k rfl).2.1 nofun).finish
    refine ⟨?_, h.phase.aside ⟨rfl, rfl, rfl⟩⟩
    simpa [CmdScan.call] using hfin
  · exact h

lemma nextRet_of_acquiring {n : OpNode} (hpc : s.tok.pc = .acquiring n i) :
    s.nextRet isScan o = o.acquiredRet (isScan (s.tok.inst i)) := by
  simp only [CmdScan.nextRet, hpc]

lemma nextRet_of_ne (hpc : ∀ n i, s.tok.pc ≠ .acquiring n i) : s.nextRet isScan o = o.ret := by
  unfold CmdScan.nextRet
  split
  · rename_i n i hn
    exact absurd hn (hpc n i)
  · rfl

lemma scanOpHandler_of_acquiring {n : OpNode} (hpc : s.tok.pc = .acquiring n i) :
    scanOpHandler isScan o s = { (reqAcquired isScan (s.tok.inst i) o s).2 with
      tok := tokenOpHandler (s.nextRet isScan o) s.tok } := by
  have haside : Aside s (reqAcquired isScan (s.tok.inst i) o s).2 := reqAcquired_aside
  have hret : (reqAcquired isScan (s.tok.inst i) o s).1 = s.nextRet isScan o :=
    reqAcquired_ret.trans (nextRet_of_acquiring hpc).symm
  rw [← hret]
  unfold scanOpHandler
  simp only [hpc, haside.tok]

lemma scanOpHandler_of_ne (hpc : ∀ n i, s.tok.pc ≠ .acquiring n i) : scanOpHandler isScan o s =
      match abortedReq s.tok (tokenOpHandler (s.nextRet isScan o) s.tok) with
      | some i => reqAbort isScan (s.tok.inst i) o
          { s with tok := tokenOpHandler (s.nextRet isScan o) s.tok }
      | none => { s with tok := tokenOpHandler (s.nextRet isScan o) s.tok } := by
  rw [nextRet_of_ne hpc]
  unfold scanOpHandler
  split
  · rename_i n i hn
    exact absurd hn (hpc n i)
  · rfl

lemma ScanInv.scanOpHandler (h : ScanInv isScan s) (hleft : s.left = false)
    (hending : s.ending = none) (hok : TokenOK s.tok (.thread (s.nextRet isScan o))) :
    ScanInv isScan (scanOpHandler isScan o s) := by
  have hwork := h.phase.work hleft
  have hwork' := (tokenOpHandler_move hwork.token hok).scanToken hwork (hwork.token.thread hok)
  by_cases hacq : ∃ n i, s.tok.pc = .acquiring n i
  · obtain ⟨n, i, hpc⟩ := hacq
    have haside : Aside s (reqAcquired isScan (s.tok.inst i) o s).2 := reqAcquired_aside
    obtain ⟨hopen, hsettled⟩ := settled_acquiring hwork hok hpc
    rw [scanOpHandler_of_acquiring hpc]
    refine ⟨?_, .of_work (haside.left.trans hleft) (haside.ending.trans hending) hwork'⟩
    refine account_acquired h.account hopen fun j => ?_
    rw [← nextRet_of_acquiring hpc]
    exact hsettled j
  · simp at hacq
    rw [scanOpHandler_of_ne hacq]
    rcases settled_thread hwork hok hacq with ⟨habort, hsettled⟩ | ⟨i, habort, hopen, hsettled⟩
    · rw [habort]
      exact ⟨h.account.congr hsettled, .of_work hleft hending hwork'⟩
    · rw [habort]
      have hphase : ScanPhase isScan { s with tok := tokenOpHandler (s.nextRet isScan o) s.tok } :=
        .of_work hleft hending hwork'
      exact hphase.reqAbort h.account hopen hsettled

lemma roster_leaveCurReq {i : ReqSlot} (hcur : t.curCmdReq = some i) (hpc : t.pc = .rest) :
    RosterOps t.roster (retireCurReq i (t.tell i .aborted)).roster := by
  have hheld : t.pc.held = [] := by rw [hpc]; rfl
  have htold : t.pc.told = none := by rw [hpc]; rfl
  have hgoto : ((retireCurReq i (t.tell i .aborted)).goto (.process .renewReq)).roster =
      (retireCurReq i (t.tell i .aborted)).roster := roster_goto hheld.symm htold.symm
  rw [← hgoto]
  exact roster_deregister hcur hheld htold

lemma ScanInv.leaveCurReq (h : ScanInv isScan s) (hpc : s.tok.pc = .rest)
    (hending : s.ending = none) (hok : ScanOK isScan s (.leave o)) :
    ScanInv isScan (leaveCurReq isScan o s) := by
  unfold Rtl8852be.leaveCurReq
  dsimp only
  cases hcur : s.tok.curCmdReq with
  | none => exact ⟨h.account, .of_gone rfl h.roster hpc hcur hending⟩
  | some i =>
    have hfree : isScan (s.tok.inst i) = true → ¬ s.tok.FreeDue i := by
      rintro hscan ⟨hdue, htype⟩
      rw [due_of_pc hpc] at hdue
      exact hok i hcur hscan hdue htype
    have hopen : ¬ ScanSettled isScan s.tok (s.tok.inst i) := by
      intro hsettled
      refine not_settled h.roster (live_of_cur h.roster hcur) (by rw [hpc]; nofun) ?_ hsettled
      exact fun _ => hfree hsettled.1
    have hphase : ScanPhase isScan
        { s with left := true, tok := retireCurReq i (s.tok.tell i .aborted) } :=
      .of_gone rfl ((roster_leaveCurReq hcur hpc).inv h.roster) hpc rfl hending
    refine hphase.reqAbort h.account hopen fun j => ?_
    have hended : j ∈ (s.tok.ended ++ [(s.tok.inst i, TokenEnd.aborted)]).map Prod.fst ↔
        j ∈ s.tok.ended.map Prod.fst ∨ j = s.tok.inst i := by simp
    constructor
    · rintro ⟨hscan, hj | ⟨_, hnone, -⟩⟩
      · exact ((hended.1 hj).imp (fun hj => ⟨hscan, .inl hj⟩) fun hj => ⟨hscan, hj⟩)
      · cases hnone
    · rintro (⟨hscan, hj | ⟨i', hcur', rfl, hdue⟩⟩ | ⟨hscan, hj⟩)
      · exact ⟨hscan, .inl (hended.2 (.inl hj))⟩
      · cases hcur.symm.trans hcur'
        exact absurd hdue (hfree hscan)
      · exact ⟨hscan, .inl (hended.2 (.inr hj))⟩

lemma roster_clearWatingReq {i : ReqSlot} {ex : TokenReqEx} {rest : List ReqSlot}
    (hpc : t.pc = .rest) (hq : t.tokenReqWaitQ.items = i :: rest) :
    RosterOps t.roster (pushBackIdleReq i ({ t.setReq i ex with
      tokenReqWaitQ := t.tokenReqWaitQ.dropFirst }.tell i .aborted)).roster := by
  have hi : i ∈ (t.places .wait).items := by simp [hq]
  have htold : t.pc.told = none := by rw [hpc]; rfl
  refine .op (.tell i .aborted) ⟨⟨.wait, rfl, hi⟩, htold⟩ ?_
  refine .op (.close i .wait) ⟨hi, rfl, rfl⟩ (.of_eq (Roster.ext ?_ rfl rfl htold rfl))
  show _ = shift t.places i .wait .idle (·.pushTail i)
  refine eq_shift (by simp) (CntQueue.dropFirst_eq_erase hq) rfl ?_
  rintro ⟨⟩
  · exact .inr (.inl rfl)
  · exact .inl rfl
  · exact .inr (.inr rfl)
  · exact .inr (.inr rfl)
  · exact .inr (.inr rfl)

lemma ScanInv.clearWatingReq (h : ScanInv isScan s) (hleft : s.left = true) :
    ScanInv isScan (clearWatingReq isScan o s) := by
  obtain ⟨hinv, hpc, hcur, hending⟩ := h.phase.gone hleft
  unfold Rtl8852be.clearWatingReq popFrontWaitReq
  cases hq : s.tok.tokenReqWaitQ.items with
  | nil => exact h
  | cons i rest =>
    have hlive := live_of_wait hinv (i := i) (by simp [hq])
    have hopen : ¬ ScanSettled isScan s.tok (s.tok.inst i) :=
      not_settled hinv hlive (by rw [hpc]; nofun) fun hi => nomatch hcur.symm.trans hi
    refine ScanPhase.reqAbort ?_ h.account hopen fun j => ?_
    · exact .of_gone hleft ((roster_clearWatingReq hpc hq).inv hinv) hpc hcur hending
    · simp [ScanSettled, DisprToken.tell, hcur, and_or_left]

lemma ScanInv.step (h : ScanInv isScan s) {e : ScanEvent} (hok : ScanOK isScan s e) :
    ScanInv isScan (scanStep isScan s e) := by
  cases e with
  | token e => exact iteInduction (fun he => h.token he hok) fun _ => h
  | cancelAll i => exact h.cancelCmdReq i
  | thread o =>
    simp only [scanStep]
    split_ifs with hstop
    · exact h
    · simp [isSome_eq_false_iff, isNone_iff_eq_none] at hstop
      exact h.scanOpHandler hstop.1 hstop.2 hok
  | msg m =>
    refine iteInduction (fun hidle => ?_) fun _ => h
    simp only [Bool.and_eq_true, Bool.not_eq_true', idle_iff] at hidle
    exact h.curReqHdl hidle.2 hidle.1.1 m
  | scanEnd stored =>
    refine iteInduction (fun hidle => ?_) fun _ => h
    simp only [Bool.and_eq_true, Bool.not_eq_true', idle_iff] at hidle
    exact h.scanEndHdl hidle.2 hidle.1.1 stored
  | freeToken => exact h.scanEndFree hok
  | abortMsgDone k => exact iteInduction (fun _ => h.abortMsgDone k) fun _ => h
  | leave o =>
    refine iteInduction (fun hidle => ?_) fun _ => h
    simp only [Bool.and_eq_true, Bool.not_eq_true', idle_iff] at hidle
    exact h.leaveCurReq hidle.1.1 hidle.1.2 hok
  | leaveReq o => exact iteInduction h.clearWatingReq fun _ => h

end Invariant

/-- In every run whose steps meet the condition, each scan is reported complete as it should. -/
theorem scan_completes_once (isScan : ℕ → Bool) (es : List ScanEvent)
    (hok : RunOK (scanStep isScan) (ScanOK isScan) scanInit es) :
    ScanReport isScan (run (scanStep isScan) scanInit es) :=
  (run_inv (scanStep isScan) (ScanOK isScan) (fun _ _ hs he => hs.step he) es scanInit
    (scanInit_inv isScan) hok).report

/-- A scan is added and acquires the token. It goes to one channel, and its handler ends it. -/
def scanToEnd : List ScanEvent :=
  [.token .addEnter, .token .addPop, .token (.addPush 0), .token (.addMark 0),
    .token (.addOp 0)] ++ List.replicate 6 (.thread ⟨false, true, true, .success⟩) ++
  [.msg .scanStart, .msg (.swchStart true), .msg .swchDone, .msg (.listenStateExpire false),
    .msg (.swchStart false), .scanEnd true, .freeToken]

def scanStop : List ScanEvent :=
  [.token (.setStatus ⟨false, false, false, false, false⟩), .cancelAll 0,
    .leave ⟨false, true, false, .success⟩]

def scanEndStop : List ScanEvent :=
  scanToEnd ++ List.replicate 4 (.thread ⟨false, true, true, .success⟩) ++ scanStop

theorem scan_completes_once_end :
    RunOK (scanStep fun _ => true) (ScanOK fun _ => true) scanInit scanEndStop ∧
      (run (scanStep fun _ => true) scanInit scanEndStop).completions 0 = 1 := by
  refine ⟨?hok, (scan_completes_once (fun _ => true) scanEndStop ?hok).back 0 ?_ rfl ?_ ?_⟩ <;>
    decide

/-- The thread leaves before it frees the token. The scan is aborted after it was completed. -/
theorem scan_completes_twice :
    (run (scanStep fun _ => true) scanInit (scanToEnd ++ scanStop)).completions 0 = 2 ∧
      ¬ ScanReport (fun _ => true)
        (run (scanStep fun _ => true) scanInit (scanToEnd ++ scanStop)) := by
  refine ⟨by decide, fun h => ?_⟩
  have honce := h.once 0
  exact absurd honce (by decide)

end Rtl8852be

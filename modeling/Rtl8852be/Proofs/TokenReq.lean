import Rtl8852be.Proofs.TokenRoster
import Rtl8852be.Lib.Run

/-!
# The token has one holder

As long as no request ends while a node of its slot is linked or about to be, each step is a few
operations of the roster or leaves it as it is.
-/

namespace Rtl8852be

open Places Run Function DisprToken List CntQueue RosterOp Option

variable {n : OpNode} {rest : List ReqSlot} {q : List OpNode}

@[simp] def DisprToken.places (s : DisprToken) : ReqPlace → CntQueue ReqSlot
  | .idle => s.tokenReqIdleQ
  | .wait => s.tokenReqWaitQ
  | .current => ⟨s.curCmdReq.toList, s.tokenCnt⟩
  | .adding => ⟨s.adding, s.adding.length⟩
  | .held => ⟨s.pc.held, s.pc.held.length⟩

@[simp] def TokenPc.told : TokenPc → Option ReqSlot
  | .aborting _ i | .dropping _ i => some i
  | _ => none

@[local simp] def DisprToken.roster (s : DisprToken) : Roster :=
  ⟨s.places, s.accepted, s.inst, s.pc.told, s.ended⟩

/-- The slot has a request. -/
def DisprToken.Live (s : DisprToken) (i : ReqSlot) : Prop :=
  i ∉ s.tokenReqIdleQ.items ∧ i ∉ s.adding
  deriving Decidable

lemma roster_live {s : DisprToken} (h : RosterInv s.roster) (i : ReqSlot) :
    s.roster.Live i ↔ s.Live i := by
  constructor
  · rintro ⟨k, hk, hi⟩
    constructor
    · intro hidle
      have hk' : k = .idle := h.placed.unique hi hidle
      rw [hk'] at hk
      cases hk
    · intro hadding
      have hk' : k = .adding := h.placed.unique hi hadding
      rw [hk'] at hk
      cases hk
  · rintro ⟨hidle, hadding⟩
    obtain ⟨k, hk⟩ := (h.placed.cover i).1 trivial
    refine ⟨k, ?_, hk⟩
    cases k with
    | idle => exact absurd hk hidle
    | adding => exact absurd hk hadding
    | wait | current | held => rfl

def TokenPc.due : TokenPc → List OpNode
  | .handling n | .aborting n _ | .dropping n _ => [n]
  | _ => []

def DisprToken.due (s : DisprToken) : List OpNode := s.pc.due ++ s.tokenOpQ

def TokenOpInfo.Fits (info : TokenOpInfo) : OpNode → Prop
  | .addReq _ => info.type = some .addCmdReq
  | .freeReq i =>
    (info.type = some .freeCmdReq ∨ info.type = some .cancelCmdReq) ∧ info.data = i
  | .renewReq => info.type = some .renewCmdReq

/-- An operation that is due is about the request in its slot, and none comes after one that ends
it. A call of `dispr_add_token_req` is the only one at work on its request. -/
structure OpsBound (s : DisprToken) : Prop where
  order : s.due.Pairwise fun a b => ∀ i, a = .freeReq i → b.slot ≠ some i
  live : ∀ n ∈ s.due, ∀ i, n.slot = some i → s.Live i
  fits : ∀ n ∈ s.due, (s.info n).Fits n
  bound : ∀ i, .freeReq i ∈ s.due → s.issued i = s.inst i
  adding : ∀ i ∈ s.pushed ++ s.marked, s.Live i ∧ ∀ n ∈ s.due, n.slot ≠ some i
  nodup : (s.pushed ++ s.marked).Nodup

def DisprToken.Knows (s : DisprToken) : Prop :=
  match s.pc with
  | .prepared _ _ => s.curCmdReq = none
  | .acquiring _ i => s.curCmdReq = some i
  | .aborting n i => s.curCmdReq = some i ∧ n = .freeReq i
  | .dropping n i => n = .freeReq i
  | _ => True

structure TokenInv (s : DisprToken) : Prop where
  roster : RosterInv s.roster
  run : ∀ i, (s.tokenReqExPool i).run = true → s.curCmdReq = some i
  knows : s.Knows
  ops : OpsBound s

def DisprToken.Unlinked (s : DisprToken) (i : ReqSlot) : Prop :=
  i ∉ s.pushed ++ s.marked ∧ ∀ n ∈ s.due, n.slot ≠ some i
  deriving Decidable

def IssueOK (s : DisprToken) (c : TokenCall) : Prop :=
  (s.info (.freeReq c.slot)).used = true ∨
    (s.inst c.slot = c.inst ∧ s.Live c.slot ∧ c.slot ∉ s.pushed ++ s.marked ∧
      .freeReq c.slot ∉ s.due)

def TokenThreadOK (s : DisprToken) (ret : MdlRet) : TokenPc → Prop
  | .acquiring _ i => ret = .fail → s.Unlinked i
  | .handling (.freeReq i) =>
    (s.info (.freeReq i)).type = some .cancelCmdReq → (s.tokenReqExPool i).enq = true →
      i ∈ s.tokenReqWaitQ.items
  | _ => True

/-- The conditions on the end of an addition and on the thread. -/
def TokenOK (s : DisprToken) : TokenEvent → Prop
  | .issueOp k => ∀ c ∈ s.calls[k]?, IssueOK s c
  | .thread ret => TokenThreadOK s ret s.pc
  | _ => True

instance (s : DisprToken) : DecidablePred (IssueOK s) :=
  fun _ => inferInstanceAs (Decidable (_ ∨ _))

instance (s : DisprToken) (ret : MdlRet) : DecidablePred (TokenThreadOK s ret)
  | .acquiring _ _ => inferInstanceAs (Decidable (_ → _))
  | .handling (.freeReq _) => inferInstanceAs (Decidable (_ → _ → _))
  | .handling (.addReq _) | .handling .renewReq | .rest | .process _ | .prepared _ _
  | .aborting _ _ | .dropping _ _ | .handled _ => .isTrue trivial

instance (s : DisprToken) : DecidablePred (TokenOK s)
  | .issueOp k => inferInstanceAs (Decidable (∀ c ∈ s.calls[k]?, _))
  | .thread ret => inferInstanceAs (Decidable (TokenThreadOK s ret s.pc))
  | .addEnter | .addPop | .addPush _ | .addMark _ | .addOp _ | .cancelEnter _ _ | .freeEnter _ _
  | .renewOp | .setStatus _ => .isTrue trivial

variable {s : DisprToken} {i : ReqSlot}

section Info

variable {ex : TokenReqEx}

lemma info_setReq (hadd : ex.addReqInfo = (s.tokenReqExPool i).addReqInfo)
    (hfree : ex.freeReqInfo = (s.tokenReqExPool i).freeReqInfo) (n : OpNode) :
    (s.setReq i ex).info n = s.info n := by
  cases n with
  | addReq j | freeReq j =>
    simp only [DisprToken.info, setReq, update_apply]
    split_ifs with hj
    · subst hj
      assumption
    · rfl
  | renewReq => rfl

lemma info_setReq_of_ne (hn : n.slot ≠ some i) : (s.setReq i ex).info n = s.info n := by
  cases n with
  | addReq j | freeReq j =>
    have hj : j ≠ i := fun h => hn (congrArg some h)
    simp only [DisprToken.info, setReq, update_of_ne hj]
  | renewReq => rfl

lemma info_setInfo_self (info : TokenOpInfo) (n : OpNode) : (s.setInfo info n).info n = info := by
  cases n <;> simp [DisprToken.info, setInfo]

lemma info_setInfo_of_ne (info : TokenOpInfo) {m : OpNode} (hne : m ≠ n) :
    (s.setInfo info n).info m = s.info m := by
  cases n with
  | addReq i | freeReq i =>
    cases m with
    | addReq j | freeReq j =>
      simp only [DisprToken.info, setInfo, setReq, update_apply]
      split_ifs with hj
      · subst hj
        first | rfl | exact absurd rfl hne
      · rfl
    | renewReq => rfl
  | renewReq =>
    cases m with
    | addReq j | freeReq j => rfl
    | renewReq => exact absurd rfl hne

end Info

lemma reqSlot_val (i : ReqSlot) : reqSlot i = some i := dif_pos i.isLt

/-- What is asked for, by the type and the data. -/
def TokenOpInfo.op (info : TokenOpInfo) : Option TokenOpType × ℕ := (info.type, info.data)

lemma TokenOpInfo.Fits.congr {info info' : TokenOpInfo} (h : info.Fits n)
    (hop : info'.op = info.op) : info'.Fits n := by
  obtain ⟨htype, hdata⟩ := Prod.mk.inj hop
  cases n with
  | addReq | freeReq | renewReq => simpa only [TokenOpInfo.Fits, htype, hdata] using h

variable {s' : DisprToken}

lemma OpsBound.thread (h : OpsBound s) (hdue : s'.due.Sublist s.due)
    (hinfo : ∀ n ∈ s'.due, (s'.info n).op = (s.info n).op)
    (hissued : s'.issued = s.issued) (hinst : s'.inst = s.inst) (hpushed : s'.pushed = s.pushed)
    (hmarked : s'.marked = s.marked)
    (hlive : ∀ j, s.Live j →
      s'.Live j ∨ (j ∉ s.pushed ++ s.marked ∧ ∀ n ∈ s'.due, n.slot ≠ some j)) :
    OpsBound s' where
  order := h.order.sublist hdue
  live := by
    intro n hn i hslot
    rcases hlive i (h.live n (hdue.subset hn) i hslot) with hi | ⟨-, hno⟩
    · exact hi
    · exact absurd hslot (hno n hn)
  fits := fun n hn => (h.fits n (hdue.subset hn)).congr (hinfo n hn)
  bound := by
    intro i hi
    rw [hissued, hinst]
    exact h.bound i (hdue.subset hi)
  adding := by
    intro i hi
    rw [hpushed, hmarked] at hi
    obtain ⟨hi', hno⟩ := h.adding i hi
    refine ⟨?_, fun n hn => hno n (hdue.subset hn)⟩
    rcases hlive i hi' with hi' | ⟨hi', -⟩
    · exact hi'
    · exact absurd hi hi'
  nodup := by
    rw [hpushed, hmarked]
    exact h.nodup

lemma OpsBound.link (h : OpsBound s) (hdue : s'.due = s.due ++ [n])
    (hlive : ∀ j, s'.Live j ↔ s.Live j) (hnew : (s'.info n).Fits n)
    (hinfo : ∀ m, m ≠ n → s'.info m = s.info m) (hslot : ∀ i, n.slot = some i → s.Live i)
    (hfirst : ∀ i, n.slot = some i → .freeReq i ∉ s.due)
    (hbound : ∀ i, .freeReq i = n ∨ .freeReq i ∈ s.due → s'.issued i = s'.inst i)
    (hadding : ∀ i, i ∈ s'.pushed ++ s'.marked → i ∈ s.pushed ++ s.marked ∧ n.slot ≠ some i)
    (hnodup : (s'.pushed ++ s'.marked).Nodup) : OpsBound s' where
  order := by
    rw [hdue]
    refine pairwise_append.2 ⟨h.order, pairwise_singleton _ _, ?_⟩
    rintro a ha b hb i rfl hslot'
    obtain rfl := mem_singleton.1 hb
    exact hfirst i hslot' ha
  live := by
    simp only [hdue, hlive]
    exact forall_mem_append.2 ⟨h.live, forall_mem_singleton.2 hslot⟩
  fits := by
    intro m hm
    by_cases hmn : m = n
    · subst hmn
      exact hnew
    · rw [hdue] at hm
      rw [hinfo m hmn]
      refine h.fits m ((mem_append.1 hm).resolve_right fun hm => ?_)
      exact hmn (mem_singleton.1 hm)
  bound := by
    intro i hi
    rw [hdue] at hi
    rcases mem_append.1 hi with hi | hi
    · exact hbound i (.inr hi)
    · exact hbound i (.inl (mem_singleton.1 hi))
  adding := by
    intro i hi
    obtain ⟨hold, hne⟩ := hadding i hi
    obtain ⟨hi', hno⟩ := h.adding i hold
    rw [hdue]
    exact ⟨(hlive i).2 hi', forall_mem_append.2 ⟨hno, forall_mem_singleton.2 hne⟩⟩
  nodup := hnodup

lemma OpsBound.node_eq (h : OpsBound s) (hn : n ∈ s.due)
    (htype : (s.info n).type = some .freeCmdReq ∨ (s.info n).type = some .cancelCmdReq)
    (hdata : reqSlot (s.info n).data = some i) : n = .freeReq i := by
  have hfits := h.fits n hn
  cases n with
  | addReq j =>
    have hadd : (s.info (.addReq j)).type = some .addCmdReq := hfits
    rw [hadd] at htype
    rcases htype with htype | htype <;> cases htype
  | freeReq j =>
    have hj : (s.info (.freeReq j)).data = j := hfits.2
    rw [hj, reqSlot_val] at hdata
    rw [some.inj hdata]
  | renewReq =>
    have hrenew : (s.info .renewReq).type = some .renewCmdReq := hfits
    rw [hrenew] at htype
    rcases htype with htype | htype <;> cases htype

/-- When the operation that ends a request is at the head, there is nothing else of the slot. -/
lemma OpsBound.unlinked (h : OpsBound s) (hdue : s.due = .freeReq i :: q) :
    i ∉ s.pushed ++ s.marked ∧ ∀ n ∈ q, n.slot ≠ some i := by
  constructor
  · intro hi
    exact (h.adding i hi).2 (.freeReq i) (by simp [hdue]) rfl
  · intro n hn
    have horder := h.order
    rw [hdue, pairwise_cons] at horder
    exact horder.1 n hn i rfl

inductive TokenMove (s : DisprToken) (ret : MdlRet) : DisprToken → Prop where
  | stay (hpc : s.pc = .rest) : TokenMove s ret s
  | pop {n : OpNode} {ns : List OpNode} (hpc : s.pc = .rest) (hq : s.tokenOpQ = n :: ns) :
    TokenMove s ret ({ s with tokenOpQ := ns }.goto (.handling n))
  | pass {n : OpNode} {pc : TokenPc}
    (hpc : s.pc = .handling n ∨ s.pc = .process n ∨ ∃ i, s.pc = .acquiring n i)
    (hnext : pc = .process n ∨ pc = .handled n) : TokenMove s ret (s.goto pc)
  | free {i : ReqSlot} (hpc : s.pc = .handling (.freeReq i)) (hcur : s.curCmdReq = some i) :
    TokenMove s ret ((retireCurReq i (s.tell i .freed)).goto (.process (.freeReq i)))
  | fail {n : OpNode} {i : ReqSlot} (hpc : s.pc = .acquiring n i) (hcur : s.curCmdReq = some i)
    (hlinks : s.Unlinked i) :
    TokenMove s ret ((retireCurReq i (s.tell i .freed)).goto (.process n))
  | withdraw {i : ReqSlot} (hpc : s.pc = .handling (.freeReq i))
    (hi : i ∈ s.tokenReqWaitQ.items) : TokenMove s ret (abortWaitReq (.freeReq i) i s)
  | abort {i : ReqSlot} (hpc : s.pc = .handling (.freeReq i)) (hcur : s.curCmdReq = some i) :
    TokenMove s ret
      (((s.setReq i { s.tokenReqExPool i with run := false, lastPermit := true }).tell i
        .aborted).goto (.aborting (.freeReq i) i))
  | prepare {n : OpNode} {i : ReqSlot} {rest : List ReqSlot} (hpc : s.pc = .process n)
    (hcur : s.curCmdReq = none) (hq : s.tokenReqWaitQ.items = i :: rest) :
    TokenMove s ret
      ({ s.setReq i { s.tokenReqExPool i with prepare := true, enq := false } with
        tokenReqWaitQ := s.tokenReqWaitQ.dropFirst }.goto (.prepared n i))
  | register {n : OpNode} {i : ReqSlot} (hpc : s.pc = .prepared n i) (hcur : s.curCmdReq = none) :
    TokenMove s ret ((registerCurCmdReq i s).goto (.acquiring n i))
  | retire {i : ReqSlot} (hpc : s.pc = .aborting (.freeReq i) i) (hcur : s.curCmdReq = some i) :
    TokenMove s ret ((retireCurReq i s).goto (.process (.freeReq i)))
  | drop {i : ReqSlot} (hpc : s.pc = .dropping (.freeReq i) i) :
    TokenMove s ret ((pushBackIdleReq i s).goto (.handled (.freeReq i)))
  | release {n : OpNode} (hpc : s.pc = .handled n) :
    TokenMove s ret ((s.setInfo { s.info n with used := false } n).goto .rest)

variable {ret : MdlRet}

lemma TokenInv.cnt (h : TokenInv s) : s.tokenCnt = s.curCmdReq.toList.length :=
  h.roster.placed.counted .current

lemma handleTokenOpInfo_move (h : TokenInv s) (hok : TokenOK s (.thread ret))
    (hpc : s.pc = .handling n) : TokenMove s ret (handleTokenOpInfo n s) := by
  have hn : n ∈ s.due := by simp [due, hpc, TokenPc.due]
  have hpass : ∀ {pc}, pc = .process n ∨ pc = .handled n → TokenMove s ret (s.goto pc) :=
    fun hnext => .pass (.inl hpc) hnext
  unfold handleTokenOpInfo
  split
  · exact hpass (.inl rfl)
  · exact hpass (.inl rfl)
  · rename_i i htype hdata
    obtain rfl := h.ops.node_eq hn (.inl htype) hdata
    split_ifs with hrun
    · have hcur := h.run i hrun
      simp only [deregisterCurCmdReq, hcur]
      exact .free hpc hcur
    · exact hpass (.inr rfl)
  · rename_i i htype hdata
    obtain rfl := h.ops.node_eq hn (.inr htype) hdata
    split_ifs with henq hrun
    · simp only [TokenOK, TokenThreadOK, hpc] at hok
      exact .withdraw hpc (hok htype henq)
    · have hcur := h.run i hrun
      simp only [abortCurReq, hcur]
      exact .abort hpc hcur
    · exact hpass (.inr rfl)
  · exact hpass (.inr rfl)

lemma processTokenReq_move (h : TokenInv s) (hpc : s.pc = .process n) :
    TokenMove s ret (processTokenReq n s) := by
  unfold processTokenReq
  split_ifs with hstop
  · exact .pass (.inr (.inl hpc)) (.inr rfl)
  have hcur : s.curCmdReq = none := by
    have hcnt := h.cnt
    cases hc : s.curCmdReq with
    | none => rfl
    | some i =>
      rw [hc] at hcnt
      exact absurd (.inr (.inr (.inl (by simp [hcnt])))) hstop
  unfold popFrontWaitReq
  cases hq : s.tokenReqWaitQ.items with
  | nil => exact .pass (.inr (.inl hpc)) (.inr rfl)
  | cons i rest => exact .prepare hpc hcur hq

lemma tokenOpHandler_move (h : TokenInv s) (hok : TokenOK s (.thread ret)) :
    TokenMove s ret (tokenOpHandler ret s) := by
  have hknows := h.knows
  unfold DisprToken.Knows at hknows
  unfold tokenOpHandler
  cases hpc : s.pc with
  | rest =>
    cases hq : s.tokenOpQ with
    | nil => exact .stay hpc
    | cons n ns => exact .pop hpc hq
  | handling n => exact handleTokenOpInfo_move h hok hpc
  | process n => exact processTokenReq_move h hpc
  | prepared n i =>
    rw [hpc] at hknows
    exact .register hpc hknows
  | acquiring n i =>
    rw [hpc] at hknows
    split_ifs with hret
    · simp only [TokenOK, TokenThreadOK, hpc] at hok
      simp only [deregisterCurCmdReq, hknows]
      exact .fail hpc hknows (hok hret)
    · exact .pass (.inr (.inr ⟨i, hpc⟩)) (.inr rfl)
  | aborting n i =>
    rw [hpc] at hknows
    obtain ⟨hcur, rfl⟩ := hknows
    exact .retire hpc hcur
  | dropping n i =>
    rw [hpc] at hknows
    obtain rfl : n = .freeReq i := hknows
    exact .drop hpc
  | handled n => exact .release hpc

lemma RosterOps.of_eq {R R' : Roster} (h : R' = R) : RosterOps R R' := h ▸ .refl R

lemma setInfo_pc (info : TokenOpInfo) (n : OpNode) : (s.setInfo info n).pc = s.pc := by
  cases n <;> rfl

lemma setInfo_roster (info : TokenOpInfo) (n : OpNode) :
    (s.setInfo info n).roster = s.roster := by
  cases n <;> exact Roster.ext (funext fun k => by cases k <;> rfl) rfl rfl rfl rfl

lemma roster_goto {pc : TokenPc} (hheld : pc.held = s.pc.held) (htold : pc.told = s.pc.told) :
    (s.goto pc).roster = s.roster := by
  refine Roster.ext (funext fun k => ?_) rfl rfl htold rfl
  cases k with
  | held => exact congrArg (fun l => (⟨l, l.length⟩ : CntQueue ReqSlot)) hheld
  | idle | wait | current | adding => rfl

lemma places_retireCurReq (hcur : s.curCmdReq = some i) (hheld : s.pc.held = []) :
    ((retireCurReq i s).goto (.process n)).places =
      shift s.places i .current .idle (·.pushTail i) := by
  refine eq_shift nofun ?_ rfl ?_
  · simp [retireCurReq, erase, hcur]
  · have hnext : (TokenPc.process n).held = [] := rfl
    rintro ⟨⟩ <;> simp [retireCurReq, hnext, hheld]

lemma places_withdraw (hheld : s.pc.held = []) :
    (abortWaitReq n i s).places = shift s.places i .wait .held (·.pushTail i) := by
  refine eq_shift nofun rfl ?_ ?_
  · have hnext : (TokenPc.dropping n i).held = [i] := rfl
    simp [abortWaitReq, pushTail, hnext, hheld]
  · rintro ⟨⟩ <;> simp [abortWaitReq, DisprToken.tell]

lemma places_drop {m : OpNode} (hpc : s.pc = .dropping m i) :
    ((pushBackIdleReq i s).goto (.handled n)).places =
      shift s.places i .held .idle (·.pushTail i) := by
  refine eq_shift nofun ?_ rfl ?_
  · simp [TokenPc.held, erase, hpc]
  · rintro ⟨⟩ <;> simp

lemma places_prepare (hpc : s.pc = .process n) (hq : s.tokenReqWaitQ.items = i :: rest) :
    ({ s.setReq i ex with tokenReqWaitQ := s.tokenReqWaitQ.dropFirst }.goto
      (.prepared n i)).places = shift s.places i .wait .held (·.pushTail i) := by
  refine eq_shift nofun (dropFirst_eq_erase hq) ?_ ?_
  · simp [TokenPc.held, pushTail, hpc]
  · rintro ⟨⟩ <;> simp

lemma places_register (hpc : s.pc = .prepared n i) (hcur : s.curCmdReq = none) :
    ((registerCurCmdReq i s).goto (.acquiring n i)).places =
      shift s.places i .held .current (·.pushTail i) := by
  refine eq_shift nofun ?_ ?_ ?_
  · simp [TokenPc.held, erase, hpc]
  · simp [registerCurCmdReq, pushTail, hcur]
  · rintro ⟨⟩ <;> simp [registerCurCmdReq]

lemma roster_deregister {e : TokenEnd} (hcur : s.curCmdReq = some i) (hheld : s.pc.held = [])
    (htold : s.pc.told = none) :
    RosterOps s.roster ((retireCurReq i (s.tell i e)).goto (.process n)).roster := by
  have hi : i ∈ (s.places .current).items := by simp [hcur]
  refine .op (.tell i e) ⟨⟨.current, rfl, hi⟩, htold⟩ ?_
  refine .op (.close i .current) ⟨hi, rfl, rfl⟩ (.of_eq ?_)
  exact Roster.ext (places_retireCurReq (s := s.tell i e) hcur hheld) rfl rfl rfl rfl

lemma TokenMove.roster (hm : TokenMove s ret s') : RosterOps s.roster s'.roster := by
  cases hm with
  | stay => exact .refl _
  | pop hpc hq =>
    exact .of_eq (roster_goto (s := { s with tokenOpQ := _ }) (by simp [hpc, TokenPc.held])
      (by simp [hpc]))
  | pass hpc hnext =>
    refine .of_eq (roster_goto ?_ ?_) <;>
      rcases hpc with hpc | hpc | ⟨i, hpc⟩ <;> rcases hnext with rfl | rfl <;> rw [hpc] <;> rfl
  | free hpc hcur | fail hpc hcur =>
    exact roster_deregister hcur (by rw [hpc]; rfl) (by rw [hpc]; rfl)
  | @withdraw i hpc hi =>
    have htold : s.pc.told = none := by rw [hpc]; rfl
    refine .op (.tell i .aborted) ⟨⟨.wait, rfl, hi⟩, htold⟩ ?_
    refine .op (.move i .wait .held) ⟨hi, by simp, rfl, rfl⟩ (.of_eq ?_)
    exact Roster.ext (places_withdraw (by rw [hpc]; rfl)) rfl rfl rfl rfl
  | @abort i hpc hcur =>
    have hi : i ∈ (s.places .current).items := by simp [hcur]
    have htold : s.pc.told = none := by rw [hpc]; rfl
    refine .op (.tell i .aborted) ⟨⟨.current, rfl, hi⟩, htold⟩ (.of_eq ?_)
    refine Roster.ext (funext fun k => ?_) rfl rfl rfl rfl
    cases k with
    | held => simp [hpc, TokenPc.held]
    | idle | wait | current | adding => rfl
  | @prepare n i rest hpc hcur hq =>
    have hi : i ∈ s.tokenReqWaitQ.items := by simp [hq]
    refine .op (.move i .wait .held) ⟨hi, by simp, rfl, rfl⟩ (.of_eq ?_)
    refine Roster.ext (places_prepare hpc hq) rfl rfl ?_ rfl
    simp [hpc]
  | @register n i hpc hcur =>
    have hi : i ∈ (s.places .held).items := by simp [TokenPc.held, hpc]
    refine .op (.move i .held .current) ⟨hi, by simp, rfl, rfl⟩ (.of_eq ?_)
    refine Roster.ext (places_register hpc hcur) rfl rfl ?_ rfl
    simp [hpc]
  | @retire i hpc hcur =>
    have hi : i ∈ (s.places .current).items := by simp [hcur]
    have htold : s.pc.told = some i := by rw [hpc]; rfl
    refine .op (.close i .current) ⟨hi, rfl, htold⟩ (.of_eq ?_)
    exact Roster.ext (places_retireCurReq hcur (by rw [hpc]; rfl)) rfl rfl rfl rfl
  | @drop i hpc =>
    have hi : i ∈ (s.places .held).items := by simp [TokenPc.held, hpc]
    have htold : s.pc.told = some i := by rw [hpc]; rfl
    refine .op (.close i .held) ⟨hi, rfl, htold⟩ (.of_eq ?_)
    exact Roster.ext (places_drop hpc) rfl rfl rfl rfl
  | @release n hpc =>
    refine .of_eq ((roster_goto ?_ ?_).trans (setInfo_roster _ n))
    · rw [setInfo_pc, hpc]
      rfl
    · rw [setInfo_pc, hpc]
      rfl

section MoveInv

lemma due_of_pc {pc : TokenPc} (hpc : s.pc = pc) : s.due = pc.due ++ s.tokenOpQ := by
  rw [due, hpc]

lemma live_or_unlinked (hno : i ∉ s.pushed ++ s.marked ∧ ∀ n ∈ q, n.slot ≠ some i)
    (j : ReqSlot) (hj : s.Live j) :
    (pushBackIdleReq i s).Live j ∨ (j ∉ s.pushed ++ s.marked ∧ ∀ n ∈ q, n.slot ≠ some j) := by
  by_cases hji : j = i
  · subst hji
    exact .inr hno
  · refine .inl ⟨fun hmem => ?_, hj.2⟩
    rcases mem_append.1 hmem with hmem | hmem
    · exact hj.1 hmem
    · exact hji (mem_singleton.1 hmem)

lemma TokenMove.due_sublist (hm : TokenMove s ret s') : s'.due.Sublist s.due := by
  cases hm with
  | stay => exact .refl _
  | @pop n ns hpc hq =>
    have hdue := due_of_pc hpc
    rw [hq] at hdue
    rw [hdue]
    exact .refl _
  | @pass n pc hpc hnext =>
    have hdue : (s.goto pc).due = s.tokenOpQ := by
      rcases hnext with rfl | rfl <;> rfl
    rw [hdue]
    exact sublist_append_right _ _
  | free hpc | retire hpc | drop hpc =>
    rw [due_of_pc hpc]
    exact sublist_cons_self _ _
  | fail hpc | withdraw hpc | abort hpc | prepare hpc | register hpc =>
    rw [due_of_pc hpc]
    exact .refl _
  | @release n hpc =>
    rw [due_of_pc hpc]
    cases n with
    | addReq | freeReq | renewReq => exact .refl _

lemma TokenMove.info (hm : TokenMove s ret s') (n : OpNode) :
    (s'.info n).op = (s.info n).op := by
  cases hm with
  | stay | pop | pass | withdraw => rfl
  | @free i | @fail _ i | @retire i | @drop i | @abort i | @prepare _ i | @register _ i =>
    exact congrArg _ (info_setReq (s := s) (i := i) (by rfl) (by rfl) n)
  | @release m hpc =>
    show ((s.setInfo { s.info m with used := false } m).info n).op = _
    by_cases hnm : n = m
    · subst hnm
      rw [info_setInfo_self]
      rfl
    · rw [info_setInfo_of_ne _ hnm]

lemma TokenMove.ops (h : OpsBound s) (hm : TokenMove s ret s') : OpsBound s' := by
  have hdue := hm.due_sublist
  have hinfo := fun n (_ : n ∈ s'.due) => hm.info n
  cases hm with
  | stay | pop | pass | withdraw | abort | prepare | register =>
    exact h.thread hdue hinfo rfl rfl rfl rfl fun _ hj => .inl hj
  | free hpc | retire hpc | drop hpc =>
    exact h.thread hdue hinfo rfl rfl rfl rfl (live_or_unlinked (h.unlinked (due_of_pc hpc)))
  | @fail n i hpc hcur hlinks =>
    have hq : s.due = s.tokenOpQ := due_of_pc hpc
    have hno : i ∉ s.pushed ++ s.marked ∧ ∀ n ∈ s.tokenOpQ, n.slot ≠ some i := hq ▸ hlinks
    exact h.thread hdue hinfo rfl rfl rfl rfl (live_or_unlinked hno)
  | @release n hpc =>
    cases n with
    | addReq | freeReq | renewReq =>
      exact h.thread hdue hinfo rfl rfl rfl rfl fun _ hj => .inl hj

lemma run_setReq (hex : ex.run = true → (s.tokenReqExPool i).run = true) (j : ReqSlot)
    (hj : ((s.setReq i ex).tokenReqExPool j).run = true) : (s.tokenReqExPool j).run = true := by
  by_cases hji : j = i
  · subst hji
    simp at hj
    exact hex hj
  · simpa only [setReq, update_of_ne hji] using hj

section

variable (hrun : ∀ j, (s.tokenReqExPool j).run = true → s.curCmdReq = some j)
include hrun

lemma run_pushBackIdleReq (hcur : s.curCmdReq = some i) (j : ReqSlot) :
    ¬ ((pushBackIdleReq i s).tokenReqExPool j).run = true := by
  intro hj
  by_cases hji : j = i
  · subst hji
    simp [idleReq, clearedReq] at hj
  · have hj' : (s.tokenReqExPool j).run = true := run_setReq (by nofun) j hj
    exact hji (some.inj ((hrun j hj').symm.trans hcur))

lemma TokenMove.run
    (hm : TokenMove s ret s') (j : ReqSlot) (hj : (s'.tokenReqExPool j).run = true) :
    s'.curCmdReq = some j := by
  cases hm with
  | stay | pop | pass | withdraw => exact hrun j hj
  | free _ hcur | fail _ hcur =>
    exact absurd hj (run_pushBackIdleReq (s := s.tell _ .freed) hrun hcur j)
  | abort => exact hrun j (run_setReq (by nofun) j hj)
  | prepare => exact hrun j (run_setReq (by exact id) j hj)
  | @register n i hpc hcur =>
    by_cases hji : j = i
    · rw [hji]
      rfl
    · have hj' : (s.tokenReqExPool j).run = true := by
        simpa only [goto, registerCurCmdReq, setReq, update_of_ne hji] using hj
      have hcur' := hrun j hj'
      rw [hcur] at hcur'
      cases hcur'
  | retire _ hcur => exact absurd hj (run_pushBackIdleReq hrun hcur j)
  | drop => exact hrun j (run_setReq (by nofun) j hj)
  | @release n hpc =>
    cases n with
    | addReq | freeReq => exact hrun j (run_setReq (by exact id) j hj)
    | renewReq => exact hrun j hj

end

lemma TokenMove.knows (h : s.Knows) (hm : TokenMove s ret s') : s'.Knows := by
  cases hm with
  | stay => exact h
  | pass hpc hnext => rcases hnext with rfl | rfl <;> trivial
  | pop | free | fail | retire | drop | release => trivial
  | withdraw | register => exact rfl
  | abort hpc hcur => exact ⟨hcur, rfl⟩
  | prepare hpc hcur hq => exact hcur

lemma TokenInv.thread (h : TokenInv s) (hok : TokenOK s (.thread ret)) :
    TokenInv (tokenOpHandler ret s) := by
  have hm := tokenOpHandler_move h hok
  exact ⟨hm.roster.inv h.roster, hm.run h.run, hm.knows h.knows, hm.ops h.ops⟩

end MoveInv

section Events

lemma TokenInv.of_ops (h : TokenInv s) (hops : OpsBound s') (hroster : s'.roster = s.roster)
    (hpc : s'.pc = s.pc) (hcur : s'.curCmdReq = s.curCmdReq)
    (hrun : ∀ j, (s'.tokenReqExPool j).run = true → (s.tokenReqExPool j).run = true) :
    TokenInv s' where
  roster := hroster ▸ h.roster
  run := fun j hj => hcur.trans (h.run j (hrun j hj))
  knows := by
    have hknows := h.knows
    unfold DisprToken.Knows at *
    rwa [hpc, hcur]
  ops := hops

lemma TokenInv.aside (h : TokenInv s) (entered : ℕ) (calls : List TokenCall)
    (status : DisprStatus) :
    TokenInv { s with entered := entered, calls := calls, status := status } :=
  h.of_ops (h.ops.thread (.refl _) (fun _ _ => rfl) rfl rfl rfl rfl fun _ hj => .inl hj)
    rfl rfl rfl fun _ hj => hj

lemma TokenInv.setReq (h : TokenInv s) (hrun : ex.run = true → (s.tokenReqExPool i).run = true)
    (hadd : ex.addReqInfo = (s.tokenReqExPool i).addReqInfo)
    (hfree : ex.freeReqInfo = (s.tokenReqExPool i).freeReqInfo) : TokenInv (s.setReq i ex) := by
  refine h.of_ops ?_ rfl rfl rfl (run_setReq hrun)
  refine h.ops.thread (.refl _) (fun n _ => ?_) rfl rfl rfl rfl fun _ hj => .inl hj
  rw [info_setReq hadd hfree]

lemma roster_alloc (hq : s.tokenReqIdleQ.items = i :: rest) :
    ({ s.setReq i ex with
      tokenReqIdleQ := s.tokenReqIdleQ.dropFirst
      adding := s.adding ++ [i] } : DisprToken).roster = apply s.roster (.alloc i) := by
  refine Roster.ext ?_ rfl rfl rfl rfl
  show _ = shift s.places i .idle .adding (·.pushTail i)
  refine eq_shift nofun (dropFirst_eq_erase hq) ?_ ?_
  · simp [pushTail]
  · rintro ⟨⟩ <;> simp

lemma roster_accept (hi : i ∈ s.adding) :
    (acceptReq i s).roster = apply s.roster (.accept i) := by
  refine Roster.ext ?_ rfl rfl rfl rfl
  show _ = shift s.places i .adding .wait (·.pushTail i)
  refine eq_shift nofun ?_ rfl ?_
  · simp [acceptReq, erase, length_erase_of_mem hi]
  · rintro ⟨⟩ <;> simp [acceptReq]

lemma TokenInv.addPop (h : TokenInv s) : TokenInv (addPop s) := by
  unfold Rtl8852be.addPop
  split_ifs
  · exact h
  have h := h.aside (s.entered - 1) s.calls s.status
  dsimp only
  generalize hs : { s with entered := s.entered - 1 } = t at h
  unfold popFrontIdleReq
  cases hq : t.tokenReqIdleQ.items with
  | nil => exact h
  | cons i rest =>
    have hi : i ∈ t.tokenReqIdleQ.items := by simp [hq]
    have hlive : ∀ j, t.Live j → j ∉ t.tokenReqIdleQ.dropFirst.items ∧ j ∉ t.adding ++ [i] := by
      rintro j ⟨hidle, hadding⟩
      simp [hq] at hidle
      simp [hq, hidle, hadding]
    have hroster : RosterInv (apply t.roster (.alloc i)) := h.roster.apply hi
    refine ⟨?_, ?_, h.knows, ?_⟩
    · rwa [← roster_alloc hq] at hroster
    · exact fun j hj => h.run j (run_setReq (by nofun) j hj)
    refine h.ops.thread (.refl _) ?_ rfl rfl rfl rfl fun j hj => .inl (hlive j hj)
    intro n hn
    have hslot : n.slot ≠ some i := fun hslot => (h.ops.live n hn i hslot).1 hi
    exact congrArg TokenOpInfo.op (info_setReq_of_ne hslot)

lemma TokenInv.acceptReq (h : TokenInv s) (hi : i ∈ s.adding) : TokenInv (acceptReq i s) := by
  have hold : ∀ j, s.Live j → j ≠ i := by
    rintro j hj rfl
    exact hj.2 hi
  have hnew : (Rtl8852be.acceptReq i s).Live i := by
    refine ⟨fun hidle => ?_, ?_⟩
    · have hplace : ReqPlace.idle = .adding := h.roster.placed.unique hidle hi
      cases hplace
    · have hnodup : s.adding.Nodup := h.roster.placed.nodup .adding
      exact hnodup.not_mem_erase
  have hlive : ∀ j, s.Live j → (Rtl8852be.acceptReq i s).Live j :=
    fun j hj => ⟨hj.1, fun hmem => hj.2 (mem_of_mem_erase hmem)⟩
  -- the slot has no request yet, so nothing is linked
  have hlinks : ∀ n ∈ s.due, n.slot ≠ some i :=
    fun n hn hslot => hold i (h.ops.live n hn i hslot) rfl
  have hpushed : i ∉ s.pushed ++ s.marked := fun hmem => hold i (h.ops.adding i hmem).1 rfl
  have hmem : ∀ j, j ∈ (s.pushed ++ [i]) ++ s.marked ↔ j = i ∨ j ∈ s.pushed ++ s.marked := by
    intro j
    simp only [mem_append, mem_singleton]
    tauto
  have hroster : RosterInv (apply s.roster (.accept i)) := h.roster.apply hi
  refine ⟨?_, h.run, h.knows, ?_⟩
  · rwa [roster_accept hi]
  refine ⟨h.ops.order, fun n hn j hj => hlive j (h.ops.live n hn j hj), h.ops.fits, ?_, ?_, ?_⟩
  · intro j hj
    have hji : j ≠ i := hold j (h.ops.live _ hj j rfl)
    exact (h.ops.bound j hj).trans (update_of_ne hji _ _).symm
  · intro j hj
    rcases (hmem j).1 hj with rfl | hj
    · exact ⟨hnew, hlinks⟩
    · exact ⟨hlive j (h.ops.adding j hj).1, (h.ops.adding j hj).2⟩
  · have hperm : ((s.pushed ++ [i]) ++ s.marked).Perm (i :: (s.pushed ++ s.marked)) := by
      rw [append_assoc]
      exact perm_middle
    exact hperm.nodup_iff.2 (nodup_cons.2 ⟨hpushed, h.ops.nodup⟩)

lemma TokenInv.markReq (h : TokenInv s) (hi : i ∈ s.pushed) : TokenInv (markReq i s) := by
  have hperm : (s.pushed.erase i ++ (s.marked ++ [i])).Perm (s.pushed ++ s.marked) := by
    have hpushed := (perm_cons_erase hi).append_right s.marked
    refine List.Perm.trans ?_ hpushed.symm
    rw [← append_assoc]
    exact perm_append_singleton i _
  refine h.of_ops ?_ rfl rfl rfl (run_setReq (by exact id))
  refine ⟨h.ops.order, h.ops.live, fun n hn => ?_, h.ops.bound, fun j hj => ?_, ?_⟩
  · exact (h.ops.fits n hn).congr (congrArg _ (info_setReq (s := s) (i := i) (by rfl) (by rfl) n))
  · exact h.ops.adding j (hperm.mem_iff.1 hj)
  · exact hperm.nodup_iff.2 h.ops.nodup

lemma run_setInfo (info : TokenOpInfo) (n : OpNode) (j : ReqSlot)
    (hj : ((s.setInfo info n).tokenReqExPool j).run = true) : (s.tokenReqExPool j).run = true := by
  cases n with
  | addReq | freeReq => exact run_setReq (by exact id) j hj
  | renewReq => exact hj

section

variable (h : TokenInv s)
include h

lemma TokenInv.link {info : TokenOpInfo} {issued : ReqSlot → ℕ}
    (hfits : info.Fits n) (hslot : ∀ i, n.slot = some i → s.Live i)
    (hfirst : ∀ i, n.slot = some i → .freeReq i ∉ s.due)
    (hadding : ∀ i ∈ s.pushed ++ s.marked, n.slot ≠ some i)
    (hbound : ∀ i, .freeReq i = n ∨ .freeReq i ∈ s.due → issued i = s.inst i) :
    TokenInv { s.setInfo info n with tokenOpQ := s.tokenOpQ ++ [n], issued := issued } := by
  have hself := info_setInfo_self (s := s) info n
  have hother := fun m hm => info_setInfo_of_ne (s := s) info (n := n) (m := m) hm
  have hrun := run_setInfo (s := s) info n
  have hdue : s.pc.due ++ (s.tokenOpQ ++ [n]) = s.due ++ [n] := (append_assoc _ _ _).symm
  cases n with
  | addReq | freeReq | renewReq =>
    refine h.of_ops (h.ops.link hdue (fun _ => Iff.rfl) ?_ hother hslot hfirst hbound
      (fun i hi => ⟨hi, hadding i hi⟩) h.ops.nodup) rfl rfl rfl hrun
    exact hfits.congr (congrArg _ hself)

lemma TokenInv.addOp (hi : i ∈ s.marked) : TokenInv (pushBackTokenOpInfo (.addReq i) .addCmdReq i
      { s with marked := s.marked.erase i }) := by
  have hsub : (s.pushed ++ s.marked.erase i).Sublist (s.pushed ++ s.marked) :=
    (erase_sublist).append_left _
  obtain ⟨hlive, hlinks⟩ := h.ops.adding i (mem_append_right _ hi)
  have ht : TokenInv { s with marked := s.marked.erase i } := by
    refine h.of_ops ?_ rfl rfl rfl fun _ hj => hj
    exact ⟨h.ops.order, h.ops.live, h.ops.fits, h.ops.bound,
      fun j hj => h.ops.adding j (hsub.subset hj), h.ops.nodup.sublist hsub⟩
  have hgone : i ∉ s.pushed ++ s.marked.erase i := by
    obtain ⟨-, hmarked, hdisj⟩ := nodup_append.1 h.ops.nodup
    intro hmem
    rcases mem_append.1 hmem with hmem | hmem
    · exact hdisj i hmem i hi rfl
    · exact hmarked.not_mem_erase hmem
  unfold pushBackTokenOpInfo
  split_ifs
  · exact ht
  refine ht.link rfl ?_ ?_ ?_ ?_
  · intro j hj
    cases hj
    exact hlive
  · intro j hj hmem
    exact hlinks _ hmem hj.symm
  · intro j hj hij
    cases hij
    exact hgone hj
  · intro j hj
    exact h.ops.bound j (hj.resolve_left nofun)

lemma TokenInv.renewOp : TokenInv (pushBackTokenOpInfo .renewReq .renewCmdReq 0xff s) := by
  unfold pushBackTokenOpInfo
  split_ifs
  · exact h
  · refine h.link rfl nofun nofun (fun _ _ => nofun) fun j hj => ?_
    exact h.ops.bound j (hj.resolve_left nofun)

lemma TokenInv.issueReqOp {c : TokenCall} (hc : IssueOK s c) : TokenInv (issueReqOp c s) := by
  have ht : TokenInv (s.setReq c.slot { s.tokenReqExPool c.slot with cancel := true }) :=
    h.setReq (by exact id) rfl rfl
  have hused : (s.setReq c.slot { s.tokenReqExPool c.slot with cancel := true }).info
      (.freeReq c.slot) = s.info (.freeReq c.slot) := info_setReq (by rfl) (by rfl) _
  unfold Rtl8852be.issueReqOp
  dsimp only
  rw [hused]
  split_ifs with hu
  · exact ht
  obtain ⟨hinst, hlive, hpushed, hdue⟩ := hc.resolve_left hu
  unfold pushBackTokenOpInfo
  rw [hused, if_neg hu]
  refine ht.link ?_ ?_ ?_ ?_ ?_
  · refine ⟨?_, rfl⟩
    unfold TokenCall.type
    cases c.cancel <;> simp
  · intro j hj
    cases hj
    exact hlive
  · intro j hj
    cases hj
    exact hdue
  · intro j hj hij
    cases hij
    exact hpushed hj
  · intro j hj
    by_cases hji : j = c.slot
    · subst hji
      rw [update_self]
      exact hinst.symm
    · rw [update_of_ne hji]
      exact h.ops.bound j (hj.resolve_left fun heq => hji (OpNode.freeReq.inj heq))

lemma TokenInv.step {e : TokenEvent} (hok : TokenOK s e) : TokenInv (tokenStep s e) := by
  cases e with
  | addEnter => exact iteInduction (fun _ => h.aside (s.entered + 1) s.calls s.status) fun _ => h
  | addPop => exact h.addPop
  | addPush i => exact iteInduction h.acceptReq fun _ => h
  | addMark i => exact iteInduction h.markReq fun _ => h
  | addOp i => exact iteInduction h.addOp fun _ => h
  | cancelEnter | freeEnter => exact h.aside s.entered _ s.status
  | issueOp k =>
    simp only [tokenStep, issueOp]
    cases hk : s.calls[k]? with
    | none => exact h
    | some c => exact (h.aside s.entered (s.calls.eraseIdx k) s.status).issueReqOp (hok c hk)
  | renewOp => exact h.renewOp
  | setStatus status => exact h.aside s.entered s.calls status
  | thread ret => exact h.thread hok

end

end Events

lemma tokenInit_inv : TokenInv tokenInit where
  roster := by
    have hidle : ∀ i k, i ∈ (tokenInit.places k).items → k = .idle := by
      intro i k hi
      cases k with
      | idle => rfl
      | wait | current | adding | held => cases hi
    have hnot : ∀ i, ¬ tokenInit.roster.Live i := by
      rintro i ⟨k, hk, hi⟩
      rw [hidle i k hi] at hk
      cases hk
    refine ⟨⟨fun i => ?_, ?_, ?_, ?_⟩, nofun, nofun, ?_, ?_, ?_, nofun⟩
    · exact ⟨fun _ => ⟨.idle, mem_finRange i⟩, fun _ => trivial⟩
    · exact fun hk hk' => (hidle _ _ hk).trans (hidle _ _ hk').symm
    · intro k
      cases k with
      | idle => exact nodup_finRange 8
      | wait | current | adding | held => exact nodup_nil
    · intro k
      cases k <;> rfl
    · exact fun i hi => absurd hi (hnot i)
    · exact fun i _ hi => absurd hi (hnot i)
    · exact fun i hi => absurd hi (hnot i)
  run := nofun
  knows := trivial
  ops := ⟨.nil, nofun, nofun, nofun, nofun, .nil⟩

/-- The token has at most one holder, each slot is in one place, what is linked is not part of an
idle slot, and each request is told once that it is over. -/
structure TokenExclusion (s : DisprToken) : Prop where
  cnt : s.tokenCnt = 0 ∨ s.tokenCnt = 1
  cur : s.curCmdReq.isSome = true ↔ s.tokenCnt = 1
  run : ∀ i j, (s.tokenReqExPool i).run = true → (s.tokenReqExPool j).run = true → i = j
  place : ∀ i, ∃! k, i ∈ (s.places k).items
  nodup : ∀ k, (s.places k).items.Nodup
  counted : ∀ k, (s.places k).Counted
  linked : ∀ n ∈ s.tokenOpQ, ∀ i, n.slot = some i → i ∉ s.tokenReqIdleQ.items
  bound : ∀ i, .freeReq i ∈ s.due →
    s.issued i = s.inst i ∧ s.Live i ∧ (s.info (.freeReq i)).data = i
  waits : ∀ i, s.Live i → s.pc.told ≠ some i → (s.ended.map Prod.fst).count (s.inst i) = 0
  told : ∀ n < s.accepted, (∀ i, s.Live i → s.inst i = n → s.pc.told = some i) →
    (s.ended.map Prod.fst).count n = 1

/-- At the node that ends a request no other slot is touched, and no other request told. -/
def TokenBinding (s s' : DisprToken) : Prop :=
  ∀ i, s.pc.due = [.freeReq i] → (∀ j, j ≠ i → s'.tokenReqExPool j = s.tokenReqExPool j ∧
      ∀ k, j ∈ (s'.places k).items ↔ j ∈ (s.places k).items) ∧
    (s'.ended = s.ended ∨ ∃ e, s'.ended = s.ended ++ [(s.issued i, e)])

lemma TokenInv.exclusion (h : TokenInv s) : TokenExclusion s where
  cnt := by
    rw [h.cnt]
    cases s.curCmdReq <;> simp
  cur := by
    rw [h.cnt]
    cases s.curCmdReq <;> simp
  run := fun i j hi hj => some.inj ((h.run i hi).symm.trans (h.run j hj))
  place := fun i => h.roster.placed.exists_unique trivial
  nodup := h.roster.placed.nodup
  counted := h.roster.placed.counted
  linked := fun n hn i hi => (h.ops.live n (mem_append_right _ hn) i hi).1
  bound := fun i hi => ⟨h.ops.bound i hi, h.ops.live _ hi i rfl, (h.ops.fits _ hi).2⟩
  waits := by
    intro i hi htold
    exact (h.roster.ends_live i ((roster_live h.roster i).2 hi)).trans (if_neg htold)
  told := by
    intro n hn htold
    by_cases hlive : ∃ i, s.Live i ∧ s.inst i = n
    · obtain ⟨i, hi, rfl⟩ := hlive
      exact (h.roster.ends_live i ((roster_live h.roster i).2 hi)).trans (if_pos (htold i hi rfl))
    · refine h.roster.ends_gone n hn fun i hi hin => hlive ⟨i, ?_, hin⟩
      exact (roster_live h.roster i).1 hi

lemma TokenMove.binding (h : TokenInv s) (hm : TokenMove s ret s') : TokenBinding s s' := by
  intro i hdue
  have hissued : s.issued i = s.inst i := h.ops.bound i (by simp [due, hdue])
  have hput := puts_pushTail i
  have hplaced := h.roster.placed
  -- the node of the thread is the one of the slot
  have hslot : ∀ {i' pc}, s.pc = pc → pc.due = [.freeReq i'] → i' = i := by
    rintro i' _ rfl hn
    rw [hn] at hdue
    exact OpNode.freeReq.inj (singleton_injective hdue)
  have hother : ∀ {ex : TokenReqEx} {j}, j ≠ i →
      (s.setReq i ex).tokenReqExPool j = s.tokenReqExPool j :=
    fun hj => update_of_ne hj _ _
  cases hm with
  | stay hpc | pop hpc | fail hpc | prepare hpc | register hpc | release hpc =>
    simp [hpc, TokenPc.due] at hdue
  | @pass n pc hpc hnext =>
    refine ⟨fun j hj => ⟨rfl, fun k => ?_⟩, .inl rfl⟩
    have hheld : pc.held = s.pc.held ∧ pc.told = s.pc.told := by
      rcases hpc with hpc | hpc | ⟨i, hpc⟩ <;> rcases hnext with rfl | rfl <;> rw [hpc] <;>
        exact ⟨rfl, rfl⟩
    rw [show (s.goto pc).places = s.places from congrArg Roster.q (roster_goto hheld.1 hheld.2)]
  | @free i' hpc hcur =>
    obtain rfl := hslot hpc rfl
    have hi : i' ∈ (s.places .current).items := by simp [hcur]
    refine ⟨fun j hj => ⟨hother hj, fun k => ?_⟩, .inr ⟨.freed, hissued ▸ rfl⟩⟩
    have hheld : s.pc.held = [] := by rw [hpc]; rfl
    rw [places_retireCurReq (s := s.tell i' .freed) hcur hheld]
    exact hput.mem_of_ne hplaced hi nofun hj
  | @withdraw i' hpc hi =>
    obtain rfl := hslot hpc rfl
    refine ⟨fun j hj => ⟨rfl, fun k => ?_⟩, .inr ⟨.aborted, hissued ▸ rfl⟩⟩
    rw [places_withdraw (by rw [hpc]; rfl)]
    exact hput.mem_of_ne hplaced hi nofun hj
  | @abort i' hpc hcur =>
    obtain rfl := hslot hpc rfl
    refine ⟨fun j hj => ⟨hother hj, fun k => ?_⟩, .inr ⟨.aborted, hissued ▸ rfl⟩⟩
    cases k with
    | held => simp [TokenPc.held, hpc]
    | idle | wait | current | adding => exact Iff.rfl
  | @retire i' hpc hcur =>
    obtain rfl := hslot hpc rfl
    have hi : i' ∈ (s.places .current).items := by simp [hcur]
    refine ⟨fun j hj => ⟨hother hj, fun k => ?_⟩, .inl rfl⟩
    rw [places_retireCurReq hcur (by rw [hpc]; rfl)]
    exact hput.mem_of_ne hplaced hi nofun hj
  | @drop i' hpc =>
    obtain rfl := hslot hpc rfl
    have hi : i' ∈ (s.places .held).items := by simp [TokenPc.held, hpc]
    refine ⟨fun j hj => ⟨hother hj, fun k => ?_⟩, .inl rfl⟩
    rw [places_drop hpc]
    exact hput.mem_of_ne hplaced hi nofun hj

/-- In every run whose steps meet the condition, in every state. -/
theorem token_exclusion_run (es : List TokenEvent) (hok : RunOK tokenStep TokenOK tokenInit es) :
    TokenExclusion (run tokenStep tokenInit es) ∧
      ∀ ret, TokenOK (run tokenStep tokenInit es) (.thread ret) →
        TokenBinding (run tokenStep tokenInit es)
          (tokenStep (run tokenStep tokenInit es) (.thread ret)) := by
  have h : TokenInv (run tokenStep tokenInit es) :=
    run_inv tokenStep TokenOK (fun _ _ hs he => hs.step he) es tokenInit tokenInit_inv hok
  exact ⟨h.exclusion, fun ret hret => (tokenOpHandler_move h hret).binding h⟩

/-- A request is added and acquires the token. It frees it after another one was added. -/
def twoRequests (ret : MdlRet) : List TokenEvent :=
  [.addEnter, .addPop, .addPush 0, .addMark 0, .addOp 0] ++
    replicate 6 (.thread .success) ++
    [.freeEnter 0x80000000 0, .issueOp 0, .addEnter, .addPop, .addPush 1, .addMark 1, .addOp 1] ++
    replicate 4 (.thread .success) ++ [.thread ret]

theorem token_exclusion_handover : RunOK tokenStep TokenOK tokenInit (twoRequests .success) ∧
      TokenExclusion (run tokenStep tokenInit (twoRequests .success)) :=
  have hok : RunOK tokenStep TokenOK tokenInit (twoRequests .success) := by decide
  ⟨hok, (token_exclusion_run (twoRequests .success) hok).1⟩

/-- The second request fails; its slot is given back while the operation that added it is linked. -/
theorem token_exclusion_acquired_fails : let s := run tokenStep tokenInit (twoRequests .fail)
    s.tokenOpQ = [.addReq 1] ∧ s.tokenReqIdleQ.items = [2, 3, 4, 5, 6, 7, 0, 1] ∧
      ¬ TokenExclusion s := by
  refine ⟨rfl, rfl, fun h => ?_⟩
  exact h.linked (.addReq 1) (by decide) 1 rfl (by decide)

end Rtl8852be

import Rtl8852be.MsgDispatch
import Rtl8852be.Lib.Run

/-!
# Both phases reach every module once

The abstract model of a message is a list of modules for each phase that are still to be notified
(`Progress`). Only the first of a list may be notified: when it accepts it leaves the list, and when
it is pending it stays. `todo` reads the lists off the bits of the dispatcher.
-/

namespace Rtl8852be

open Run Function List MdlRet ModlMask

variable {ret : MdlRet} {n : Notice} {mods : Modules} {d' : Dispatching} {m : MsgRun}
variable {owner : Option ModuleId} {ids : List ModuleId} {d'' : Dispatching}

section Bits

variable {map ref : ModlMask} {i j : ModuleId}

lemma chkBit_clrBit : (map.clrBit i).chkBit j = (map.chkBit j && decide (j ≠ i)) := by
  have hj : (j : ℕ) < 128 := j.isLt
  simp only [chkBit, ModlMask.clrBit, BitVec.getLsbD_and, BitVec.getLsbD_not, hj,
    decide_true, Bool.true_and, BitVec.getLsbD_twoPow, i.isLt]
  congr 1
  rw [← decide_not]
  exact decide_eq_decide.2 ⟨fun h he => h (he ▸ rfl), fun h he => h (Fin.ext he.symm)⟩

@[simp] lemma chkBit_zero : chkBit 0#128 i = false := BitVec.getLsbD_zero

@[simp] lemma clrBit_zero : ModlMask.clrBit 0#128 i = 0#128 := BitVec.zero_and

lemma and_clrBit (h : ref &&& map = map) : ref &&& map.clrBit i = map.clrBit i := by
  rw [ModlMask.clrBit, ← BitVec.and_assoc, h]

end Bits

def Skips (map : ModlMask) (mdl : BkModule) : Prop :=
  map.chkBit mdl.id = false ∨ mdl.started = false
  deriving Decidable

def todo : ModlMask → List BkModule → List ModuleId
  | _, [] => []
  | map, mdl :: mdls =>
    if Skips map mdl then todo map mdls else mdl.id :: todo (map.clrBit mdl.id) mdls

section Todo

variable {map : ModlMask} {mdl : BkModule} {mdls : List BkModule} {i : ModuleId}

lemma Skips.clrBit (h : Skips map mdl) (i : ModuleId) : Skips (map.clrBit i) mdl := by
  rcases h with h | h
  · exact .inl (by rw [chkBit_clrBit, h, Bool.false_and])
  · exact .inr h

lemma skips_append_clrBit (h : ∀ m ∈ mdls, Skips map m) :
    ∀ m ∈ mdls ++ [mdl], Skips (map.clrBit mdl.id) m :=
  forall_mem_append.2 ⟨fun m hm => (h m hm).clrBit _,
    forall_mem_singleton.2 (.inl (by simp [chkBit_clrBit]))⟩

lemma todo_zero : ∀ mdls : List BkModule, todo 0 mdls = []
  | [] => rfl
  | mdl :: mdls => by
    rw [todo, if_pos (.inl chkBit_zero), todo_zero mdls]

lemma todo_append_of_skips : ∀ {done : List BkModule} (rest : List BkModule),
    (∀ mdl ∈ done, Skips map mdl) → todo map (done ++ rest) = todo map rest
  | [], _, _ => rfl
  | mdl :: done, rest, h => by
    rw [cons_append, todo, if_pos (h mdl (by simp)),
      todo_append_of_skips rest fun m hm => h m (by simp [hm])]

lemma todo_clrBit_of_ne : ∀ {mdls : List BkModule} {map : ModlMask}, (∀ mdl ∈ mdls, mdl.id ≠ i) →
    todo (map.clrBit i) mdls = todo map mdls
  | [], _, _ => rfl
  | mdl :: mdls, map, h => by
    have hne : mdl.id ≠ i := h mdl (by simp)
    have hskips : Skips (map.clrBit i) mdl ↔ Skips map mdl := by
      simp [Skips, chkBit_clrBit, hne]
    have hcomm : (map.clrBit i).clrBit mdl.id = (map.clrBit mdl.id).clrBit i := by
      simp only [ModlMask.clrBit, BitVec.and_assoc, BitVec.and_comm (~~~ BitVec.twoPow 128 i)]
    simp only [todo, hskips, hcomm, todo_clrBit_of_ne fun m hm => h m (mem_cons_of_mem _ hm)]

lemma todo_eq : ∀ (mdls : List BkModule) (map : ModlMask), todo map mdls =
      (((mdls.filter BkModule.started).map BkModule.id).filter map.chkBit).eraseDups
  | [], _ => rfl
  | mdl :: mdls, map => by
    simp only [todo]
    split_ifs with hskip
    · rw [todo_eq mdls map]
      rcases hskip with hbit | hstart
      · by_cases hstart : mdl.started = true <;> simp [hstart, hbit]
      · simp [hstart]
    · obtain ⟨hbit, hstart⟩ := not_or.1 hskip
      rw [Bool.not_eq_false] at hbit hstart
      rw [todo_eq mdls, filter_cons_of_pos hstart, map_cons, filter_cons_of_pos hbit,
        eraseDups_cons, filter_filter]
      congr 3
      funext id
      by_cases hid : id = mdl.id <;> simp [chkBit_clrBit, hid]

lemma nodup_todo : ∀ (mdls : List BkModule) (map : ModlMask), (todo map mdls).Nodup
  | [], _ => nodup_nil
  | mdl :: mdls, map => by
    simp only [todo]
    split_ifs
    · exact nodup_todo mdls map
    · refine nodup_cons.2 ⟨fun hmem => ?_, nodup_todo mdls _⟩
      simp [todo_eq, chkBit_clrBit] at hmem

end Todo

def MdlRet.failed (ret : MdlRet) : Bool := ret = .fail ∨ ret = .cannotIo

structure Progress where
  left : Bool → List ModuleId
  stopped : Bool

variable {p p' : Progress}

/-- The controller, with an id below 10, is told of every dispatch. A module must be the first of
its phase, and the post phase comes when the pre phase is done. -/
@[local simp] def Progress.next (p : Progress) : Notice → Option Progress
  | .failed _ => some p
  | .canceled => some { p with stopped := true }
  | .fed id pre ret =>
    if p.stopped then none
    else if id < 10 then some { p with stopped := ret.failed }
    else if pre = false ∧ p.left true ≠ [] then none
    else
      match p.left pre with
      | [] => none
      | mdl :: mdls =>
        if mdl ≠ id then none
        else if ret.stopDispatchMsg then some { p with stopped := ret.failed }
        else some { p with left := update p.left pre mdls }

def Progress.run (p : Progress) (log : List Notice) : Option Progress := log.foldlM next p

@[local simp] def acceptedBy (pre : Bool) (log : List Notice) : List ModuleId :=
  log.filterMap fun
    | .fed id pre' ret =>
      if 10 ≤ id ∧ pre' = pre ∧ ret.stopDispatchMsg = false then some id else none
    | _ => none

@[local simp]
def Progress.answered (p : Progress) (pre : Bool) (mdls : List ModuleId) (ret : MdlRet) :
    Progress :=
  if ret.stopDispatchMsg then { p with stopped := ret.failed }
  else { p with left := update p.left pre mdls }

section Log

variable {id : ModuleId} {pre : Bool}

lemma Progress.next_ctrl (hstop : p.stopped = false) (hid : id < 10)
    (pre : Bool) (ret : MdlRet) :
    p.next (.fed id pre ret) = some { p with stopped := ret.failed } := by
  simp [hstop, hid]

lemma Progress.next_mdl {mdls : List ModuleId}
    (hstop : p.stopped = false) (hid : 10 ≤ id) (hphase : pre = false → p.left true = [])
    (hleft : p.left pre = id :: mdls) (ret : MdlRet) :
    p.next (.fed id pre ret) = some (p.answered pre mdls ret) := by
  have hphase' : ¬ (pre = false ∧ p.left true ≠ []) := fun h => h.2 (hphase h.1)
  simp [hstop, Fin.not_lt.2 hid, hphase', hleft]
  split_ifs <;> rfl

lemma Progress.next_mdl_inv {q : Progress} (hid : 10 ≤ id)
    (h : p.next (.fed id pre ret) = some q) :
    ∃ mdls, p.left pre = id :: mdls ∧ q = p.answered pre mdls ret := by
  have hctrl : ¬ id < 10 := Fin.not_lt.2 hid
  rcases hleft : p.left pre with _ | ⟨mdl, mdls⟩
  · simp [hleft, hctrl] at h
  by_cases hmdl : mdl = id
  · subst hmdl
    refine ⟨mdls, rfl, ?_⟩
    simp only [next, hleft, hctrl, if_false, ne_eq, not_true_eq_false] at h
    simp only [answered]
    split_ifs at h ⊢ <;> exact (Option.some.inj h).symm
  · simp [hleft, hmdl, hctrl] at h

lemma Progress.run_concat (h : p.run log = some p') (n : Notice) :
    p.run (log ++ [n]) = p'.next n := by
  rw [run, foldlM_append, ← run, h]
  exact bind_pure (p'.next n)

lemma Progress.accepted_append_left (pre : Bool) : ∀ {log : List Notice} {p p' : Progress},
    p.run log = some p' → acceptedBy pre log ++ p'.left pre = p.left pre
  | [], p, p', h => by
    cases h
    rfl
  | n :: log, p, p', h => by
    obtain ⟨q, hq, hrun⟩ := Option.bind_eq_some_iff.1 h
    have ih := accepted_append_left pre hrun
    cases n with
    | failed | canceled =>
      cases hq
      exact ih
    | fed id pre' ret =>
      by_cases hid : 10 ≤ id
      · obtain ⟨mdls, hleft, rfl⟩ := next_mdl_inv hid hq
        by_cases hret : ret.stopDispatchMsg = true
        · simpa [hret] using ih
        by_cases hpre : pre' = pre
        · subst hpre
          simpa [hret, hid, hleft] using ih
        · have hpre' : pre ≠ pre' := fun h => hpre h.symm
          simpa [hpre, hret, update_of_ne hpre'] using ih
      · simp only [next, Fin.not_le.1 hid, if_true] at hq
        split_ifs at hq
        cases hq
        simpa [hid] using ih

lemma MdlRet.stop_of_failed (h : ret.failed = true) : ret.stopDispatchMsg = true := by
  cases ret <;> first | rfl | simp [failed] at h

lemma Progress.run_split (h : p.run (log ++ n :: log') = some p') :
    ∃ q q', p.run log = some q ∧ q.next n = some q' ∧ q'.run log' = some p' := by
  rw [run, foldlM_append] at h
  obtain ⟨q, hq, h⟩ := Option.bind_eq_some_iff.1 h
  obtain ⟨q', hq', h⟩ := Option.bind_eq_some_iff.1 h
  exact ⟨q, q', hq, hq', h⟩

def Notice.Stops : Notice → Prop
  | .fed _ _ ret => ret.failed = true
  | .failed _ => False
  | .canceled => True

lemma Progress.run_stopped : ∀ {log : List Notice} {p p' : Progress}, p.stopped = true →
    p.run log = some p' → ∀ id pre ret, .fed id pre ret ∉ log
  | [], _, _, _, _, _, _, _ => by simp
  | n :: log, p, p', hstop, h, id, pre, ret => by
    obtain ⟨q, hq, hrun⟩ := Option.bind_eq_some_iff.1 h
    cases n with
    | failed owner =>
      cases hq
      simpa using run_stopped hstop hrun id pre ret
    | canceled =>
      cases hq
      simpa using run_stopped (p := { p with stopped := true }) rfl hrun id pre ret
    | fed => simp [hstop] at hq

lemma Progress.next_stops {q : Progress} (h : p.next n = some q) (hn : n.Stops) :
    q.stopped = true := by
  cases n with
  | failed owner => exact hn.elim
  | canceled =>
    cases h
    rfl
  | fed id pre ret =>
    have hret : ret.failed = true := hn
    by_cases hid : 10 ≤ id
    · obtain ⟨mdls, -, rfl⟩ := next_mdl_inv hid h
      simp [stop_of_failed hret, hret]
    · simp only [next, Fin.not_le.1 hid, if_true] at h
      split_ifs at h
      cases h
      exact hret

lemma Progress.stops (h : p.run (log ++ n :: log') = some p') (hn : n.Stops) (id : ModuleId)
    (pre : Bool) (ret : MdlRet) : .fed id pre ret ∉ log' := by
  obtain ⟨q, q', -, hnext, hrun⟩ := run_split h
  exact run_stopped (next_stops hnext hn) hrun id pre ret

lemma Progress.run_left : ∀ {log : List Notice} {q q' : Progress},
    q.left = p.left → (∀ id pre ret, .fed id pre ret ∈ log → ¬ 10 ≤ id) → q.run log = some q' →
    q'.left = p.left
  | [], q, q', hleft, _, h => by
    cases h
    exact hleft
  | n :: log, q, q', hleft, hno, h => by
    obtain ⟨r, hr, hrun⟩ := Option.bind_eq_some_iff.1 h
    refine run_left ?_ (fun id pre ret hmem => hno id pre ret (by simp [hmem])) hrun
    cases n with
    | failed | canceled =>
      cases hr
      exact hleft
    | fed id pre ret =>
      have hid := hno id pre ret (by simp)
      simp only [next, Fin.not_le.1 hid, if_true] at hr
      split_ifs at hr
      cases hr
      exact hleft

lemma Progress.left_of_pending {between : List Notice}
    (hid : 10 ≤ id) (hno : ∀ id pre ret, .fed id pre ret ∈ between → ¬ 10 ≤ id)
    (h : p.run (log ++ .fed id pre .pending :: between) = some p') :
    ∃ mdls, p'.left pre = id :: mdls := by
  obtain ⟨q, q', -, hnext, hrun⟩ := run_split h
  obtain ⟨mdls, hleft, rfl⟩ := next_mdl_inv hid hnext
  have hkeep : p'.left = q.left := run_left (by simp [stopDispatchMsg]) hno hrun
  exact ⟨mdls, by rw [hkeep, hleft]⟩

lemma Progress.not_again {ret' : MdlRet} (hid : 10 ≤ id)
    (hnodup : (p.left pre).Nodup) (hret : ret.stopDispatchMsg = false)
    (h : p.run (log ++ .fed id pre ret :: log') = some p') : .fed id pre ret' ∉ log' := by
  intro hmem
  obtain ⟨between, rest, rfl⟩ := append_of_mem hmem
  rw [← cons_append, ← append_assoc] at h
  obtain ⟨q, q', hrun, hnext, -⟩ := run_split h
  obtain ⟨mdls, hleft, -⟩ := next_mdl_inv hid hnext
  have happ := accepted_append_left pre hrun
  rw [← happ, hleft] at hnodup
  have hacc : id ∈ acceptedBy pre (log ++ .fed id pre ret :: between) :=
    mem_filterMap.2 ⟨.fed id pre ret, by simp, by simp [hid, hret]⟩
  exact (nodup_append.1 hnodup).2.2 id hacc id (by simp) rfl

end Log

def phaseList (mods : Modules) (owner : Option ModuleId) : Bool → List BkModule
  | true => phaseModules mods owner [.mandatory, .optional, .role] id
  | false => phaseModules mods owner [.role, .optional, .mandatory] reverse

lemma ten_le_of_priority {id : ModuleId} {p : MdlPriority} (h : getMdlPriority id = some p) :
    10 ≤ id := by
  by_contra hlt
  simp [getMdlPriority, Fin.not_le.1 hlt] at h

lemma ten_le_of_mem_phaseModules {ps : List MdlPriority}
    {order : List BkModule → List BkModule} (horder : ∀ q, ∀ mdl ∈ order q, mdl ∈ q)
    (h : mdl ∈ phaseModules mods owner ps order) : 10 ≤ mdl.id := by
  obtain ⟨p, -, hmdl⟩ := mem_flatMap.1 h
  rcases mem_append.1 hmdl with howner | hq
  · simp at howner
    obtain ⟨id, ⟨-, hid⟩, rfl⟩ := howner
    exact ten_le_of_priority (by simpa using hid)
  · exact ten_le_of_priority (mods.priority_eq p mdl (horder _ _ hq))

lemma ten_le_of_mem_phaseList (pre : Bool) (h : mdl ∈ phaseList mods owner pre) :
    10 ≤ mdl.id := by
  cases pre with
  | true => exact ten_le_of_mem_phaseModules (fun _ _ hm => hm) h
  | false => exact ten_le_of_mem_phaseModules (fun _ _ hm => mem_reverse.1 hm) h

structure Live (mods : Modules) (start p : Progress) (d : Dispatching) : Prop where
  log : start.run d.log = some p
  stopped : p.stopped = false
  left : ∀ pre, p.left pre = todo (d.ex.phaseMap pre) (phaseList mods d.ex.module pre)
  sub : ∀ pre, mods.bitmap &&& d.ex.phaseMap pre = d.ex.phaseMap pre
  fail : d.ex.fail = false
  cancel : d.ex.cancel = false

structure Halted (start : Progress) (d : Dispatching) : Prop where
  log : ∃ p, start.run d.log = some p ∧ p.stopped = true
  mark : d.ex.fail = true ∨ d.ex.cancel = true

structure SameMsg (pre : Bool) (d d' : Dispatching) : Prop where
  module : d'.ex.module = d.ex.module
  indc : d'.ex.indcPrePhase = d.ex.indcPrePhase
  prePhase : d'.ex.prePhase = d.ex.prePhase
  other : d'.ex.phaseMap (!pre) = d.ex.phaseMap (!pre)

lemma SameMsg.refl (pre : Bool) (d : Dispatching) : SameMsg pre d d := ⟨rfl, rfl, rfl, rfl⟩

lemma SameMsg.trans {pre : Bool} {d : Dispatching} (h : SameMsg pre d d')
    (h' : SameMsg pre d' d'') : SameMsg pre d d'' :=
  ⟨h'.module.trans h.module, h'.indc.trans h.indc, h'.prePhase.trans h.prePhase,
    h'.other.trans h.other⟩

def MsgEx.clrPhase (ex : MsgEx) (pre : Bool) (id : ModuleId) : MsgEx :=
  if pre then { ex with premap := ex.premap.clrBit id }
  else { ex with postmap := ex.postmap.clrBit id }

section Feed

variable {io : HdlrIo} {start : Progress} {d : Dispatching} {id : ModuleId}
  {pre : Bool}

variable {rest : List BkModule}

lemma phaseMap_clrPhase_self (ex : MsgEx) (pre : Bool) (id : ModuleId) :
    (ex.clrPhase pre id).phaseMap pre = (ex.phaseMap pre).clrBit id := by
  cases pre <;> rfl

lemma phaseMap_clrPhase_other (ex : MsgEx) {pre pre' : Bool} (h : pre' ≠ pre) (id : ModuleId) :
    (ex.clrPhase pre id).phaseMap pre' = ex.phaseMap pre' := by
  cases pre <;> cases pre' <;> first | rfl | exact absurd rfl h

lemma sameMsg_clrPhase (d : Dispatching) (log : List Notice) (pre : Bool) (id : ModuleId) :
    SameMsg pre d ⟨d.ex.clrPhase pre id, log⟩ := by
  cases pre <;> exact ⟨rfl, rfl, rfl, rfl⟩

lemma feedMdlMsg_fst (mods : Modules) (io : HdlrIo) (id : ModuleId)
    (hpre : d.ex.indcPrePhase = pre) : (feedMdlMsg mods io id d).1 = io.ret id pre := by
  simp only [feedMdlMsg, hpre]
  cases io.ret id pre <;> cases pre <;> rfl

lemma feedMdlMsg_accept (hpre : d.ex.indcPrePhase = pre)
    (hret : (io.ret id pre).stopDispatchMsg = false) (hcancel : io.cancel id pre = false) :
    feedMdlMsg mods io id d =
      (io.ret id pre, ⟨d.ex.clrPhase pre id, d.log ++ [.fed id pre (io.ret id pre)]⟩) := by
  simp only [feedMdlMsg, hpre, hcancel]
  cases hr : io.ret id pre <;> simp [hr, stopDispatchMsg] at hret
  all_goals cases pre <;> rfl

lemma feedMdlMsg_pending (hpre : d.ex.indcPrePhase = pre) (hret : io.ret id pre = .pending)
    (hcancel : io.cancel id pre = false) :
    feedMdlMsg mods io id d =
      (.pending, ⟨{ d.ex with pending := true }, d.log ++ [.fed id pre .pending]⟩) := by
  simp [feedMdlMsg, hpre, hcancel, hret]

lemma run_notifyMsgFail (ret : MdlRet) (h : start.run d.log = some p) :
    start.run (notifyMsgFail mods ret d).log = some p := by
  simp only [notifyMsgFail]
  split
  · split_ifs
    · rw [Progress.run_concat h]
      rfl
    · exact h
  · exact h

lemma feed_halted (mods : Modules) (hlog : start.run d.log = some p)
    (hpre : d.ex.indcPrePhase = pre)
    (hnext : p.next (.fed id pre (io.ret id pre)) = some p')
    (hfail : (io.ret id pre).failed = true → p'.stopped = true)
    (hstop : (io.ret id pre).failed = true ∨ io.cancel id pre = true) :
    Halted start (feedMdlMsg mods io id d).2 := by
  have hfed : start.run (d.log ++ [.fed id pre (io.ret id pre)]) = some p' := by
    rw [Progress.run_concat hlog, hnext]
  by_cases hcancel : io.cancel id pre = true
  · have hend : start.run (d.log ++ [.fed id pre (io.ret id pre)] ++ [.canceled]) =
        some { p' with stopped := true } := Progress.run_concat hfed _
    simp [feedMdlMsg, hpre, hcancel]
    cases hr : io.ret id pre with
    | fail | cannotIo =>
      rw [hr] at hend
      exact ⟨⟨_, run_notifyMsgFail _ hend, rfl⟩, .inl rfl⟩
    | pending =>
      rw [hr] at hend
      exact ⟨⟨_, hend, rfl⟩, .inr rfl⟩
    | success | ignore =>
      rw [hr] at hend
      cases pre <;> exact ⟨⟨_, hend, rfl⟩, .inr rfl⟩
  · have hfailed := hstop.resolve_right hcancel
    simp only [feedMdlMsg, hpre, hcancel]
    cases hr : io.ret id pre with
    | fail | cannotIo =>
      rw [hr] at hfed hfail
      exact ⟨⟨p', run_notifyMsgFail _ hfed, hfail rfl⟩, .inl rfl⟩
    | pending | success | ignore => simp [hr, failed] at hfailed

lemma feedMdlMsg_cancel_map (mods : Modules) (hpre : d.ex.indcPrePhase = pre)
    (hcancel : io.cancel id pre = true) :
    (feedMdlMsg mods io id d).2.ex.phaseMap pre = 0 := by
  simp [feedMdlMsg, hpre, hcancel]
  cases io.ret id pre <;> cases pre <;> simp [Dispatching.cancel, cancelMsg, MsgEx.phaseMap,
    notifyMsgFail]

lemma feedLoop_zero : ∀ (mdls : List BkModule) (d : Dispatching), d.ex.phaseMap pre = 0 →
    feedLoop mods io pre mdls d = d
  | [], _, _ => rfl
  | mdl :: mdls, d, h => by
    rw [feedLoop, if_pos (.inl (by rw [h]; exact chkBit_zero)), feedLoop_zero mdls d h]

lemma MdlRet.eq_pending (hstop : ret.stopDispatchMsg = true) (hfail : ret.failed = false) :
    ret = .pending := by
  cases ret <;> simp [failed, stopDispatchMsg] at hfail hstop ⊢

lemma Live.pend (h : Live mods start p d)
    (hnext : p.next (.fed id pre .pending) = some { p with stopped := false }) :
    Live mods start p ⟨{ d.ex with pending := true }, d.log ++ [.fed id pre .pending]⟩ := by
  have hp : { p with stopped := false } = p := by rw [← h.stopped]
  refine ⟨?_, h.stopped, h.left, h.sub, h.fail, h.cancel⟩
  rw [Progress.run_concat h.log, hnext, hp]

section

variable {done : List BkModule} (h : Live mods start p d)
  (hlist : phaseList mods d.ex.module pre = done ++ mdl :: rest)
  (hdone : ∀ m ∈ done, Skips (d.ex.phaseMap pre) m) (hskip : ¬ Skips (d.ex.phaseMap pre) mdl)
include h hlist hdone hskip

lemma Live.left_eq :
    p.left pre = mdl.id :: todo ((d.ex.phaseMap pre).clrBit mdl.id) rest := by
  rw [h.left pre, hlist, todo_append_of_skips _ hdone, todo, if_neg hskip]

lemma Live.accept (hphase : pre = false → p.left true = [])
    (hret : ret.stopDispatchMsg = false) :
    Live mods start
      { p with left := update p.left pre
                  (todo ((d.ex.phaseMap pre).clrBit mdl.id) rest) }
      ⟨d.ex.clrPhase pre mdl.id, d.log ++ [.fed mdl.id pre ret]⟩ := by
  have hid : 10 ≤ mdl.id := ten_le_of_mem_phaseList pre (by rw [hlist]; simp)
  have hnext := Progress.next_mdl h.stopped hid hphase (h.left_eq hlist hdone hskip) ret
  have hmodule : (d.ex.clrPhase pre mdl.id).module = d.ex.module := by cases pre <;> rfl
  refine ⟨?_, h.stopped, fun pre' => ?_, fun pre' => ?_, ?_, ?_⟩
  · rw [Progress.run_concat h.log, hnext, Progress.answered, if_neg (by simp [hret])]
  · by_cases hpre : pre' = pre
    · subst hpre
      rw [phaseMap_clrPhase_self, hmodule, hlist, append_cons,
        todo_append_of_skips _ (skips_append_clrBit hdone)]
      exact update_self _ _ _
    · rw [phaseMap_clrPhase_other _ hpre, hmodule, ← h.left pre']
      exact update_of_ne hpre _ _
  · by_cases hpre : pre' = pre
    · subst hpre
      rw [phaseMap_clrPhase_self]
      exact and_clrBit (h.sub pre')
    · rw [phaseMap_clrPhase_other _ hpre]
      exact h.sub pre'
  · cases pre <;> exact h.fail
  · cases pre <;> exact h.cancel

end

/-- With a failure or a cancelation, at a module that is pending, or with every module notified. -/
inductive WalkEnds (mods : Modules) (io : HdlrIo) (start : Progress) (pre : Bool)
    (d d' : Dispatching) : Prop
  | halted (h : Halted start d')
  | pending {p : Progress} {id : ModuleId} (h : Live mods start p d') (hsame : SameMsg pre d d')
    (hpend : d'.ex.pending = true) (hbit : (d.ex.phaseMap pre).chkBit id = true)
    (hret : io.ret id pre = .pending) (hcancel : io.cancel id pre = false)
  | through {p : Progress} (h : Live mods start p d') (hsame : SameMsg pre d d')
    (hpend : d'.ex.pending = false) (hleft : p.left pre = [])

lemma WalkEnds.after (hsame : SameMsg pre d d')
    (hbits : ∀ id, (d'.ex.phaseMap pre).chkBit id = true → (d.ex.phaseMap pre).chkBit id = true)
    (h : WalkEnds mods io start pre d' d'') : WalkEnds mods io start pre d d'' := by
  cases h with
  | halted h => exact .halted h
  | pending h hsame' hpend hbit hret hcancel =>
    exact .pending h (hsame.trans hsame') hpend (hbits _ hbit) hret hcancel
  | through h hsame' hpend hleft => exact .through h (hsame.trans hsame') hpend hleft

lemma feedLoop_skip (h : Skips (d.ex.phaseMap pre) mdl) :
    feedLoop mods io pre (mdl :: rest) d = feedLoop mods io pre rest d := by
  exact if_pos h

lemma feedLoop_feed (h : ¬ Skips (d.ex.phaseMap pre) mdl) : feedLoop mods io pre (mdl :: rest) d =
      if (feedMdlMsg mods io mdl.id d).1.stopDispatchMsg then (feedMdlMsg mods io mdl.id d).2
      else feedLoop mods io pre rest (feedMdlMsg mods io mdl.id d).2 := by
  exact if_neg h

/-- A walk notifies modules as the model allows. -/
lemma feedLoop_spec (io : HdlrIo) (pre : Bool) :
    ∀ (rest done : List BkModule) (d : Dispatching) (p : Progress),
    Live mods start p d → d.ex.indcPrePhase = pre → d.ex.pending = false →
    (pre = false → p.left true = []) → phaseList mods d.ex.module pre = done ++ rest →
    (∀ m ∈ done, Skips (d.ex.phaseMap pre) m) →
    WalkEnds mods io start pre d (feedLoop mods io pre rest d)
  | [], done, d, p, h, _, hpend, _, hlist, hdone => by
    refine .through h (.refl pre d) hpend ?_
    rw [h.left pre, hlist, todo_append_of_skips _ hdone, todo]
  | mdl :: rest, done, d, p, h, hpre, hpend, hphase, hlist, hdone => by
    by_cases hskip : Skips (d.ex.phaseMap pre) mdl
    · rw [feedLoop_skip hskip]
      exact feedLoop_spec io pre rest (done ++ [mdl]) d p h hpre hpend hphase (by simp [hlist])
        (forall_mem_append.2 ⟨hdone, forall_mem_singleton.2 hskip⟩)
    rw [feedLoop_feed hskip]
    have hid : 10 ≤ mdl.id := ten_le_of_mem_phaseList pre (by rw [hlist]; simp)
    have hnext := Progress.next_mdl h.stopped hid hphase (h.left_eq hlist hdone hskip)
      (io.ret mdl.id pre)
    by_cases hend : (io.ret mdl.id pre).failed = true ∨ io.cancel mdl.id pre = true
    · -- a failure stops the walk, and after a cancelation it finds no bit
      have hhalt := feed_halted mods h.log hpre hnext
        (fun hf => by simp [stop_of_failed hf, hf]) hend
      split_ifs with hstop
      · exact .halted hhalt
      have hret := feedMdlMsg_fst mods io mdl.id hpre
      have hcancel : io.cancel mdl.id pre = true :=
        hend.resolve_left fun hf => hstop (hret ▸ stop_of_failed hf)
      rw [feedLoop_zero _ _ (feedMdlMsg_cancel_map mods hpre hcancel)]
      exact .halted hhalt
    obtain ⟨hfail, hcancel⟩ := not_or.1 hend
    rw [Bool.not_eq_true] at hfail hcancel
    by_cases hstop : (io.ret mdl.id pre).stopDispatchMsg = true
    · have hret := eq_pending hstop hfail
      have hbit : (d.ex.phaseMap pre).chkBit mdl.id = true := by
        simpa using (not_or.1 hskip).1
      rw [feedMdlMsg_pending hpre hret hcancel]
      rw [hret] at hnext
      exact .pending (h.pend hnext) ⟨rfl, rfl, rfl, by cases pre <;> rfl⟩ rfl hbit hret hcancel
    · rw [Bool.not_eq_true] at hstop
      rw [feedMdlMsg_accept hpre hstop hcancel, if_neg (by simp [hstop])]
      have hlive := h.accept hlist hdone hskip hphase hstop
      have hsame := sameMsg_clrPhase d (d.log ++ [.fed mdl.id pre (io.ret mdl.id pre)]) pre mdl.id
      refine .after hsame (fun id hbit => ?_) (feedLoop_spec io pre rest (done ++ [mdl]) _ _ hlive
        (hsame.indc.trans hpre) (by cases pre <;> exact hpend) (fun hf => ?_) ?_ ?_)
      · rw [phaseMap_clrPhase_self, chkBit_clrBit, Bool.and_eq_true] at hbit
        exact hbit.1
      · subst hf
        simpa using hphase rfl
      · rw [hsame.module, hlist, append_cons]
      · rw [phaseMap_clrPhase_self]
        exact skips_append_clrBit hdone

end Feed

/-- Notices have been added, all of the phase that the message is in. -/
structure Extends (d d' : Dispatching) : Prop where
  indc : d'.ex.indcPrePhase = d.ex.indcPrePhase
  log : ∃ new, d'.log = d.log ++ new ∧ ∀ id pre ret, .fed id pre ret ∈ new → pre = d.ex.indcPrePhase

def PreOnly (log : List Notice) : Prop := ∀ id ret, .fed id false ret ∉ log

section Extends

variable {d : Dispatching}

lemma Extends.refl (d : Dispatching) : Extends d d := ⟨rfl, [], by simp, by simp⟩

lemma Extends.trans (h : Extends d d') (h' : Extends d' d'') : Extends d d'' := by
  obtain ⟨hindc, new, hlog, hnew⟩ := h
  obtain ⟨hindc', new', hlog', hnew'⟩ := h'
  refine ⟨hindc'.trans hindc, new ++ new', by rw [hlog', hlog, append_assoc], ?_⟩
  intro id pre ret hmem
  rcases mem_append.1 hmem with hmem | hmem
  · exact hnew id pre ret hmem
  · exact (hnew' id pre ret hmem).trans hindc

lemma Extends.isPrefix (h : Extends d d') : d.log <+: d'.log := by
  obtain ⟨-, new, hlog, -⟩ := h
  exact ⟨new, hlog.symm⟩

lemma Extends.preOnly (h : Extends d d') (hindc : d.ex.indcPrePhase = true)
    (hlog : PreOnly d.log) : PreOnly d'.log := by
  obtain ⟨-, new, hnew, hphase⟩ := h
  intro id ret hmem
  rw [hnew] at hmem
  rcases mem_append.1 hmem with hmem | hmem
  · exact hlog id ret hmem
  · have hfalse := hphase id false ret hmem
    rw [hindc] at hfalse
    cases hfalse

lemma Extends.of_quiet {new : List Notice} (hindc : d'.ex.indcPrePhase = d.ex.indcPrePhase)
    (hlog : d'.log = d.log ++ new) (hnew : ∀ id pre ret, .fed id pre ret ∉ new) : Extends d d' :=
  ⟨hindc, new, hlog, fun id pre ret hmem => absurd hmem (hnew id pre ret)⟩

section

variable (mods : Modules) (io : HdlrIo) (id : ModuleId) (d : Dispatching)

lemma notifyMsgFail_extends (ret : MdlRet) (d : Dispatching) :
    Extends d (notifyMsgFail mods ret d) := by
  simp only [notifyMsgFail]
  split
  · split_ifs
    · exact .of_quiet rfl rfl (by simp)
    · exact .of_quiet rfl (append_nil _).symm (by simp)
  · exact .of_quiet rfl (append_nil _).symm (by simp)

lemma feedMdlMsg_log :
    Extends ⟨d.ex, d.log ++ [.fed id d.ex.indcPrePhase (io.ret id d.ex.indcPrePhase)]⟩
      (feedMdlMsg mods io id d).2 := by
  set pre := d.ex.indcPrePhase with hpre
  set fed : Dispatching := ⟨d.ex, d.log ++ [.fed id pre (io.ret id pre)]⟩ with hfed
  have hcancel : Extends fed (if io.cancel id pre then fed.cancel else fed) := by
    split_ifs
    · exact .of_quiet rfl rfl (by simp)
    · exact .refl _
  refine hcancel.trans ?_
  simp only [feedMdlMsg, ← hpre, ← hfed]
  generalize (if io.cancel id pre then fed.cancel else fed) = t
  cases io.ret id pre with
  | fail | cannotIo => exact notifyMsgFail_extends _ _ _
  | pending => exact .of_quiet rfl (append_nil _).symm (by simp)
  | success | ignore => cases pre <;> exact .of_quiet rfl (append_nil _).symm (by simp)

lemma feedMdlMsg_extends : Extends d (feedMdlMsg mods io id d).2 := by
  have hfed : Extends d
      ⟨d.ex, d.log ++ [.fed id d.ex.indcPrePhase (io.ret id d.ex.indcPrePhase)]⟩ := by
    refine ⟨rfl, _, rfl, fun id' pre ret hmem => ?_⟩
    cases mem_singleton.1 hmem
    rfl
  exact hfed.trans (feedMdlMsg_log mods io id d)

end

lemma feedLoop_extends (mods : Modules) (io : HdlrIo) (pre : Bool) :
    ∀ (mdls : List BkModule) (d : Dispatching), Extends d (feedLoop mods io pre mdls d)
  | [], d => .refl d
  | mdl :: mdls, d => by
    by_cases hskip : Skips (d.ex.phaseMap pre) mdl
    · rw [feedLoop_skip hskip]
      exact feedLoop_extends mods io pre mdls d
    · rw [feedLoop_feed hskip]
      have hfeed := feedMdlMsg_extends mods io mdl.id d
      split_ifs
      · exact hfeed
      · exact hfeed.trans (feedLoop_extends mods io pre mdls _)

lemma feedLoop_first (mods : Modules) (io : HdlrIo) {pre : Bool} {id : ModuleId} :
    ∀ {mdls : List BkModule} {d : Dispatching},
    todo (d.ex.phaseMap pre) mdls = id :: ids → d.ex.indcPrePhase = pre →
    d.log ++ [.fed id pre (io.ret id pre)] <+: (feedLoop mods io pre mdls d).log
  | [], _, h, _ => by cases h
  | mdl :: mdls, d, h, hpre => by
    by_cases hskip : Skips (d.ex.phaseMap pre) mdl
    · rw [todo, if_pos hskip] at h
      rw [feedLoop_skip hskip]
      exact feedLoop_first mods io h hpre
    rw [todo, if_neg hskip] at h
    obtain ⟨rfl, -⟩ := cons.inj h
    have hlog := feedMdlMsg_log mods io mdl.id d
    rw [hpre] at hlog
    rw [feedLoop_feed hskip]
    split_ifs
    · exact hlog.isPrefix
    · exact (hlog.trans (feedLoop_extends mods io pre mdls _)).isPrefix

end Extends

section Dispatch

variable {io : HdlrIo} {start : Progress} {d : Dispatching}

def PostAnswers (io : HdlrIo) (map : ModlMask) : Prop :=
  ∀ id, map.chkBit id = true → io.ret id false = .pending → io.cancel id false = true

structure MsgWaiting (mods : Modules) (start p : Progress) (d : Dispatching) : Prop where
  log : start.run d.log = some p
  stopped : p.stopped = false
  left : ∀ pre,
    p.left pre = todo (mods.bitmap &&& d.ex.phaseMap pre) (phaseList mods d.ex.module pre)
  fail : d.ex.fail = false
  cancel : d.ex.cancel = false
  prePhase : d.ex.prePhase = true
  preOnly : PreOnly d.log

lemma Live.waiting (h : Live mods start p d) (hpre : d.ex.prePhase = true)
    (hlog : PreOnly d.log) : MsgWaiting mods start p d :=
  ⟨h.log, h.stopped, fun pre => by rw [h.sub pre, h.left pre], h.fail, h.cancel, hpre, hlog⟩

/-- A message that is rescheduled waits in the pre phase. One recycled without a mark has reached
all modules. -/
inductive DispatchEnds (mods : Modules) (start : Progress) : Redirect × Dispatching → Prop
  | reschedule {p : Progress} {d : Dispatching} (h : MsgWaiting mods start p d) :
    DispatchEnds mods start (.reschedule, d)
  | marked {p : Progress} {d : Dispatching} (h : start.run d.log = some p)
    (hmark : d.ex.fail = true ∨ d.ex.cancel = true) : DispatchEnds mods start (.recycle, d)
  | completed {p : Progress} {d : Dispatching} (h : start.run d.log = some p)
    (hleft : ∀ pre, p.left pre = []) : DispatchEnds mods start (.recycle, d)

lemma msgRedirectChk_halted (h : Halted start d) : msgRedirectChk d.ex = some .recycle := by
  rw [msgRedirectChk, if_pos h.mark]

lemma Halted.ends (h : Halted start d) : DispatchEnds mods start (.recycle, d) := by
  obtain ⟨p, hrun, -⟩ := h.log
  exact .marked hrun h.mark

lemma Live.redirect (h : Live mods start p d) :
    msgRedirectChk d.ex = if d.ex.pending then some .reschedule else none := by
  simp [msgRedirectChk, h.fail, h.cancel]

lemma Live.left_nil {pre : Bool} (h : Live mods start p d) (hmap : d.ex.phaseMap pre = 0) :
    p.left pre = [] := by
  rw [h.left pre, hmap]
  exact todo_zero _

section

variable (h : Live mods start p d)
include h

lemma Live.post (hleft : p.left true = []) (hpend : d.ex.pending = false)
    (hret : PostAnswers io d.ex.postmap) :
    DispatchEnds mods start (dispatchPost mods io d) := by
  set t : Dispatching := { d with ex := getMsgBitmap { d.ex with prePhase := false } } with ht
  have hswitch : Live mods start p t := ⟨h.log, h.stopped, h.left, h.sub, h.fail, h.cancel⟩
  simp only [dispatchPost, ← ht]
  by_cases hmap : t.ex.postmap = 0
  · rw [if_neg (not_not.2 hmap), hswitch.redirect, if_neg (by simp [ht, getMsgBitmap, hpend])]
    simp only [if_pos hmap]
    refine .completed hswitch.log fun pre => ?_
    cases pre with
    | true => exact hleft
    | false => exact hswitch.left_nil hmap
  rw [if_pos hmap]
  have hwalk := feedLoop_spec io false (phaseList mods t.ex.module false) [] t p
    hswitch rfl hpend (fun _ => hleft) rfl (by simp)
  have hhdl : msgPostPhaseHdl mods io t =
      feedLoop mods io false (phaseList mods t.ex.module false) t := rfl
  rw [hhdl]
  cases hwalk with
  | halted hh =>
    rw [msgRedirectChk_halted hh]
    exact hh.ends
  | pending _ _ _ hbit hr hcancel =>
    rw [hret _ hbit hr] at hcancel
    cases hcancel
  | through hl hsame hp hnil =>
    rw [hl.redirect, if_neg (by simp [hp])]
    split_ifs with hzero
    · refine .completed hl.log fun pre => ?_
      cases pre with
      | true =>
        have hother : _ = t.ex.phaseMap true := hsame.other
        rw [← hleft, hl.left, hswitch.left, ← hother, hsame.module]
        rfl
      | false => exact hnil
    · exact .marked hl.log (.inr rfl)

lemma Live.pre (hindc : d.ex.indcPrePhase = true)
    (hpre : d.ex.prePhase = true) (hlog : PreOnly d.log) (hpend : d.ex.pending = false)
    (hret : PostAnswers io d.ex.postmap) :
    DispatchEnds mods start (dispatchPre mods io d) := by
  simp only [dispatchPre, hindc, true_and]
  by_cases hmap : d.ex.premap = 0
  · rw [if_neg (not_not.2 hmap), h.redirect, if_neg (by simp [hpend])]
    simp only [MsgEx.phaseMap, if_pos hmap, if_true]
    exact h.post (h.left_nil hmap) hpend hret
  rw [if_pos hmap]
  have hwalk := feedLoop_spec io true (phaseList mods d.ex.module true) [] d p
    h hindc hpend (by simp) rfl (by simp)
  have hhdl : msgPrePhaseHdl mods io d =
      feedLoop mods io true (phaseList mods d.ex.module true) d := rfl
  rw [hhdl]
  cases hwalk with
  | halted hh =>
    rw [msgRedirectChk_halted hh]
    exact hh.ends
  | pending hl hsame hp _ _ _ =>
    rw [hl.redirect, if_pos hp]
    have hnew := feedLoop_extends mods io true (phaseList mods d.ex.module true) d
    exact .reschedule (hl.waiting (hsame.prePhase.trans hpre) (hnew.preOnly hindc hlog))
  | through hl hsame hp hnil =>
    rw [hl.redirect, if_neg (by simp [hp])]
    split_ifs with hzero
    · have hpost : (feedLoop mods io true (phaseList mods d.ex.module true) d).ex.postmap =
          d.ex.postmap := hsame.other
      exact hl.post hnil hp (by rw [hpost]; exact hret)
    · exact .marked hl.log (.inr rfl)

lemma Live.acceptCtrl {ctrl : ModuleId} (hctrl : ctrl < 10) (hret : ret.stopDispatchMsg = false) :
    Live mods start p ⟨d.ex.clrPhase true ctrl, d.log ++ [.fed ctrl true ret]⟩ := by
  have hfailed : ret.failed = false := by
    by_contra hf
    rw [stop_of_failed (by simpa using hf)] at hret
    cases hret
  have hp : { p with stopped := ret.failed } = p := by rw [hfailed, ← h.stopped]
  refine ⟨?_, h.stopped, fun pre => ?_, fun pre => ?_, h.fail, h.cancel⟩
  · rw [Progress.run_concat h.log, Progress.next_ctrl h.stopped hctrl, hp]
  · have hne : ∀ mdl ∈ phaseList mods d.ex.module pre, mdl.id ≠ ctrl := by
      rintro mdl hmdl rfl
      exact absurd hctrl (Fin.not_lt.2 (ten_le_of_mem_phaseList pre hmdl))
    cases pre with
    | true => rw [phaseMap_clrPhase_self, h.left true]; exact (todo_clrBit_of_ne hne).symm
    | false => exact h.left false
  · cases pre with
    | true => rw [phaseMap_clrPhase_self]; exact and_clrBit (h.sub true)
    | false => exact h.sub false

end

inductive CtrlEnds (mods : Modules) (start p : Progress) (d d' : Dispatching) : Prop
  | halted (h : Halted start d')
  | live (h : Live mods start p d') (hsame : SameMsg true d d')

lemma Live.controller (h : Live mods start p d) (io : HdlrIo) (hindc : d.ex.indcPrePhase = true) :
    CtrlEnds mods start p d (notifyDisprController mods io d) := by
  simp only [notifyDisprController]
  rcases hmods : mods.controller with _ | ctrl
  · exact .live h (.refl true d)
  have hctrl : ctrl < 10 := mods.controller_lt ctrl hmods
  have hnext := Progress.next_ctrl h.stopped hctrl true (io.ret ctrl true)
  dsimp only
  by_cases hend : (io.ret ctrl true).failed = true ∨ io.cancel ctrl true = true
  · exact .halted (feed_halted mods h.log hindc hnext id hend)
  obtain ⟨hfail, hcancel⟩ := not_or.1 hend
  rw [Bool.not_eq_true] at hfail hcancel
  by_cases hstop : (io.ret ctrl true).stopDispatchMsg = true
  · have hret := eq_pending hstop hfail
    rw [feedMdlMsg_pending hindc hret hcancel]
    rw [hret] at hnext
    exact .live (h.pend hnext) ⟨rfl, rfl, rfl, rfl⟩
  · rw [Bool.not_eq_true] at hstop
    rw [feedMdlMsg_accept hindc hstop hcancel]
    exact .live (h.acceptCtrl hctrl hstop) (sameMsg_clrPhase d _ true ctrl)

lemma notifyDisprController_extends (mods : Modules) (io : HdlrIo) (d : Dispatching) :
    Extends d (notifyDisprController mods io d) := by
  simp only [notifyDisprController]
  split
  · exact .refl d
  · exact feedMdlMsg_extends mods io _ d

lemma Live.dispatch (h : Live mods start p d) (hpre : d.ex.prePhase = true)
    (hlog : PreOnly d.log) (hret : PostAnswers io d.ex.postmap) :
    DispatchEnds mods start (msgDispatch mods io d) := by
  set t : Dispatching := { d with ex := getMsgBitmap d.ex } with ht
  have hlive : Live mods start p t := ⟨h.log, h.stopped, h.left, h.sub, h.fail, h.cancel⟩
  simp only [msgDispatch, ← ht]
  rw [hlive.redirect]
  by_cases hpend : t.ex.pending = true
  · rw [if_pos hpend]
    exact .reschedule (hlive.waiting hpre hlog)
  rw [if_neg hpend]
  have hnew := notifyDisprController_extends mods io t
  cases hlive.controller io hpre with
  | halted hh =>
    rw [msgRedirectChk_halted hh]
    exact hh.ends
  | live hl hsame =>
    rw [hl.redirect]
    split_ifs with hpend'
    · exact .reschedule (hl.waiting (hsame.prePhase.trans hpre) (hnew.preOnly hpre hlog))
    · have hpost : (notifyDisprController mods io t).ex.postmap = d.ex.postmap := hsame.other
      exact hl.pre (hsame.indc.trans hpre) (hsame.prePhase.trans hpre) (hnew.preOnly hpre hlog)
        (by simpa using hpend') (by rw [hpost]; exact hret)

def roundMsg (mods : Modules) (io : RoundIo) (ex : MsgEx) : MsgEx :=
  { popFrontWait ex with
    pending := io.cannotIo
    premap := mods.bitmap &&& ex.premap
    postmap := mods.bitmap &&& ex.postmap }

lemma MsgWaiting.live (h : MsgWaiting mods start p d) (io : RoundIo) :
    Live mods start p ⟨roundMsg mods io d.ex, d.log⟩ := by
  have hmap : ∀ pre, (roundMsg mods io d.ex).phaseMap pre = mods.bitmap &&& d.ex.phaseMap pre := by
    intro pre
    cases pre <;> rfl
  refine ⟨h.log, h.stopped, fun pre => ?_, fun pre => ?_, h.fail, h.cancel⟩
  · rw [hmap]
    exact h.left pre
  · rw [hmap, ← BitVec.and_assoc, BitVec.and_self]

def afterDispatch : Redirect × Dispatching → MsgRun
  | (.reschedule, d) => ⟨.queued, d⟩
  | (.recycle, d) =>
    ⟨if d.ex.fail then .failed else if d.ex.cancel then .canceled else .completed, d⟩

lemma msgRound_dispatch {io : RoundIo} (hcancel : d.ex.cancel = false)
    (hrefused : io.refused = false) :
    msgRound mods io d =
      afterDispatch (msgDispatch mods io.hdlr ⟨roundMsg mods io d.ex, d.log⟩) := by
  have hgo : ¬ ((popFrontWait d.ex).cancel = true ∨ io.refused = true) := by
    simp [popFrontWait, hcancel, hrefused]
  exact if_neg hgo

structure MsgInv (mods : Modules) (start : Progress) (m : MsgRun) : Prop where
  log : ∃ p, start.run m.toDispatching.log = some p ∧ (m.fate = .completed → ∀ pre, p.left pre = [])
  queued : m.fate = .queued →
    m.toDispatching.ex.cancel = true ∨ ∃ p, MsgWaiting mods start p m.toDispatching

/-- No module is pending in the post phase. -/
def MsgOK (m : MsgRun) : MsgEvent → Prop
  | .cancel => True
  | .round io => PostAnswers io.hdlr m.toDispatching.ex.postmap

lemma DispatchEnds.inv {res : Redirect × Dispatching} (h : DispatchEnds mods start res) :
    MsgInv mods start (afterDispatch res) := by
  cases h with
  | @reschedule p _ hw => exact ⟨⟨p, hw.log, by simp [afterDispatch]⟩, fun _ => .inr ⟨p, hw⟩⟩
  | @marked p d hrun hmark =>
    refine ⟨⟨p, hrun, fun hfate => ?_⟩, fun hfate => ?_⟩
    all_goals rcases hmark with hmark | hmark <;> simp [afterDispatch, hmark] at hfate
    all_goals split_ifs at hfate
  | @completed p d hrun hleft =>
    refine ⟨⟨p, hrun, fun _ => hleft⟩, fun hfate => ?_⟩
    simp only [afterDispatch] at hfate
    split_ifs at hfate

lemma MsgInv.step (h : MsgInv mods start m) (e : MsgEvent) (hok : MsgOK m e) :
    MsgInv mods start (msgStep mods m e) := by
  by_cases hfate : m.fate = .queued
  swap
  · have hstay : msgStep mods m e = m := by
      rcases m with ⟨_ | _ | _ | _, d⟩
      · exact absurd rfl hfate
      all_goals rfl
    rwa [hstay]
  obtain ⟨p, hrun, -⟩ := h.log
  cases e with
  | cancel =>
    simp only [msgStep, hfate]
    have hend : start.run (m.toDispatching.log ++ [.canceled]) =
        some { p with stopped := true } := by
      rw [Progress.run_concat hrun]
      rfl
    exact ⟨⟨_, hend, by simp⟩, fun _ => .inl rfl⟩
  | round io =>
    simp only [msgStep, hfate]
    by_cases hrefused : m.toDispatching.ex.cancel = true ∨ io.refused = true
    · rw [msgRound, if_pos (show (popFrontWait _).cancel = true ∨ _ from hrefused)]
      exact ⟨⟨p, hrun, by simp⟩, by simp⟩
    obtain ⟨hcancel, hgo⟩ := not_or.1 hrefused
    rw [Bool.not_eq_true] at hgo
    obtain ⟨p, hw⟩ := (h.queued hfate).resolve_left hcancel
    rw [msgRound_dispatch hw.cancel hgo]
    refine ((hw.live io).dispatch hw.prePhase hw.preOnly fun id hbit => hok id ?_).inv
    -- the bits that the modules of the dispatcher have left are bits of the message
    have hbit' : (mods.bitmap &&& m.toDispatching.ex.postmap).getLsbD id = true := hbit
    rw [BitVec.getLsbD_and, Bool.and_eq_true] at hbit'
    exact hbit'.2

def mdlNotices (log : List Notice) : List (ModuleId × Bool × MdlRet) :=
  log.filterMap fun
    | .fed id pre ret => if 10 ≤ id then some (id, pre, ret) else none
    | _ => none

lemma mdlNotices_append (log log' : List Notice) :
    mdlNotices (log ++ log') = mdlNotices log ++ mdlNotices log' :=
  filterMap_append

lemma mdlNotices_prefix (h : log <+: log') : mdlNotices log <+: mdlNotices log' := h.filterMap _

lemma eq_of_getLast_mdlNotices {id : ModuleId} {pre : Bool}
    (h : (mdlNotices log).getLast? = some (id, pre, ret)) :
    10 ≤ id ∧ ∃ before after, log = before ++ .fed id pre ret :: after ∧
      ∀ id pre ret, .fed id pre ret ∈ after → ¬ 10 ≤ id := by
  rw [mdlNotices, getLast?_filterMap, findSome?_eq_some_iff] at h
  obtain ⟨after, n, before, hlog, hn, hafter⟩ := h
  have heq : log = before.reverse ++ n :: after.reverse := by
    rw [← reverse_reverse log, hlog]
    simp
  cases n with
  | failed | canceled => cases hn
  | fed id' pre' ret' =>
    by_cases hid : 10 ≤ id'
    · simp only [hid, if_true] at hn
      cases hn
      refine ⟨hid, before.reverse, after.reverse, heq, fun id pre ret hmem hle => ?_⟩
      simpa [hle] using hafter _ (mem_reverse.1 hmem)
    · simp [hid] at hn

/-- The module that is pending is the first when the round goes on. -/
def Resumes (mods : Modules) (m : MsgRun) (io : RoundIo) : Prop :=
  ∀ id pre, m.fate = .queued →
    (mdlNotices m.toDispatching.log).getLast? = some (id, pre, .pending) →
    m.toDispatching.ex.cancel = false → io.refused = false → io.cannotIo = false →
    (∀ ctrl ∈ mods.controller, ∀ pre, (io.hdlr.ret ctrl pre).stopDispatchMsg = false ∧
      io.hdlr.cancel ctrl pre = false) →
    ∃ ret, mdlNotices m.toDispatching.log ++ [(id, pre, ret)] <+:
      mdlNotices (msgStep mods m (.round io)).toDispatching.log

lemma Live.controller_accept (h : Live mods start p d) (io : HdlrIo)
    (hindc : d.ex.indcPrePhase = true)
    (hctrl : ∀ ctrl ∈ mods.controller, ∀ pre, (io.ret ctrl pre).stopDispatchMsg = false ∧
      io.cancel ctrl pre = false) :
    Live mods start p (notifyDisprController mods io d) ∧
      (notifyDisprController mods io d).ex.indcPrePhase = true ∧
      (notifyDisprController mods io d).ex.pending = d.ex.pending ∧
      mdlNotices (notifyDisprController mods io d).log = mdlNotices d.log := by
  simp only [notifyDisprController]
  rcases hmods : mods.controller with _ | ctrl
  · exact ⟨h, hindc, rfl, rfl⟩
  obtain ⟨hret, hcancel⟩ := hctrl ctrl hmods true
  have hlt := mods.controller_lt ctrl hmods
  dsimp only
  rw [feedMdlMsg_accept hindc hret hcancel]
  refine ⟨h.acceptCtrl hlt hret, hindc, rfl, ?_⟩
  simp [mdlNotices, Fin.not_le.2 hlt]

lemma dispatchPost_log (mods : Modules) (io : HdlrIo) (d : Dispatching) :
    d.log <+: (dispatchPost mods io d).2.log := by
  simp only [dispatchPost]
  set t : Dispatching := { d with ex := getMsgBitmap { d.ex with prePhase := false } } with ht
  have hwalk : d.log <+: (if t.ex.postmap ≠ 0 then msgPostPhaseHdl mods io t else t).log := by
    split_ifs
    · exact (feedLoop_extends mods io false _ t).isPrefix
    · exact prefix_refl _
  generalize (if t.ex.postmap ≠ 0 then msgPostPhaseHdl mods io t else t) = walked at hwalk ⊢
  split
  · exact hwalk
  · split_ifs <;> exact hwalk

lemma Live.pre_first {id : ModuleId} (h : Live mods start p d) (io : HdlrIo)
    (hindc : d.ex.indcPrePhase = true) (hleft : p.left true = id :: ids) :
    d.log ++ [.fed id true (io.ret id true)] <+: (dispatchPre mods io d).2.log := by
  have hmap : d.ex.premap ≠ 0 := by
    intro hzero
    have hnil : p.left true = [] := h.left_nil hzero
    rw [hnil] at hleft
    cases hleft
  simp only [dispatchPre, hindc, true_and, if_pos hmap]
  have hwalk : d.log ++ [.fed id true (io.ret id true)] <+: (msgPrePhaseHdl mods io d).log :=
    feedLoop_first mods io ((h.left true).symm.trans hleft) hindc
  split
  · exact hwalk
  · split_ifs
    · exact hwalk.trans (dispatchPost_log mods io _)
    · exact hwalk

lemma afterDispatch_toDispatching (res : Redirect × Dispatching) :
    (afterDispatch res).toDispatching = res.2 := by
  rcases res with ⟨_ | _, d⟩ <;> rfl

lemma MsgInv.resumes (h : MsgInv mods start m) (io : RoundIo) : Resumes mods m io := by
  intro id pre hfate hlast hcancel hrefused hheld hctrl
  obtain ⟨p, hw⟩ := (h.queued hfate).resolve_left (by simp [hcancel])
  obtain ⟨hid, before, after, hlog, hafter⟩ := eq_of_getLast_mdlNotices hlast
  obtain ⟨mdls, hleft⟩ := Progress.left_of_pending hid hafter (hlog ▸ hw.log)
  have hpre : pre = true := by
    by_contra hpre
    rw [Bool.not_eq_true] at hpre
    exact hw.preOnly id .pending (by rw [hlog, hpre]; simp)
  subst hpre
  simp only [msgStep, hfate]
  rw [msgRound_dispatch hcancel hrefused, afterDispatch_toDispatching]
  set t : Dispatching :=
    ⟨getMsgBitmap (roundMsg mods io m.toDispatching.ex), m.toDispatching.log⟩ with ht
  have hlive : Live mods start p t :=
    ⟨hw.log, hw.stopped, (hw.live io).left, (hw.live io).sub, hw.fail, hw.cancel⟩
  obtain ⟨hl, hindc, hpend, hnotices⟩ := hlive.controller_accept io.hdlr hw.prePhase hctrl
  have hchk : ¬ t.ex.pending = true := by simp [ht, getMsgBitmap, roundMsg, hheld]
  have hfirst := hl.pre_first io.hdlr hindc hleft
  simp only [msgDispatch, ← ht]
  rw [hlive.redirect, if_neg hchk]
  rw [hl.redirect, if_neg (by rw [hpend]; exact hchk)]
  refine ⟨io.hdlr.ret id true, ?_⟩
  have hnew := mdlNotices_prefix hfirst
  rw [mdlNotices_append, hnotices] at hnew
  simpa [mdlNotices, hid] using hnew

end Dispatch

/-- The modules that are started and have a bit in the bitmap, in the order of a phase. -/
def deliveryOrder (mods : Modules) (ex : MsgEx) (pre : Bool) : List ModuleId :=
  ((((phaseList mods ex.module pre).filter BkModule.started).map BkModule.id).filter
    (mods.bitmap &&& ex.premap).chkBit).eraseDups

/-- A completed message was accepted in each phase by its modules in order (`order`), by each once
(`once`). The notices are what the abstract model allows (`walk`): a module that accepted does not
see the message again in that phase (`again`), and nobody does after a failure or a cancelation
(`stop`). A pending module is the first when the dispatch is resumed (`resume`). -/
structure TwoPhase (mods : Modules) (a : SendArgs) (m : MsgRun) : Prop where
  order : m.fate = .completed →
    ∀ pre, acceptedBy pre m.toDispatching.log = deliveryOrder mods (fillMsg mods a) pre
  once : m.fate = .completed → ∀ prio, ∀ mdl ∈ mods.moduleQ prio, mdl.started = true →
    (mods.bitmap &&& (fillMsg mods a).premap).chkBit mdl.id = true →
    ∀ pre, (acceptedBy pre m.toDispatching.log).count mdl.id = 1
  walk : ∃ p, Progress.run ⟨deliveryOrder mods (fillMsg mods a), false⟩ m.toDispatching.log = some p
  again : ∀ log id pre ret log', m.toDispatching.log = log ++ .fed id pre ret :: log' → 10 ≤ id →
    ret.stopDispatchMsg = false → ∀ ret', .fed id pre ret' ∉ log'
  stop : ∀ log n log', m.toDispatching.log = log ++ n :: log' → n.Stops →
    ∀ id pre ret, .fed id pre ret ∉ log'
  resume : ∀ io, Resumes mods m io

lemma fillMsg_maps (mods : Modules) (a : SendArgs) :
    (fillMsg mods a).postmap = (fillMsg mods a).premap ∧ (fillMsg mods a).fail = false ∧
      (fillMsg mods a).cancel = false := by
  simp only [fillMsg, setMsgAttr]
  rcases a.attr with _ | attr <;> exact ⟨rfl, rfl, rfl⟩

lemma deliveryOrder_eq_todo (mods : Modules) (ex : MsgEx) (pre : Bool) :
    deliveryOrder mods ex pre = todo (mods.bitmap &&& ex.premap) (phaseList mods ex.module pre) :=
  (todo_eq _ _).symm

lemma msgSent_inv (mods : Modules) (a : SendArgs) :
    MsgInv mods ⟨deliveryOrder mods (fillMsg mods a), false⟩ (msgSent mods a) := by
  obtain ⟨hmaps, hfail, hcancel⟩ := fillMsg_maps mods a
  refine ⟨⟨_, rfl, by simp [msgSent]⟩, fun _ =>
    .inr ⟨_, rfl, rfl, fun pre => ?_, hfail, hcancel, rfl, by simp [PreOnly, msgSent]⟩⟩
  have hmap : (fillMsg mods a).phaseMap pre = (fillMsg mods a).premap := by
    cases pre
    · exact hmaps
    · rfl
  simp only [msgSent, hmap]
  exact deliveryOrder_eq_todo mods _ pre

lemma MsgInv.twoPhase {a : SendArgs}
    (h : MsgInv mods ⟨deliveryOrder mods (fillMsg mods a), false⟩ m) : TwoPhase mods a m := by
  obtain ⟨p, hrun, hdone⟩ := h.log
  have hnodup : ∀ pre, (deliveryOrder mods (fillMsg mods a) pre).Nodup := by
    intro pre
    rw [deliveryOrder_eq_todo]
    exact nodup_todo _ _
  have horder : m.fate = .completed →
      ∀ pre, acceptedBy pre m.toDispatching.log = deliveryOrder mods (fillMsg mods a) pre := by
    intro hfate pre
    have happ := Progress.accepted_append_left pre hrun
    rwa [hdone hfate pre, append_nil] at happ
  refine ⟨horder, ?_, ⟨p, hrun⟩, ?_, ?_, h.resumes⟩
  · intro hfate prio mdl hmdl hstart hbit pre
    rw [horder hfate pre]
    have hmem : mdl.id ∈ ((phaseList mods (fillMsg mods a).module pre).filter
        BkModule.started).map BkModule.id :=
      mem_map_of_mem (mem_filter.2 ⟨by cases pre <;> cases prio <;>
        simp [phaseList, phaseModules, hmdl], hstart⟩)
    exact count_eq_one_of_mem (hnodup pre) (mem_eraseDups.2 (mem_filter.2 ⟨hmem, hbit⟩))
  · intro log id pre ret log' hlog hid hret ret'
    exact Progress.not_again hid (hnodup pre) hret (hlog ▸ hrun)
  · intro log n log' hlog hn id pre ret
    exact Progress.stops (hlog ▸ hrun) hn id pre ret

/-- Whatever the modules answer and whenever it is canceled, as long as no module is pending in the
post phase. -/
theorem two_phase_run (mods : Modules) (a : SendArgs) (es : List MsgEvent)
    (hok : RunOK (msgStep mods) MsgOK (msgSent mods a) es) :
    TwoPhase mods a (run (msgStep mods) (msgSent mods a) es) := by
  have hinv := run_inv (msgStep mods) MsgOK (fun m e h hok => MsgInv.step h e hok) es
    (msgSent mods a) (msgSent_inv mods a) hok
  exact hinv.twoPhase

def sampleModules : Modules where
  controller := some 1
  moduleQ
    | .role => [⟨10, true⟩, ⟨11, true⟩]
    | .optional => [⟨71, true⟩]
    | .mandatory => [⟨41, true⟩]
  bitmap := ([10, 11, 41, 71] : List ModuleId).foldl .addBit 0
  basemap := ([10, 11, 41] : List ModuleId).foldl .addBit 0
  controller_lt := first_controller_lt
  priority_eq := by
    intro p
    cases p <;> decide
  nodup := by
    intro p
    cases p <;> decide

def sampleSend : SendArgs := ⟨11, 1, none, false, false⟩

def pendingRound (id : ModuleId) (pre : Bool) : RoundIo where
  refused := false
  cannotIo := false
  hdlr :=
    { ret := fun id' pre' => if id' = id ∧ pre' = pre then .pending else .success
      cancel := fun _ _ => false }

lemma pendingRound_postAnswers (id : ModuleId) (map : ModlMask) :
    PostAnswers (pendingRound id true).hdlr map := by
  intro id' _ hret
  simp [pendingRound] at hret

/-- A role module is pending in the pre phase. Then the controller is, and then nobody. -/
theorem two_phase_sample :
    let m := run (msgStep sampleModules) (msgSent sampleModules sampleSend)
      [.round (pendingRound 10 true), .round (pendingRound 1 true), .round (pendingRound 0 true)]
    m.fate = .completed ∧ TwoPhase sampleModules sampleSend m :=
  ⟨by decide +kernel,
    two_phase_run _ _ _ ⟨pendingRound_postAnswers 10 _, pendingRound_postAnswers 1 _,
      pendingRound_postAnswers 0 _, trivial⟩⟩

theorem two_phase_post_pending_lost :
    let m := run (msgStep sampleModules) (msgSent sampleModules sampleSend)
      [.round (pendingRound 71 false)]
    ¬ TwoPhase sampleModules sampleSend m ∧
      (msgStep sampleModules m (.round (pendingRound 0 true))).fate = .canceled := by
  intro m
  refine ⟨fun h => ?_, by decide +kernel⟩
  obtain ⟨ret, hnew⟩ := h.resume (pendingRound 0 true) 71 false (by decide +kernel)
    (by decide +kernel) (by decide +kernel) rfl rfl (by simp [sampleModules, pendingRound,
      stopDispatchMsg])
  have hsame : (mdlNotices
      (msgStep sampleModules m (.round (pendingRound 0 true))).toDispatching.log).length =
        (mdlNotices m.toDispatching.log).length := by
    decide +kernel
  have hlen := hnew.length_le
  exact Nat.not_succ_le_self _ (hlen.trans_eq hsame)

end Rtl8852be

import Rtl8852be.H2cAgg
import Mathlib.Data.List.Forall2

/-!
# Every queued command is sent once, in order

What is sent falls into groups of commands that follow each other in the queue. A call in which
something fails flushes the queue under a lock that it holds itself.
-/

namespace Rtl8852be

open Frames List Option

lemma le_align4Byte (len : ℕ) : len ≤ align4Byte len := by
  unfold align4Byte
  omega

/-- The command, filled up to the aligned length. -/
structure SubOf (h2cb : H2cb) (sub : List UInt8) : Prop where
  length : sub.length = align4Byte h2cb.data.length
  starts : h2cb.data <+: sub

/-- A transfer is one command, or an aggregate of these commands in order. -/
inductive H2cTx.Carries : H2cTx → List H2cb → Prop where
  | normal (h2cb : H2cb) : Carries (.normal h2cb) [h2cb]
  | agg {payload : List UInt8} {subs : List (List UInt8)} {h2cbs : List H2cb} (hne : h2cbs ≠ [])
      (hsplit : split payload = some subs) (hsubs : List.Forall₂ SubOf h2cbs subs)
      (hlen : wdBodyLen + fwcmdHdrLen + payload.length < h2cLongDataLen)
      (hshort : ∀ h2cb ∈ h2cbs, h2cPktAggregatable h2cb.data.length) :
      Carries (.agg payload) h2cbs

def subBody (stale : ℕ → UInt8) (h2cb : H2cb) (off : ℕ) : List UInt8 :=
  h2cb.data ++ (range (align4Byte h2cb.data.length - h2cb.data.length)).map fun i =>
    stale (off + h2cAggSubHdrLen + h2cb.data.length + i)

lemma subOf_subBody (stale : ℕ → UInt8) (h2cb : H2cb) (off : ℕ) :
    SubOf h2cb (subBody stale h2cb off) := by
  refine ⟨?_, prefix_append ..⟩
  have := le_align4Byte h2cb.data.length
  simp [subBody]
  omega

lemma subH2c_eq_frame (stale : ℕ → UInt8) (h2cb : H2cb) (off : ℕ) :
    subH2c stale h2cb off = frame (subBody stale h2cb off) := by
  unfold frame
  rw [(subOf_subBody stale h2cb off).length]
  simp [subH2c, subBody]

lemma SubOf.all_lt {h2cbs : List H2cb} {subs : List (List UInt8)}
    (h : List.Forall₂ SubOf h2cbs subs) : ∀ sub ∈ subs, sub.length < 2 ^ 32 := by
  induction h with
  | nil => nofun
  | @cons h2cb sub h2cbs subs hof _ ih =>
    refine forall_mem_cons.2 ⟨?_, ih⟩
    rw [hof.length]
    have := h2cb.short
    unfold align4Byte
    omega

structure AggH2cb.Holds (b : AggH2cb) (h2cbs : List H2cb) : Prop where
  subs : ∃ subs, b.payload = frames subs ∧ List.Forall₂ SubOf h2cbs subs
  aggLen : b.aggLen = wdBodyLen + fwcmdHdrLen + b.payload.length
  short : ∀ h2cb ∈ h2cbs, h2cPktAggregatable h2cb.data.length

lemma holds_start : AggH2cb.Holds ⟨[], wdBodyLen + fwcmdHdrLen⟩ [] :=
  ⟨⟨[], rfl, .nil⟩, rfl, nofun⟩

variable {b : AggH2cb} {h2cbs : List H2cb} {cur : H2cb} {rest : List H2cb}

lemma length_put (stale : ℕ → UInt8) : (b.put stale cur).payload.length
      = b.payload.length + align4Byte cur.data.length + h2cAggSubHdrLen := by
  have hsub := (subOf_subBody stale cur b.payload.length).length
  simp [AggH2cb.put, subH2c_eq_frame, length_frame, hsub, h2cAggSubHdrLen]
  omega

lemma AggH2cb.Holds.put (h : b.Holds h2cbs) (hcur : h2cPktAggregatable cur.data.length)
    (stale : ℕ → UInt8) : (b.put stale cur).Holds (h2cbs ++ [cur]) := by
  obtain ⟨subs, hpayload, hsubs⟩ := h.subs
  have haggLen := h.aggLen
  refine ⟨⟨subs ++ [subBody stale cur b.payload.length], ?_, ?_⟩, ?_, ?_⟩
  · rw [frames_append_singleton, ← hpayload, ← subH2c_eq_frame]
    rfl
  · exact rel_append hsubs (.cons (subOf_subBody ..) .nil)
  · rw [length_put]
    simp only [AggH2cb.put]
    omega
  · exact forall_mem_append.2 ⟨h.short, forall_mem_singleton.2 hcur⟩

lemma AggH2cb.Holds.carries (h : b.Holds h2cbs) (hne : h2cbs ≠ [])
    (hlen : b.aggLen < h2cLongDataLen) : H2cTx.Carries (.agg b.payload) h2cbs := by
  obtain ⟨subs, hpayload, hsubs⟩ := h.subs
  refine .agg hne ?_ hsubs (h.aggLen ▸ hlen) h.short
  rw [hpayload]
  exact split_frames (SubOf.all_lt hsubs)

def AggOpen (agg : Option AggH2cb) (h2cbs : List H2cb) : List H2cb → Prop
  | [] => agg = none ∧ h2cbs = []
  | cur :: _ => match agg with
    | none => h2cbs = []
    | some b => b.Holds h2cbs ∧
        b.aggLen + align4Byte cur.data.length + h2cAggSubHdrLen < h2cLongDataLen

lemma aggOpen_none : ∀ q : List H2cb, AggOpen none [] q
  | [] => ⟨rfl, rfl⟩
  | _ :: _ => rfl

lemma AggOpen.getD {agg : Option AggH2cb} (h : AggOpen agg h2cbs (cur :: rest))
    (hcur : ¬ (agg.isNone ∧ ¬ (h2cPktAggregatable cur.data.length ∧ nextAggregatable rest))) :
    (agg.getD ⟨[], wdBodyLen + fwcmdHdrLen⟩).Holds h2cbs ∧
      (agg.getD ⟨[], wdBodyLen + fwcmdHdrLen⟩).aggLen + align4Byte cur.data.length
        + h2cAggSubHdrLen < h2cLongDataLen := by
  rcases agg with _ | b
  · obtain rfl : h2cbs = [] := h
    have hshort : h2cPktAggregatable cur.data.length := by
      simp at hcur
      exact hcur.1
    refine ⟨holds_start, ?_⟩
    unfold h2cPktAggregatable at hshort
    simp
    omega
  · exact h

lemma AggH2cb.Holds.put_of_room (h : b.Holds h2cbs) (stale : ℕ → UInt8)
    (hroom : b.aggLen + align4Byte cur.data.length + h2cAggSubHdrLen < h2cLongDataLen) :
    (b.put stale cur).Holds (h2cbs ++ [cur]) ∧ (b.put stale cur).aggLen < h2cLongDataLen ∧
      (b.put stale cur).payload.length ≤ h2cLongDataLen := by
  have haggLen := h.aggLen
  have hshort : h2cPktAggregatable cur.data.length := by
    unfold h2cPktAggregatable
    omega
  refine ⟨h.put hshort stale, hroom, ?_⟩
  rw [length_put]
  omega

lemma AggH2cb.Holds.aggOpen (h : b.Holds h2cbs)
    (hnot : ¬ (rest = [] ∨
      h2cLongDataLen ≤ b.aggLen + align4Byte (nextH2cbLen rest) + h2cAggSubHdrLen)) :
    AggOpen (some b) h2cbs rest := by
  rw [not_or, not_le] at hnot
  rcases rest with _ | ⟨next, rest⟩
  · exact absurd rfl hnot.1
  · exact ⟨h, hnot.2⟩

lemma h2cAggTxLoop_carries {env : H2cAggEnv} (halloc : ∀ n, env.alloc n = true)
    (htx : ∀ n, env.tx n = .success) : ∀ (q : List H2cb) (agg : Option AggH2cb)
      (h2cbs : List H2cb) (sent : List H2cTx) (recycled : List H2cb) (groups : List (List H2cb)),
    AggOpen agg h2cbs q → List.Forall₂ H2cTx.Carries sent groups →
    (h2cAggTxLoop env q agg sent recycled).ret = .success ∧
      ∃ groups', List.Forall₂ H2cTx.Carries (h2cAggTxLoop env q agg sent recycled).sent groups' ∧
        groups'.flatten = groups.flatten ++ h2cbs ++ q
  | [], agg, h2cbs, sent, recycled, groups, hopen, hsent => by
    obtain ⟨-, rfl⟩ := hopen
    exact ⟨rfl, groups, hsent, by simp⟩
  | cur :: rest, agg, h2cbs, sent, recycled, groups, hopen, hsent => by
    unfold h2cAggTxLoop
    simp only [htx, halloc]
    split_ifs with hsingle hbuf hput hlast
    · -- a command of its own, sent while no aggregate is open
      obtain ⟨hnone, -⟩ := hsingle
      obtain rfl := isNone_iff_eq_none.1 hnone
      obtain rfl : h2cbs = [] := hopen
      obtain ⟨hret, groups', hcarries, hflat⟩ := h2cAggTxLoop_carries halloc htx rest none []
        (sent ++ [.normal cur]) recycled (groups ++ [[cur]]) (aggOpen_none rest)
        (rel_append hsent (.cons (.normal cur) .nil))
      exact ⟨hret, groups', hcarries, by simp [hflat]⟩
    · simp at hbuf
    all_goals
      obtain ⟨hbefore, hroom⟩ := hopen.getD hsingle
      obtain ⟨hholds, hlen, hcap⟩ := hbefore.put_of_room (env.stale sent.length) hroom
    · omega
    · obtain ⟨hret, groups', hcarries, hflat⟩ := h2cAggTxLoop_carries halloc htx rest none []
        (sent ++ [.agg _]) (recycled ++ [cur]) (groups ++ [h2cbs ++ [cur]]) (aggOpen_none rest)
        (rel_append hsent (.cons (hholds.carries (by simp) hlen) .nil))
      exact ⟨hret, groups', hcarries, by simp [hflat]⟩
    · -- the aggregate stays open for the next command, which fits
      obtain ⟨hret, groups', hcarries, hflat⟩ := h2cAggTxLoop_carries halloc htx rest (some _)
        (h2cbs ++ [cur]) sent (recycled ++ [cur]) groups (hholds.aggOpen hlast) hsent
      exact ⟨hret, groups', hcarries, by simp [hflat]⟩

theorem h2cAggTx_faithful (env : H2cAggEnv) (halloc : ∀ n, env.alloc n = true)
    (htx : ∀ n, env.tx n = .success) (s : H2cAggInfo) :
    ∃ c groups, macH2cAggTx env s = some (.success, c) ∧
      c.toH2cAggInfo = { s with queue := [], pktNum := 0 } ∧ groups.flatten = s.queue ∧
      List.Forall₂ H2cTx.Carries c.sent groups := by
  obtain ⟨hret, groups, hcarries, hflat⟩ :=
    h2cAggTxLoop_carries halloc htx s.queue none [] [] [] [] (aggOpen_none s.queue) .nil
  exact ⟨_, groups, if_pos hret, rfl, by simpa using hflat, hcarries⟩

/-- A queue of two commands that share an aggregate. -/
theorem h2cAggTx_faithful_two :
    ∃ c groups, macH2cAggTx ⟨fun _ => true, fun _ _ => 0, fun _ => .success, false⟩
        ⟨true, [⟨[1, 2, 3], by simp⟩, ⟨[4], by simp⟩], 2⟩ = some (.success, c) ∧
      c.toH2cAggInfo = ⟨true, [], 0⟩ ∧
      groups.flatten = [⟨[1, 2, 3], by simp⟩, ⟨[4], by simp⟩] ∧
      List.Forall₂ H2cTx.Carries c.sent groups :=
  h2cAggTx_faithful _ (fun _ => rfl) (fun _ => rfl) _

section Failure

def H2cTx.alone : H2cTx → Option H2cb
  | .normal h2cb => some h2cb
  | .agg _ => none

/-- A failed call as it should be: the lock is taken once and released once, the queue is empty, and
each command was sent by itself or recycled, once. -/
structure H2cAggClean (queue : List H2cb) (ret : MacStatus) (c : H2cAggCall) : Prop where
  error : ret ≠ .success
  lock : c.locks = [.lock, .unlock]
  empty : c.queue = []
  commands : c.sent.filterMap H2cTx.alone ++ c.recycled ~ queue

variable (env : H2cAggEnv)

lemma h2cAggTxLoop_commands : ∀ (q : List H2cb) (agg : Option AggH2cb) (sent : List H2cTx)
      (recycled : List H2cb),
    (h2cAggTxLoop env q agg sent recycled).sent.filterMap H2cTx.alone
        ++ ((h2cAggTxLoop env q agg sent recycled).recycled
          ++ (h2cAggTxLoop env q agg sent recycled).queue)
      ~ sent.filterMap H2cTx.alone ++ (recycled ++ q)
  | [], agg, sent, recycled => .rfl
  | cur :: rest, agg, sent, recycled => by
    unfold h2cAggTxLoop
    simp only
    split_ifs
    · split
      · refine (h2cAggTxLoop_commands rest _ _ _).trans ?_
        rw [filterMap_append, append_assoc]
        exact .append_left _ (perm_middle.symm : cur :: (recycled ++ rest) ~ _)
      · exact .rfl
    · exact .rfl
    · exact .rfl
    · split
      · refine (h2cAggTxLoop_commands rest _ _ _).trans ?_
        rw [filterMap_append, append_assoc, append_assoc]
        exact .rfl
      · simp
    · refine (h2cAggTxLoop_commands rest _ _ _).trans ?_
      simp

/-- With a signal the commands are in order and the lock is not; without one nothing returns. -/
lemma macH2cAggTx_failure {s : H2cAggInfo}
    (hfail : (h2cAggTxLoop env s.queue none [] []).ret ≠ .success) :
    env.signal = false ∧ macH2cAggTx env s = none ∨
      ∃ c, macH2cAggTx env s = some ((h2cAggTxLoop env s.queue none [] []).ret, c)
        ∧ c.locks = [.lock, .unlock, .unlock] ∧ c.queue = []
        ∧ c.sent.filterMap H2cTx.alone ++ c.recycled ~ s.queue := by
  rcases hsig : env.signal
  · exact .inl ⟨rfl, by simp [macH2cAggTx, macH2cAggFlush, hfail, hsig]⟩
  · refine .inr ⟨_, by simp [macH2cAggTx, macH2cAggFlush, hfail, hsig]; rfl, rfl,
      rfl, h2cAggTxLoop_commands env s.queue none [] []⟩

/-- No call is a clean failure. -/
theorem h2cAgg_failure_never_clean (s : H2cAggInfo) :
    ¬ ∃ ret c, macH2cAggTx env s = some (ret, c) ∧ H2cAggClean s.queue ret c := by
  rintro ⟨ret, c, hcall, hclean⟩
  by_cases hok : (h2cAggTxLoop env s.queue none [] []).ret = .success
  · cases (if_pos hok).symm.trans hcall
    exact hclean.error rfl
  · rcases macH2cAggTx_failure env hok with ⟨-, hnone⟩ | ⟨c', hsome, hlocks, -⟩
    · cases hnone.symm.trans hcall
    · cases hsome.symm.trans hcall
      cases hlocks.symm.trans hclean.lock

/-- The transfer of the only command fails. -/
theorem h2cAgg_lock_twice : macH2cAggTx ⟨fun _ => true, fun _ _ => 0, fun _ => .nobuf, false⟩
    ⟨true, [⟨[1, 2, 3], by simp⟩], 1⟩ = none := by
  decide

end Failure

end Rtl8852be

import Rtl8852be.BlockAck
import Rtl8852be.Lib.Run

/-!
# Which sessions a block-ack frame reaches

The TID of a frame has four bits and a station has eight sessions. Closing a session checks the
TID; opening one and moving its head do not.
-/

namespace Rtl8852be

variable {α : Type*}
variable (s : BaSta α) (env : BaCmdEnv) (frameBody : ℕ → UInt8)

/-- No slot of `tid_rx` beyond `TID_MAX_NUM` is used or written. -/
structure TidRxInside (s s' : BaSta α) : Prop where
  used : ∃ l, s'.used = s.used ++ l ∧ ∀ i ∈ l, i < tidMaxNum
  behind : ∀ i, tidMaxNum ≤ i → s'.tidRx i = s.tidRx i

structure TouchesTidRx (tid : ℕ) (s s' : BaSta α) : Prop where
  used : s'.used = s.used ++ [tid]
  others : ∀ i, i ≠ tid → s'.tidRx i = s.tidRx i

namespace TidRxInside

lemma refl : TidRxInside s s := ⟨⟨[], by simp⟩, fun _ _ => rfl⟩

lemma trans {s s' s'' : BaSta α} (h : TidRxInside s s') (h' : TidRxInside s' s'') :
    TidRxInside s s'' := by
  obtain ⟨⟨l, hl, hlt⟩, hb⟩ := h
  obtain ⟨⟨l', hl', hlt'⟩, hb'⟩ := h'
  refine ⟨⟨l ++ l', by rw [hl', hl, List.append_assoc], ?_⟩, fun i hi => ?_⟩
  · simp
    rintro i (hi | hi)
    · exact hlt i hi
    · exact hlt' i hi
  · rw [hb' i hi, hb i hi]

@[simp] lemma setReorderCtrl_iff (s s' : BaSta α) (tid : ℕ)
    (f : RecvReorderCtrl → RecvReorderCtrl) :
    TidRxInside s (s'.setReorderCtrl tid f) ↔ TidRxInside s s' :=
  ⟨fun h => ⟨h.used, h.behind⟩, fun h => ⟨h.used, h.behind⟩⟩

end TidRxInside

section

variable (parm : AddBaRspParm) (tid : ℕ) (s : BaSta α)

lemma TouchesTidRx.inside_iff {tid : ℕ} {s s' : BaSta α} (h : TouchesTidRx tid s s') :
    TidRxInside s s' ↔ tid < tidMaxNum := by
  constructor
  · rintro ⟨⟨l, hl, hlt⟩, -⟩
    rw [h.used, List.append_cancel_left_eq] at hl
    exact hlt tid (by simp [← hl])
  · intro htid
    exact ⟨⟨[tid], h.used, by simpa using htid⟩, fun i hi => h.others i (by omega)⟩

lemma touches_setTidRx (r : Option (RxCtx α)) (s : BaSta α) :
    TouchesTidRx tid s ((s.useTidRx tid).setTidRx tid r) :=
  ⟨rfl, fun i hi => by simp [BaSta.setTidRx, BaSta.useTidRx, hi]⟩

lemma touches_rtwPhlRxBarSta (seq : ℕ) (s : BaSta α) :
    TouchesTidRx tid s (rtwPhlRxBarSta tid seq s) := by
  unfold rtwPhlRxBarSta
  dsimp only
  split
  · exact ⟨rfl, fun _ _ => rfl⟩
  · exact touches_setTidRx _ _ _

lemma inside_rtwPhlStopRxBaSession : TidRxInside s (rtwPhlStopRxBaSession tid s) := by
  unfold rtwPhlStopRxBaSession
  split
  · exact .refl s
  dsimp only
  split
  · have h : TouchesTidRx tid s (s.useTidRx tid) := ⟨rfl, fun _ _ => rfl⟩
    exact h.inside_iff.2 (by omega)
  · exact (touches_setTidRx tid none s).inside_iff.2 (by omega)

@[local simp] lemma inside_rtwPhlStartRxBaSession_iff (alloc : Bool) (startSeqNum tid bufSize : ℕ)
    (s : BaSta α) :
    TidRxInside s (rtwPhlStartRxBaSession alloc startSeqNum 0 tid bufSize s).2
      ↔ (alloc = true → tid < tidMaxNum) := by
  cases alloc with
  | false => simp [rtwPhlStartRxBaSession, TidRxInside.refl]
  | true =>
    simp [rtwPhlStartRxBaSession]
    exact (touches_setTidRx tid _ s).inside_iff

lemma inside_addBaRspHdl_iff :
    TidRxInside s (addBaRspHdl env parm s)
      ↔ (env.known = true → parm.status = 0 → env.alloc = true → parm.tid < tidMaxNum) := by
  unfold addBaRspHdl
  by_cases hknown : env.known = true
  · by_cases hstatus : parm.status = 0
    · simp [hknown, hstatus]
    · simp [hknown, hstatus, TidRxInside.refl]
  · simp [hknown, TidRxInside.refl]

lemma inside_delbaHdl : TidRxInside s (delbaHdl env tid s) := by
  unfold delbaHdl
  split
  · exact inside_rtwPhlStopRxBaSession tid s
  · exact .refl s

lemma inside_onActionBack (env : BaActionEnv) (frameBody : ℕ → UInt8) (s : BaSta α) :
    TidRxInside s (onActionBack env frameBody s).1 := by
  unfold onActionBack
  split_ifs <;> simp [recvDelba, TidRxInside.refl]

/-- The frame is an ADDBA request for which a response is queued. -/
structure AddbaTaken (env : BaActionEnv) (frameBody : ℕ → UInt8) : Prop where
  raMatches : env.raMatches = true
  linked : env.fwApState = true ∨ env.assocSuccess = true
  known : env.known = true
  category : frameBody 0 = 3
  htEnable : env.htEnable = true
  action : frameBody 1 = 0
  accept : env.accept = true
  queued : env.queued = true

/-- The TID of an ADDBA request lies in the low byte of its parameter set. -/
def addbaTid (frameBody : ℕ → UInt8) : ℕ := (frameBody 3).toNat / 4 % 16

lemma addbaTid_eq : (AddbaRequest.ofBytes fun i => frameBody (i + 2)).baParaSet / 4 % 16
      = addbaTid frameBody := by
  simp only [AddbaRequest.ofBytes, getLe16, addbaTid, Nat.reduceAdd]
  omega

/-- A command that opens a session comes from an ADDBA request taken up, and has its TID. -/
lemma onActionBack_opens_iff (env : BaActionEnv) (frameBody : ℕ → UInt8) (s : BaSta α)
    (parm : AddBaRspParm) :
    (onActionBack env frameBody s).2 = some (.addBaRsp parm) ∧ parm.status = 0
      ↔ AddbaTaken env frameBody
        ∧ parm = ⟨addbaTid frameBody, getLe16 frameBody 7 / 16, 0, env.size⟩ := by
  constructor
  · rintro ⟨hcmd, hstatus⟩
    unfold onActionBack at hcmd
    split_ifs at hcmd with hguard hreq hdel
    · obtain ⟨hra, hlinked, hknown, hcat, hht⟩ := hguard
      simp only [processAddbaReq, addbaTid_eq, hknown, true_and] at hcmd
      split_ifs at hcmd with hqueued haccept
      · cases hcmd
        exact ⟨⟨hra, hlinked, hknown, hcat, hht, hreq, haccept, hqueued⟩, rfl⟩
      · -- a rejected request is answered with status 37
        cases hcmd
        cases hstatus
    · simp only [recvDelba] at hcmd
      split_ifs at hcmd
      cases hcmd
  · rintro ⟨h, rfl⟩
    refine ⟨?_, rfl⟩
    rw [onActionBack, if_pos ⟨h.raMatches, h.linked, h.known, h.category, h.htEnable⟩,
      if_pos h.action, processAddbaReq, if_pos ⟨h.known, h.queued⟩, addbaTid_eq, if_pos h.accept]
    rfl

end

/-- The action frame and the command it queues, handled in whatever state it finds, stay inside
`tid_rx`. -/
def ActionInside (env : BaActionEnv) (cmdEnv : BaCmdEnv) (frameBody : ℕ → UInt8)
    (s later : BaSta α) : Prop :=
  TidRxInside s (onActionBack env frameBody s).1
    ∧ ∀ c ∈ (onActionBack env frameBody s).2, TidRxInside later (baCmdHdl cmdEnv c later)

lemma actionInside_iff (env : BaActionEnv) (cmdEnv : BaCmdEnv) (frameBody : ℕ → UInt8)
    (s later : BaSta α) :
    ActionInside env cmdEnv frameBody s later
      ↔ (AddbaTaken env frameBody → cmdEnv.known = true → cmdEnv.alloc = true →
        addbaTid frameBody < tidMaxNum) := by
  constructor
  · rintro ⟨-, hcmd⟩ htaken hknown halloc
    have hopens := ((onActionBack_opens_iff env frameBody s _).2 ⟨htaken, rfl⟩).1
    exact (inside_addBaRspHdl_iff cmdEnv _ later).1 (hcmd _ hopens) hknown rfl halloc
  intro h
  refine ⟨inside_onActionBack env frameBody s, fun c hc => ?_⟩
  cases c with
  | delBa tid => exact inside_delbaHdl cmdEnv tid later
  | addBaRsp parm =>
    refine (inside_addBaRspHdl_iff cmdEnv parm later).2 fun hknown hstatus halloc => ?_
    obtain ⟨htaken, rfl⟩ := (onActionBack_opens_iff env frameBody s parm).1 ⟨hc, hstatus⟩
    exact h htaken hknown halloc

/-- The TID of a BlockAckReq is the high half of the second byte of its control field. -/
def barTid (pframe : ℕ → UInt8) : ℕ := (pframe 17).toNat / 16

lemma barTid_eq (pframe : ℕ → UInt8) : getLe16 pframe 16 / 4096 = barTid pframe := by
  have h := (pframe 16).toNat_lt
  simp only [getLe16, barTid, Nat.reduceAdd]
  omega

lemma inside_rtwProcessBarFrame_iff (known : Bool) (pframe : ℕ → UInt8) (s : BaSta α) :
    TidRxInside s (rtwProcessBarFrame known pframe s)
      ↔ (known = true → barTid pframe < tidMaxNum) := by
  cases known with
  | false => simp [rtwProcessBarFrame, TidRxInside.refl]
  | true =>
    simp [rtwProcessBarFrame, barTid_eq]
    have h := touches_rtwPhlRxBarSta (barTid pframe) (getLe16 pframe 18 / 16)
      (s.setReorderCtrl (barTid pframe) fun c => { c with indicateSeq := getLe16 pframe 18 / 16 })
    exact TouchesTidRx.inside_iff ⟨h.used, h.others⟩

/-- The frame names one of the eight sessions, or is not taken up. -/
def BaEvent.InRange : BaEvent → Prop
  | .action env frameBody => AddbaTaken env frameBody → addbaTid frameBody < tidMaxNum
  | .bar known pframe => known = true → barTid pframe < tidMaxNum
  | .cmd _ => True

def BaCmd.InRange : BaCmd → Prop
  | .addBaRsp parm => parm.status = 0 → parm.tid < tidMaxNum
  | .delBa _ => True

lemma BaCmd.InRange.inside {c : BaCmd} (h : c.InRange) (env : BaCmdEnv) (s : BaSta α) :
    TidRxInside s (baCmdHdl env c s) := by
  cases c with
  | addBaRsp parm => exact (inside_addBaRspHdl_iff env parm s).2 fun _ hstatus _ => h hstatus
  | delBa tid => exact inside_delbaHdl env tid s

lemma onActionBack_inRange {env : BaActionEnv} {frameBody : ℕ → UInt8}
    (h : (BaEvent.action env frameBody).InRange) (s : BaSta α) :
    ∀ c ∈ (onActionBack env frameBody s).2.toList, c.InRange := by
  intro c hc
  rw [Option.mem_toList] at hc
  cases c with
  | delBa tid => trivial
  | addBaRsp parm =>
    intro hstatus
    obtain ⟨htaken, rfl⟩ := (onActionBack_opens_iff env frameBody s parm).1 ⟨hc, hstatus⟩
    exact h htaken

structure BaSysInv (s₀ : BaSta α) (s : BaSys α) : Prop where
  inside : TidRxInside s₀ s.sta
  cmdq : ∀ c ∈ s.cmdq, c.InRange

lemma BaSysInv.step {s₀ : BaSta α} {s : BaSys α} {e : BaEvent} (h : BaSysInv s₀ s)
    (he : e.InRange) : BaSysInv s₀ (baStep s e) := by
  cases e with
  | action env frameBody =>
    exact ⟨h.inside.trans (inside_onActionBack env frameBody s.sta),
      List.forall_mem_append.2 ⟨h.cmdq, onActionBack_inRange he s.sta⟩⟩
  | bar known pframe =>
    exact ⟨h.inside.trans ((inside_rtwProcessBarFrame_iff known pframe s.sta).2 he), h.cmdq⟩
  | cmd env =>
    obtain ⟨sta, cmdq⟩ := s
    rcases cmdq with _ | ⟨c, cmdq⟩
    · exact h
    · have hc : c.InRange := h.cmdq c (by simp)
      exact ⟨h.inside.trans (hc.inside env sta),
        fun c' hc' => h.cmdq c' (List.mem_cons_of_mem c hc')⟩

/-- However frames and commands interleave, a run whose frames name sessions that exist uses no
other entry. -/
theorem baStep_run_inside (sta : BaSta α) (es : List BaEvent) (h : ∀ e ∈ es, e.InRange) :
    TidRxInside sta (Run.run baStep ⟨sta, []⟩ es).sta := by
  have hinv : BaSysInv sta (Run.run baStep ⟨sta, []⟩ es) :=
    Run.run_inv baStep (fun _ e => e.InRange) (fun _ _ hs he => hs.step he) es _
      ⟨.refl sta, by simp⟩ (Run.runOK_of_forall baStep es _ h)
  exact hinv.inside

theorem baStep_run_inside_three :
    let sta : BaSta Unit := ⟨fun _ => none, fun _ => ⟨false, 0, 0, false⟩, []⟩
    TidRxInside sta (Run.run baStep ⟨sta, []⟩
      [.action ⟨true, false, true, true, true, true, 64, true⟩ fun i => [3, 0, 1, 12].getD i 0,
        .cmd ⟨true, true⟩, .bar true fun _ => 0x30]).sta :=
  baStep_run_inside _ _ (by simp [BaEvent.InRange, addbaTid, barTid, tidMaxNum])

/-- Unless it is an ADDBA request for a TID of 8 or more that gets its session, or a BlockAckReq
that names such a TID. -/
theorem ba_frames_inside_iff (env : BaActionEnv) (cmdEnv : BaCmdEnv) (known : Bool)
    (frameBody pframe : ℕ → UInt8) (s later : BaSta α) :
    (ActionInside env cmdEnv frameBody s later
      ↔ (AddbaTaken env frameBody → cmdEnv.known = true → cmdEnv.alloc = true →
        addbaTid frameBody < tidMaxNum))
    ∧ (TidRxInside s (rtwProcessBarFrame known pframe s)
      ↔ (known = true → barTid pframe < tidMaxNum)) :=
  ⟨actionInside_iff env cmdEnv frameBody s later, inside_rtwProcessBarFrame_iff known pframe s⟩

/-- An ADDBA request for TID 8 that is accepted, and a BlockAckReq for TID 8, on a station without
sessions. -/
theorem ba_frames_tid_eight :
    let sta : BaSta Unit := ⟨fun _ => none, fun _ => ⟨false, 0, 0, false⟩, []⟩
    let env : BaActionEnv := ⟨true, false, true, true, true, true, 64, true⟩
    let addba : ℕ → UInt8 := fun i => [3, 0, 1, 0x20, 0x10, 0, 0, 0, 0].getD i 0
    let bar : ℕ → UInt8 := fun i => if i = 17 then 0x80 else 0
    (onActionBack env addba sta).2 = some (.addBaRsp ⟨8, 0, 0, 64⟩)
    ∧ (baCmdHdl ⟨true, true⟩ (.addBaRsp ⟨8, 0, 0, 64⟩) sta).used = [8]
    ∧ ¬ ActionInside env ⟨true, true⟩ addba sta sta
    ∧ (rtwProcessBarFrame true bar sta).used = [8]
    ∧ ¬ TidRxInside sta (rtwProcessBarFrame true bar sta) := by
  intro sta env addba bar
  have htaken : AddbaTaken env addba := ⟨rfl, Or.inr rfl, rfl, rfl, rfl, rfl, rfl, rfl⟩
  refine ⟨by decide, by decide, fun h => ?_, by decide, fun h => ?_⟩
  · exact absurd ((actionInside_iff _ _ _ _ _).1 h htaken rfl rfl) (by decide)
  · exact absurd ((inside_rtwProcessBarFrame_iff _ _ _).1 h rfl) (by decide)

end Rtl8852be

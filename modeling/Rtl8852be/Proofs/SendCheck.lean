import Rtl8852be.ModuleReg

/-!
# Senders and the bytes their ids reach

A foreground module has an id from 129 on, so its messages read behind the bitmap, the bits of the
basemap. While a request that ends has its last permit, any module passes for its owner.
-/

namespace Rtl8852be

namespace SendCheck

variable {env : SendEnv} {id : UInt8} {attr : Option SendAttr}

/-- No access to a bitmap goes beyond its `MODL_MASK_LEN` bytes. -/
def MsgMaps.Inside (m : MsgMaps) : Prop := ∀ x ∈ m.log, x.byte < modlMaskLen

lemma byte_lt_iff (id : UInt8) : id.toNat / 8 < modlMaskLen ↔ id.toNat < 128 := by
  rw [modlMaskLen]
  omega

namespace MsgMaps

@[simp] lemma inside_note (map : MapName) (id : UInt8) (m : MsgMaps) :
    (m.note map id).Inside ↔ m.Inside ∧ id.toNat < 128 := by
  simp only [Inside, note, List.mem_append, List.mem_singleton, ← byte_lt_iff]
  constructor
  · intro h
    exact ⟨fun x hx => h x (.inl hx), h _ (.inr rfl)⟩
  · rintro ⟨h, hid⟩ x (hx | rfl)
    · exact h x hx
    · exact hid

variable (f : ModlMask → ModuleId → ModlMask)

@[simp] lemma inside_updPre (m : MsgMaps) (id : UInt8) :
    (m.updPre f id).Inside ↔ m.Inside ∧ id.toNat < 128 := by
  rw [← inside_note .premap id m]
  simp only [updPre]
  split_ifs <;> rfl

@[simp] lemma inside_updPost (m : MsgMaps) (id : UInt8) :
    (m.updPost f id).Inside ↔ m.Inside ∧ id.toNat < 128 := by
  rw [← inside_note .postmap id m]
  simp only [updPost]
  split_ifs <;> rfl

lemma inside_foldl {g : MsgMaps → UInt8 → MsgMaps}
    (hg : ∀ m id, (g m id).Inside ↔ m.Inside ∧ id.toNat < 128) :
    ∀ (ids : List UInt8) (m : MsgMaps),
      (ids.foldl g m).Inside ↔ m.Inside ∧ ∀ id ∈ ids, id.toNat < 128
  | [], m => by simp
  | id :: ids, m => by
    rw [List.foldl_cons, inside_foldl hg ids, hg, List.forall_mem_cons, and_assoc]

@[simp] lemma inside_updBoth (ids : List UInt8) (m : MsgMaps) :
    (m.updBoth f ids).Inside ↔ m.Inside ∧ ∀ id ∈ ids, id.toNat < 128 := by
  rw [updBoth, inside_foldl (inside_updPost f), inside_foldl (inside_updPre f)]
  tauto

end MsgMaps

open MsgMaps Option

section

variable (reg : DisprReg) (env : SendEnv) (id : UInt8)

@[simp] lemma inside_addSender (m : MsgMaps) :
    (addSender reg id m).Inside ↔ m.Inside ∧ id.toNat < 128 := by
  simp only [addSender]
  split_ifs
  · simp only [inside_updBoth, inside_note, List.mem_singleton, forall_eq]
    tauto
  · exact inside_note .bitmap id m

def attrIds (attr : Option SendAttr) : List UInt8 := attr.elim [] SendAttr.ids

lemma inside_fillMaps (attr : Option SendAttr) (id : UInt8) (m : MsgMaps) :
    (fillMaps reg attr id m).Inside
      ↔ m.Inside ∧ id.toNat < 128 ∧ ∀ x ∈ attrIds attr, x.toNat < 128 := by
  have hset : (setMsgBitmap reg id m).Inside ↔ m.Inside ∧ id.toNat < 128 :=
    inside_addSender reg id _
  cases attr with
  | none => simp [fillMaps, attrIds, hset]
  | some attr =>
    have hskip : ∀ n : MsgMaps, (if attr.skipNotifyOptMdl then
        { n with premap := reg.basemap, postmap := reg.basemap } else n).Inside ↔ n.Inside := by
      intro n
      split_ifs <;> rfl
    simp [fillMaps, setMsgCustomBitmap, inside_addSender, inside_updBoth, hskip, hset, attrIds]
    tauto

lemma inside_getModuleById (m : MsgMaps) :
    (getModuleById env id m).2.Inside ↔ m.Inside ∧ (isDisprCtrl id = false → id.toNat < 128) := by
  unfold getModuleById
  split_ifs with h <;> simp [h]

lemma inside_sendAllowed (m : MsgMaps) :
    (sendAllowed env id m).2.Inside ↔ m.Inside ∧ (isDisprCtrl id = false → id.toNat < 128) := by
  unfold sendAllowed
  split_ifs with h <;> simp [h]

lemma lt_of_isDisprCtrl_imp : (isDisprCtrl id = false → id.toNat < 128) ↔ id.toNat < 128 := by
  refine ⟨fun h => ?_, fun h _ => h⟩
  by_cases hc : isDisprCtrl id = false
  · exact h hc
  · simp [isDisprCtrl] at hc
    omega

/-- A controller, a background module that is started, or the owner of the token. -/
def MaySend (env : SendEnv) (id : UInt8) : Prop :=
  id.toNat < 10
  ∨ (∃ a ∈ env.reg.linked, ∃ m, env.reg.heap a = some m ∧ m.id.val = id.toNat ∧ m.started = true)
  ∨ ∃ req ∈ env.curCmdReq, req.moduleId = id
      ∧ ((req.run = true ∧ req.cancel = false) ∨ req.lastPermit = true)

/-- The first three tests of `dispr_send_msg`. -/
def Checked (env : SendEnv) (attr : Option SendAttr) : Prop :=
  env.reg.started = true ∧ env.shallStop = false ∧ attr.any SendAttr.err = false

/-- A request that does not run any more has its last permit. -/
def AbortWindow (env : SendEnv) : Prop :=
  ∃ req ∈ env.curCmdReq, req.lastPermit = true
    ∧ (req.run = false ∨ req.cancel = true ∨ req.moduleId = mdlIdMax)

def RunningOwner (env : SendEnv) (id : UInt8) : Prop :=
  ∃ req ∈ env.curCmdReq, req.run = true ∧ req.cancel = false ∧ req.moduleId = id

lemma abortWindow_iff : AbortWindow env
      ↔ getCurCmdReqId env.curCmdReq = mdlIdMax ∧ reqLastPermit env.curCmdReq = true := by
  unfold AbortWindow getCurCmdReqId reqLastPermit
  rcases env.curCmdReq with _ | ⟨mid, run, cancel, last⟩
  · simp
  · cases run <;> cases cancel <;> cases last <;> simp

lemma runningOwner_iff (hid : id ≠ mdlIdMax) :
    RunningOwner env id ↔ getCurCmdReqId env.curCmdReq = id := by
  unfold RunningOwner getCurCmdReqId
  rcases env.curCmdReq with _ | ⟨mid, run, cancel, last⟩
  · simp [hid.symm]
  · cases run <;> cases cancel <;> simp [hid.symm]

/-- A controller, a set bit of the bitmap, the running owner, or its last permit. -/
def Admitted (env : SendEnv) (id : UInt8) : Prop :=
  id.toNat < 10 ∨ chkBitmapBit env.reg id = true ∨ (id ≠ mdlIdMax ∧ RunningOwner env id)
    ∨ AbortWindow env

lemma sendAllowed_iff (m : MsgMaps) : (sendAllowed env id m).1 = true ↔ Admitted env id := by
  have howner : id ≠ mdlIdMax ∧ RunningOwner env id
      ↔ getCurCmdReqId env.curCmdReq ≠ mdlIdMax ∧ getCurCmdReqId env.curCmdReq = id := by
    by_cases hid : id = mdlIdMax
    · subst hid
      tauto
    · rw [runningOwner_iff env id hid]
      exact ⟨fun h => ⟨h.2 ▸ hid, h.2⟩, fun h => ⟨hid, h.2⟩⟩
  unfold Admitted sendAllowed
  rw [howner, abortWindow_iff]
  split_ifs with hctrl
  · simp [isDisprCtrl] at hctrl
    simp [hctrl]
  · simp only [isDisprCtrl, decide_eq_true_eq] at hctrl
    simp only [hctrl, false_or, Bool.or_eq_true, Bool.not_eq_true', Bool.or_eq_false_iff,
      Bool.and_eq_false_iff, decide_eq_false_iff_not, not_not, Bool.not_eq_false']
    tauto

end

lemma getModuleById_fst (hid : ¬ id.toNat < 10) (env : SendEnv) (m : MsgMaps) :
    (getModuleById env id m).1 = (chkBitmapBit env.reg id && hasModule env.reg id) := by
  simp [getModuleById, isDisprCtrl, hid]

/-- Unless it passes for the owner of a request at its last permit and does not send in an abort. -/
lemma sendFilled_success_iff (h : ¬ MaySend env id) (attr : Option SendAttr) (m : MsgMaps) :
    (sendFilled env attr id m).1 = .success
      ↔ (chkBitmapBit env.reg id = true ∧ hasModule env.reg id = true) ∨ ¬ AbortWindow env
        ∨ attr.any (·.sendInAbort) = true := by
  have hctrl : ¬ id.toNat < 10 := fun hlt => h (.inl hlt)
  have hcur : getCurCmdReqId env.curCmdReq = id → id = mdlIdMax := by
    intro hid
    by_contra hne
    obtain ⟨req, hreq, hrun, hcancel, hmid⟩ := (runningOwner_iff env id hne).2 hid
    exact h (.inr (.inr ⟨req, hreq, hmid, .inl ⟨hrun, hcancel⟩⟩))
  have howner : (getCurCmdReqId env.curCmdReq = id ∨ getCurCmdReqId env.curCmdReq = mdlIdMax
      ∧ reqLastPermit env.curCmdReq = true) ∧ reqLastPermit env.curCmdReq = true
      ↔ AbortWindow env := by
    rw [abortWindow_iff]
    constructor
    · rintro ⟨hid | hw, hlast⟩
      · exact ⟨hid.trans (hcur hid), hlast⟩
      · exact hw
    · exact fun hw => ⟨.inr hw, hw.2⟩
  have hend : (!(getModuleById env id (fillMaps env.reg attr id m)).1 &&
      (decide (getCurCmdReqId env.curCmdReq = id) ||
        (decide (getCurCmdReqId env.curCmdReq = mdlIdMax) && reqLastPermit env.curCmdReq)) &&
      reqLastPermit env.curCmdReq && !attr.any (·.sendInAbort)) = true
      ↔ ¬ (chkBitmapBit env.reg id = true ∧ hasModule env.reg id = true) ∧ AbortWindow env
        ∧ ¬ attr.any (·.sendInAbort) = true := by
    rw [← howner, getModuleById_fst hctrl]
    simp only [Bool.and_eq_true, Bool.or_eq_true, decide_eq_true_eq, Bool.not_eq_true',
      Bool.and_eq_false_iff, Bool.not_eq_true, not_and_or, and_assoc]
  unfold sendFilled
  dsimp only
  split_ifs with hif <;> rw [hend] at hif
  · obtain ⟨hfound, hwindow, habort⟩ := hif
    refine iff_of_false (by simp) ?_
    rintro (hf | hw | ha)
    · exact hfound hf
    · exact hw hwindow
    · exact habort ha
  · refine iff_of_true rfl ?_
    rcases not_and_or.1 hif with hf | hrest
    · exact .inl (not_not.1 hf)
    · rcases not_and_or.1 hrest with hw | ha
      · exact .inr (.inl hw)
      · exact .inr (.inr (not_not.1 ha))

/-- Its bit is set and it does not end as the owner of the request, or it sends in an abort. -/
def LetsIn (env : SendEnv) (attr : Option SendAttr) (id : UInt8) : Prop :=
  (chkBitmapBit env.reg id = true ∧ (hasModule env.reg id = true ∨ ¬ AbortWindow env
    ∨ attr.any (·.sendInAbort) = true))
  ∨ (AbortWindow env ∧ attr.any (·.sendInAbort) = true)

lemma disprSendMsg_checked (h : Checked env attr) (id : UInt8) (behind : ModlMask) :
    disprSendMsg env attr id behind = let r := sendAllowed env id ⟨0, 0, behind, []⟩
        if r.1 = false then (.invalidParam, r.2)
        else if env.idleMsg = false then (.resource, r.2)
        else sendFilled env attr id r.2 := by
  obtain ⟨hstarted, hstop, herr⟩ := h
  simp [disprSendMsg, hstarted, hstop, herr]

lemma disprSendMsg_not_checked (h : ¬ Checked env attr) (id : UInt8) (behind : ModlMask) :
    (disprSendMsg env attr id behind).1 ≠ .success
      ∧ (disprSendMsg env attr id behind).2 = ⟨0, 0, behind, []⟩ := by
  unfold disprSendMsg
  split_ifs with hstarted hstop herr
  · exact ⟨by simp, rfl⟩
  · exact ⟨by simp, rfl⟩
  · exact ⟨by simp, rfl⟩
  all_goals
    refine absurd ?_ h
    exact ⟨by simpa using hstarted, by simpa using hstop, by simpa using herr⟩

lemma accepted_iff_letsIn (h : ¬ MaySend env id) (attr : Option SendAttr) (behind : ModlMask) :
    (disprSendMsg env attr id behind).1 = .success
      ↔ Checked env attr ∧ env.idleMsg = true ∧ LetsIn env attr id := by
  by_cases hchk : Checked env attr
  · rw [disprSendMsg_checked hchk]
    have hadm : Admitted env id ↔ chkBitmapBit env.reg id = true ∨ AbortWindow env := by
      have hctrl : ¬ id.toNat < 10 := fun hlt => h (.inl hlt)
      have howner : ¬ RunningOwner env id := by
        rintro ⟨req, hreq, hrun, hcancel, hmid⟩
        exact h (.inr (.inr ⟨req, hreq, hmid, .inl ⟨hrun, hcancel⟩⟩))
      simp [Admitted, hctrl, howner]
    dsimp only
    split_ifs with hall hidle
    · rw [← Bool.not_eq_true, sendAllowed_iff, hadm] at hall
      refine iff_of_false (by simp) ?_
      simp only [LetsIn]
      tauto
    · exact iff_of_false (by simp) (by simp [hidle])
    · rw [Bool.not_eq_false, sendAllowed_iff, hadm] at hall
      rw [sendFilled_success_iff h]
      simp [hchk, hidle, LetsIn]
      tauto
  · exact iff_of_false (disprSendMsg_not_checked hchk id behind).1 fun hacc => hchk hacc.1

lemma inside_disprSendMsg_iff (env : SendEnv) (attr : Option SendAttr) (id : UInt8)
    (behind : ModlMask) :
    (disprSendMsg env attr id behind).2.Inside ↔ (Checked env attr → id.toNat < 128
        ∧ (env.idleMsg = true → Admitted env id → ∀ x ∈ attrIds attr, x.toNat < 128)) := by
  have hempty : (⟨0, 0, behind, []⟩ : MsgMaps).Inside := by simp [Inside]
  by_cases hchk : Checked env attr
  · rw [disprSendMsg_checked hchk]
    have hallowed : (sendAllowed env id ⟨0, 0, behind, []⟩).2.Inside ↔ id.toNat < 128 := by
      rw [inside_sendAllowed, lt_of_isDisprCtrl_imp]
      exact and_iff_right hempty
    have hsnd : ∀ m, (sendFilled env attr id m).2.Inside
        ↔ m.Inside ∧ id.toNat < 128 ∧ ∀ x ∈ attrIds attr, x.toNat < 128 := by
      intro m
      have heq : (sendFilled env attr id m).2
          = (getModuleById env id (fillMaps env.reg attr id m)).2 := by
        simp only [sendFilled]
        split_ifs <;> rfl
      rw [heq, inside_getModuleById, lt_of_isDisprCtrl_imp, inside_fillMaps]
      tauto
    dsimp only
    split_ifs with hall hidle
    · rw [← Bool.not_eq_true, sendAllowed_iff] at hall
      tauto
    · rw [hallowed]
      simp [hchk, hidle]
    · rw [Bool.not_eq_false, sendAllowed_iff] at hall
      rw [hsnd, hallowed]
      simp at hidle
      tauto
  · rw [(disprSendMsg_not_checked hchk id behind).2]
    exact iff_of_true hempty fun h => absurd h hchk

/-- Exactly when it lets no other one in, and the ids that it comes to have a bit in the bitmaps. -/
theorem send_admission_bounds_iff (env : SendEnv) (attr : Option SendAttr) (id : UInt8)
    (behind : ModlMask) :
    (((disprSendMsg env attr id behind).1 = .success → MaySend env id)
      ↔ (Checked env attr → env.idleMsg = true → LetsIn env attr id → MaySend env id))
    ∧ ((disprSendMsg env attr id behind).2.Inside ↔ (Checked env attr → id.toNat < 128
        ∧ (env.idleMsg = true → Admitted env id → ∀ x ∈ attrIds attr, x.toNat < 128))) := by
  refine ⟨?_, inside_disprSendMsg_iff env attr id behind⟩
  by_cases h : MaySend env id
  · exact iff_of_true (fun _ => h) fun _ _ _ => h
  · rw [accepted_iff_letsIn h]
    tauto

def mrcReg : DisprReg where
  init := true
  started := true
  moduleQ := fun p => if p = .role then [0] else []
  heap := fun a => if a = 0 then some ⟨10, true, true⟩ else none
  bitmap := ModlMask.addBit 0 10
  basemap := ModlMask.addBit 0 10

/-- Module 130's message reads byte 16 of the bitmap; 138 is let in for the bit of 10 in the
basemap; 200 is let in during the last permit of 130; and module 10 writes byte 25, for a notified
id of 200. -/
theorem send_admission_bounds_fail :
    let scan : SendEnv := ⟨mrcReg, false, true, some ⟨130, true, false, false⟩, true⟩
    let quiet : SendEnv := ⟨mrcReg, false, true, none, true⟩
    let abort : SendEnv := ⟨mrcReg, false, true, some ⟨130, false, false, true⟩, true⟩
    let inAbort : SendAttr := ⟨false, false, true, none, 0⟩
    let notify : SendAttr := ⟨false, false, false, some fun _ => 200, 1⟩
    (disprSendMsg scan none 130 0).1 = .success
    ∧ ⟨.bitmap, 16⟩ ∈ (disprSendMsg scan none 130 0).2.log
    ∧ (disprSendMsg quiet none 138 0).1 = .success ∧ ¬ MaySend quiet 138
    ∧ (disprSendMsg abort (some inAbort) 200 0).1 = .success ∧ ¬ MaySend abort 200
    ∧ (disprSendMsg quiet (some notify) 10 0).1 = .success
    ∧ ⟨.premap, 25⟩ ∈ (disprSendMsg quiet (some notify) 10 0).2.log
    ∧ ⟨.postmap, 25⟩ ∈ (disprSendMsg quiet (some notify) 10 0).2.log := by
  intro scan quiet abort inAbort notify
  have hnode : ∀ a ∈ mrcReg.linked, ∀ m, mrcReg.heap a = some m → m.id.val = 10 := by
    intro a ha m hm
    obtain rfl := List.mem_singleton.1 ha
    rw [← some.inj hm]
    rfl
  refine ⟨by decide, by decide, by decide, ?_, by decide, ?_, by decide, by decide, by decide⟩
  · rintro (h | ⟨a, ha, m, hm, hid, -⟩ | ⟨req, hreq, -⟩)
    · simp at h
    · exact absurd ((hnode a ha m hm).symm.trans hid) (by decide)
    · cases hreq
  · rintro (h | ⟨a, ha, m, hm, hid, -⟩ | ⟨req, hreq, hid, -⟩)
    · simp at h
    · exact absurd ((hnode a ha m hm).symm.trans hid) (by decide)
    · rw [← some.inj hreq] at hid
      exact absurd hid (by decide)

end SendCheck

end Rtl8852be

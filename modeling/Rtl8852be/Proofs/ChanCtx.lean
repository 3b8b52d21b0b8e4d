import Rtl8852be.ChanCtx

/-!
# The contexts of a band share its roles out

Every role is in at most one context, the one its pointer names, no context is without roles, and
the mode is what the contexts say.
-/

namespace Rtl8852be

open List Keyed RtwChanCtx Nat Function

variable {wroleChandef : RoleIdx → ChanDef} {c : RtwChanCtx}

variable {r : RoleIdx}

section RoleMap

variable {r' : RoleIdx}

lemma lt_eight (r : RoleIdx) : (r : ℕ) < 8 := by
  have : (r : ℕ) < 5 := r.isLt
  omega

def RtwChanCtx.Low (c : RtwChanCtx) : Prop :=
  ∀ i, c.roleMap.getLsbD i = true → i < maxWifiRoleNumber

lemma hasRole_rmapSet : (c.rmapSet r).hasRole r' ↔ r' = r ∨ c.hasRole r' := by
  unfold hasRole rmapSet
  rw [BitVec.getLsbD_or, BitVec.getLsbD_twoPow, Bool.or_eq_true, or_comm, Bool.and_eq_true,
    decide_eq_true_eq, decide_eq_true_eq, Fin.val_inj]
  simp [lt_eight r, @eq_comm _ r r']

lemma hasRole_rmapClr : (c.rmapClr r).hasRole r' ↔ r' ≠ r ∧ c.hasRole r' := by
  unfold hasRole rmapClr
  rw [BitVec.getLsbD_and, BitVec.getLsbD_not, BitVec.getLsbD_twoPow, Bool.and_eq_true, and_comm]
  simp [lt_eight r, lt_eight r', Fin.val_inj, @eq_comm _ r r']

lemma low_rmapSet (h : c.Low) : (c.rmapSet r).Low := by
  intro i hi
  rw [rmapSet, BitVec.getLsbD_or, BitVec.getLsbD_twoPow, Bool.or_eq_true] at hi
  rcases hi with hi | hi
  · exact h i hi
  · simp at hi
    exact hi.2 ▸ r.isLt

lemma low_rmapClr (h : c.Low) : (c.rmapClr r).Low := by
  intro i hi
  rw [rmapClr, BitVec.getLsbD_and, Bool.and_eq_true] at hi
  exact h i hi.1

lemma mem_roles : r ∈ c.roles ↔ c.hasRole r := by
  simp [roles, mem_finRange]

lemma roles_nodup (c : RtwChanCtx) : c.roles.Nodup := (nodup_finRange _).filter _

lemma roleMap_ne_zero (h : c.hasRole r) : c.roleMap ≠ 0 := by
  intro hzero
  rw [hasRole, hzero] at h
  simp at h

lemma roleMap_disjoint {c' : RtwChanCtx} (hlow : c.Low)
    (h : ∀ r, c.hasRole r → ¬ c'.hasRole r) : c.roleMap &&& c'.roleMap = 0 := by
  refine BitVec.eq_of_getLsbD_eq fun i _ => ?_
  rw [BitVec.getLsbD_and, BitVec.ofNat_eq_ofNat, BitVec.getLsbD_zero]
  cases hi : c.roleMap.getLsbD i
  · rfl
  · have := h ⟨i, hlow i hi⟩ hi
    rw [hasRole, Bool.not_eq_true] at this
    rw [Bool.true_and, this]

lemma roles_rmapClr (h : c.hasRole r) : (c.rmapClr r).getRnum + 1 = c.getRnum := by
  have hroles : (c.rmapClr r).roles = c.roles.erase r := by
    rw [(roles_nodup c).erase_eq_filter, roles, roles, filter_filter]
    refine filter_congr fun r' _ => ?_
    rw [Bool.eq_iff_iff, hasRole_rmapClr]
    simp
  have hpos := length_pos_of_mem (mem_roles.2 h)
  rw [getRnum, getRnum, hroles, length_erase_of_mem (mem_roles.2 h)]
  omega

lemma hasRole_iff_of_rnum (h : c.getRnum = 1) (hr : c.hasRole r) : c.hasRole r' ↔ r' = r := by
  obtain ⟨r₀, hroles⟩ := length_eq_one_iff.1 h
  have hmem : ∀ r', c.hasRole r' ↔ r' = r₀ := fun r' => by rw [← mem_roles, hroles]; simp
  rw [hmem, (hmem r).1 hr]

end RoleMap

namespace HwBandCtl

def getCtx (s : HwBandCtl) (a : ℕ) : Option RtwChanCtx := get addr s.chanCtxQueue.items a

def InCtx (s : HwBandCtl) (a : ℕ) (r : RoleIdx) : Prop := ∃ c, s.getCtx a = some c ∧ c.hasRole r

end HwBandCtl

structure ChanctxInv (s : HwBandCtl) : Prop where
  counted : s.chanCtxQueue.Counted
  atMostTwo : s.chanCtxQueue.items.length ≤ 2
  distinct : Keyed.Distinct addr s.chanCtxQueue.items
  allocated : ∀ c ∈ s.chanCtxQueue.items, c.addr < s.allocs
  low : ∀ c ∈ s.chanCtxQueue.items, c.Low
  nonEmpty : ∀ c ∈ s.chanCtxQueue.items, ∃ r, c.hasRole r
  chanctx : ∀ r a, s.chanctx r = some a ↔ s.InCtx a r

variable {s : HwBandCtl} {a : ℕ}

section Moves

variable {s' : HwBandCtl}

lemma chanctx_enter (h : ∀ r a, s.chanctx r = some a ↔ s.InCtx a r) (hr : s.chanctx r = none)
    (hs' : s'.chanctx = update s.chanctx r (some a))
    (hin : ∀ a' r', s'.InCtx a' r' ↔ (a' = a ∧ r' = r) ∨ s.InCtx a' r') (r' : RoleIdx) (a' : ℕ) :
    s'.chanctx r' = some a' ↔ s'.InCtx a' r' := by
  rw [hin, ← h, hs']
  by_cases hr' : r' = r
  · subst hr'
    simp [hr, eq_comm]
  · simp [hr']

lemma chanctx_leave (h : ∀ r a, s.chanctx r = some a ↔ s.InCtx a r)
    (hs' : s'.chanctx = update s.chanctx r none)
    (hin : ∀ a' r', s'.InCtx a' r' ↔ r' ≠ r ∧ s.InCtx a' r') (r' : RoleIdx) (a' : ℕ) :
    s'.chanctx r' = some a' ↔ s'.InCtx a' r' := by
  rw [hin, ← h, hs']
  by_cases hr' : r' = r <;> simp [hr']

section

variable (h : ChanctxInv s)
include h

lemma ChanctxInv.addr_eq {a' : ℕ} (hin : s.InCtx a r) (hin' : s.InCtx a' r) : a = a' :=
  Option.some.inj (((h.chanctx r a).2 hin).symm.trans ((h.chanctx r a').2 hin'))

lemma ChanctxInv.hasRole (hr : s.chanctx r = some a)
    (hget : s.getCtx a = some c) : c.hasRole r := by
  obtain ⟨c', hget', hhas⟩ := (h.chanctx r a).1 hr
  rwa [Option.some.inj (hget.symm.trans hget')]

lemma ChanctxInv.ne_of_inCtx (hr : s.chanctx r = some a) {a' : ℕ}
    {r' : RoleIdx} (ha : a' ≠ a) (hin : s.InCtx a' r') : r' ≠ r := by
  rintro rfl
  exact ha (h.addr_eq hin ((h.chanctx r' a).1 hr))

lemma ChanctxInv.create (hr : s.chanctx r = none)
    (hlen : s.chanCtxQueue.items.length ≤ 1) (hc : c.addr = s.allocs) (hlow : c.Low)
    (hrole : ∀ r', c.hasRole r' ↔ r' = r)
    (hs' : s' = { s with
      chanCtxQueue := s.chanCtxQueue.pushTail c
      chanctx := update s.chanctx r (some s.allocs)
      allocs := s.allocs + 1 }) : ChanctxInv s' := by
  have hfresh : s.getCtx s.allocs = none := get_eq_none.2 fun c' hc' => (h.allocated c' hc').ne
  have hget : ∀ a', s'.getCtx a' = (s.getCtx a').or (if c.addr = a' then some c else none) := by
    intro a'
    rw [hs']
    exact get_append_singleton
  have hin : ∀ a' r', s'.InCtx a' r' ↔ (a' = s.allocs ∧ r' = r) ∨ s.InCtx a' r' := by
    intro a' r'
    unfold HwBandCtl.InCtx
    rw [hget, hc]
    by_cases ha : a' = s.allocs
    · simp [ha, hfresh, hrole]
    · simp [ha, Ne.symm ha]
  have hmem : ∀ c' ∈ s'.chanCtxQueue.items, c' ∈ s.chanCtxQueue.items ∨ c' = c := by
    intro c' hc'
    simpa [hs'] using hc'
  refine ⟨hs' ▸ h.counted.pushTail c, ?_, ?_, fun c' hc' => ?_, fun c' hc' => ?_, fun c' hc' => ?_,
    chanctx_enter h.chanctx hr (by rw [hs']) hin⟩
  · rw [hs', CntQueue.pushTail_items, length_append, length_singleton]
    omega
  · rw [hs']
    exact h.distinct.append_singleton (hc ▸ hfresh)
  · have hallocs : s'.allocs = s.allocs + 1 := by rw [hs']
    rcases hmem c' hc' with hold | rfl
    · have := h.allocated c' hold
      omega
    · omega
  · rcases hmem c' hc' with hold | rfl
    · exact h.low c' hold
    · exact hlow
  · rcases hmem c' hc' with hold | rfl
    · exact h.nonEmpty c' hold
    · exact ⟨r, (hrole r).2 rfl⟩

lemma ChanctxInv.modify (hget : s.getCtx a = some c)
    (haddr : ∀ c, (f c).addr = c.addr) (hlow : (f c).Low) (hrole : ∃ r, (f c).hasRole r)
    (hs' : s'.chanCtxQueue = ⟨modify addr a f s.chanCtxQueue.items, s.chanCtxQueue.cnt⟩)
    (hallocs : s'.allocs = s.allocs) (hchanctx : ∀ r a, s'.chanctx r = some a ↔ s'.InCtx a r) :
    ChanctxInv s' := by
  have hmem : ∀ c' ∈ s'.chanCtxQueue.items, c' ∈ s.chanCtxQueue.items ∨ c' = f c := by
    rw [hs']
    exact fun c' hc' => Keyed.mem_modify_of_get hget hc'
  have hlen : (Keyed.modify addr a f s.chanCtxQueue.items).length
      = s.chanCtxQueue.items.length := Keyed.length_modify a f _
  refine ⟨?_, ?_, ?_, fun c' hc' => ?_, fun c' hc' => ?_, fun c' hc' => ?_, hchanctx⟩
  · rw [hs', CntQueue.Counted, hlen]
    exact h.counted
  · rw [hs', hlen]
    exact h.atMostTwo
  · rw [hs']
    exact h.distinct.modify haddr
  · rw [hallocs]
    rcases hmem c' hc' with hold | rfl
    · exact h.allocated c' hold
    · rw [haddr]
      exact h.allocated c (mem_of_get hget)
  · rcases hmem c' hc' with hold | rfl
    · exact h.low c' hold
    · exact hlow
  · rcases hmem c' hc' with hold | rfl
    · exact h.nonEmpty c' hold
    · exact hrole

end

lemma inCtx_modify (hget : s.getCtx a = some c) (haddr : ∀ c, (f c).addr = c.addr)
    (hs' : s'.chanCtxQueue = ⟨modify addr a f s.chanCtxQueue.items, s.chanCtxQueue.cnt⟩) (a' : ℕ)
    (r' : RoleIdx) : s'.InCtx a' r' ↔ (a' = a ∧ (f c).hasRole r') ∨ (a' ≠ a ∧ s.InCtx a' r') := by
  unfold HwBandCtl.InCtx HwBandCtl.getCtx at *
  rw [hs']
  by_cases ha : a' = a
  · rw [ha, get_modify_self haddr, hget]
    simp
  · rw [get_modify_of_ne haddr ha]
    simp [ha]

lemma ChanctxInv.join (h : ChanctxInv s) (hr : s.chanctx r = none) (hget : s.getCtx a = some c)
    (d : ChanDef) : ChanctxInv
      ((s.modifyCtx a fun c => (c.rmapSet r).setChanDef d).setChanctx r (some a)) := by
  have haddr : ∀ c : RtwChanCtx, ((c.rmapSet r).setChanDef d).addr = c.addr := fun _ => rfl
  have hrole : ∀ r', ((c.rmapSet r).setChanDef d).hasRole r' ↔ r' = r ∨ c.hasRole r' :=
    fun r' => hasRole_rmapSet
  have hlow : ((c.rmapSet r).setChanDef d).Low := low_rmapSet (h.low c (mem_of_get hget))
  refine h.modify hget haddr hlow ⟨r, (hrole r).2 (.inl rfl)⟩ rfl rfl
    (chanctx_enter h.chanctx hr rfl fun a' r' => ?_)
  rw [inCtx_modify hget haddr rfl, hrole]
  by_cases ha : a' = a
  · simp [ha, HwBandCtl.InCtx, hget]
  · simp [ha]

section

variable (h : ChanctxInv s) (hr : s.chanctx r = some a) (hget : s.getCtx a = some c)
include h hr hget

lemma ChanctxInv.leave (hmany : c.getRnum ≠ 1)
    (hf : ∀ c, (f c).addr = c.addr ∧ (f c).roleMap = (c.rmapClr r).roleMap) :
    ChanctxInv ((s.setChanctx r none).modifyCtx a f) := by
  have hrole : ∀ r', (f c).hasRole r' ↔ r' ≠ r ∧ c.hasRole r' := by
    intro r'
    rw [← hasRole_rmapClr, RtwChanCtx.hasRole, (hf c).2]
    rfl
  have hlow : (f c).Low := by
    have := low_rmapClr (r := r) (h.low c (mem_of_get hget))
    unfold RtwChanCtx.Low at *
    rwa [(hf c).2]
  have hother : ∃ r', (f c).hasRole r' := by
    have hrnum := roles_rmapClr (h.hasRole hr hget)
    obtain ⟨r', hr'⟩ := exists_mem_of_length_pos (l := (c.rmapClr r).roles)
      (by rw [getRnum] at hrnum; omega)
    exact ⟨r', (hrole r').2 (hasRole_rmapClr.1 (mem_roles.1 hr'))⟩
  refine h.modify hget (fun c => (hf c).1) hlow hother rfl rfl
    (chanctx_leave h.chanctx rfl fun a' r' => ?_)
  rw [inCtx_modify hget (fun c => (hf c).1) rfl, hrole]
  by_cases ha : a' = a
  · simp [ha, HwBandCtl.InCtx, hget]
  · simpa [ha] using h.ne_of_inCtx hr ha

lemma ChanctxInv.drop (hone : c.getRnum = 1)
    (hs' : s' = { s.setChanctx r none with chanCtxQueue :=
      ⟨remove addr a s.chanCtxQueue.items, s.chanCtxQueue.cnt - 1⟩ }) :
    ChanctxInv s' := by
  have hsub : ∀ c' ∈ s'.chanCtxQueue.items, c' ∈ s.chanCtxQueue.items := by
    rw [hs']
    exact fun c' hc' => mem_of_mem_eraseP hc'
  have hlen := length_remove hget
  have hin : ∀ a' r', s'.InCtx a' r' ↔ r' ≠ r ∧ s.InCtx a' r' := by
    intro a' r'
    by_cases ha : a' = a
    · subst ha
      have hgone : s'.getCtx a' = none := by
        rw [hs']
        exact h.distinct.get_remove_self
      simp [HwBandCtl.InCtx, hgone, hget, hasRole_iff_of_rnum hone (h.hasRole hr hget)]
    · have hkept : s'.getCtx a' = s.getCtx a' := by
        rw [hs']
        exact get_remove_of_ne ha _
      have hiff : s'.InCtx a' r' ↔ s.InCtx a' r' := by
        unfold HwBandCtl.InCtx
        rw [hkept]
      rw [hiff]
      exact ⟨fun hin => ⟨h.ne_of_inCtx hr ha hin, hin⟩, And.right⟩
  have hitems : s'.chanCtxQueue.items.length = s.chanCtxQueue.items.length - 1 := by
    rw [hs', ← hlen]
  refine ⟨?_, ?_, ?_, fun c' hc' => ?_, fun c' hc' => h.low c' (hsub c' hc'),
    fun c' hc' => h.nonEmpty c' (hsub c' hc'), chanctx_leave h.chanctx (by rw [hs']; rfl) hin⟩
  · have hcnt : s'.chanCtxQueue.cnt = s.chanCtxQueue.cnt - 1 := by rw [hs']
    rw [CntQueue.Counted, hcnt, hitems, h.counted]
  · have := h.atMostTwo
    omega
  · rw [hs']
    exact h.distinct.remove
  · rw [hs']
    exact h.allocated c' (hsub c' hc')

end

lemma ChanctxInv.setOpMode (h : ChanctxInv s) (mode : MrOpMode) :
    ChanctxInv { s with opMode := mode } :=
  ⟨h.counted, h.atMostTwo, h.distinct, h.allocated, h.low, h.nonEmpty, h.chanctx⟩

end Moves

@[local simp] def opModeOf : List RtwChanCtx → MrOpMode
  | [] => .non
  | [c] => if 2 ≤ c.getRnum then .scc else .non
  | _ => .mcc

lemma opModeOf_eq_mcc : ∀ {cs : List RtwChanCtx}, cs.length ≤ 2 →
    (opModeOf cs = .mcc ↔ cs.length = 2)
  | [], _ => by simp
  | [c], _ => by
    simp only [opModeOf]
    split_ifs <;> simp
  | [c, c'], _ => by simp

lemma opModeOf_eq_scc : ∀ {cs : List RtwChanCtx},
    opModeOf cs = .scc ↔ ∃ c, cs = [c] ∧ 2 ≤ c.getRnum
  | [] => by simp
  | [c] => by
    simp only [opModeOf]
    split_ifs with hrnum <;> simp [hrnum]
  | _ :: _ :: _ => by simp

lemma addOpMode_eq (h : ChanctxInv s) (hne : s.chanCtxQueue.items ≠ []) :
    addOpMode s = opModeOf s.chanCtxQueue.items := by
  have hcnt : s.chanCtxQueue.cnt = s.chanCtxQueue.items.length := h.counted
  have htwo := h.atMostTwo
  unfold addOpMode
  rcases hitems : s.chanCtxQueue.items with _ | ⟨c, _ | ⟨c', _ | ⟨_, _⟩⟩⟩ <;> rw [hitems] at hcnt
  · exact absurd hitems hne
  · simp [hcnt]
  · simp [hcnt]
  · simp [hitems] at htwo

lemma delFinish_opMode (h : ChanctxInv s) (target : RtwChanCtx) :
    (delFinish target s).2 = { s with opMode := opModeOf s.chanCtxQueue.items } := by
  have hcnt : s.chanCtxQueue.cnt = s.chanCtxQueue.items.length := h.counted
  have htwo := h.atMostTwo
  unfold delFinish
  rcases hitems : s.chanCtxQueue.items with _ | ⟨c, _ | ⟨c', _ | ⟨_, _⟩⟩⟩ <;> rw [hitems] at hcnt
  · simp [hcnt]
  · obtain ⟨r, hr⟩ := h.nonEmpty c (by simp [hitems])
    have hpos : 0 < c.getRnum := length_pos_of_mem (mem_roles.2 hr)
    have hmode : (if c.getRnum = 1 then MrOpMode.non else .scc)
        = if 2 ≤ c.getRnum then .scc else .non := by
      split_ifs <;> first | rfl | omega
    simp [hcnt, hmode]
  · simp [hcnt]
  · simp [hitems] at htwo

lemma opModeOf_modify {a : ℕ} (hget : s.getCtx a = some c) (hbefore : 2 ≤ c.getRnum)
    (hafter : 2 ≤ (f c).getRnum) :
    opModeOf (modify addr a f s.chanCtxQueue.items)
      = opModeOf s.chanCtxQueue.items := by
  unfold HwBandCtl.getCtx at hget
  generalize s.chanCtxQueue.items = cs at hget ⊢
  rcases cs with _ | ⟨c₀, _ | ⟨c₁, cs⟩⟩
  · rfl
  · rw [Keyed.get_cons] at hget
    split_ifs at hget with haddr
    · cases hget
      simp [Keyed.modify, haddr, hbefore, hafter]
    · simp at hget
  · unfold Keyed.modify
    split_ifs
    · rfl
    · unfold Keyed.modify
      split_ifs <;> rfl

lemma rnum_of_chandefSync (h : phlMrChandefSync wroleChandef c = none) (hne : c.getRnum ≠ 0) :
    2 ≤ c.getRnum := by
  unfold phlMrChandefSync getRnum at *
  rcases hroles : c.roles with _ | ⟨r, _ | ⟨r', rs⟩⟩ <;> rw [hroles] at h hne
  · exact absurd rfl hne
  · simp [chandefSyncLoop] at h
  · simp

/-- Only a role without a context is added. -/
def ChanctxOK (s : HwBandCtl) : ChanctxEv → Prop
  | .add r _ _ => s.chanctx r = none
  | .del _ _ => True

section Step

def AddResult (s : HwBandCtl) (ok : Bool) (s' : HwBandCtl) : Prop :=
  match ok with
  | false => s' = s
  | true => ChanctxInv s' ∧ s'.chanCtxQueue.items ≠ []

lemma phlChanctxCreate_result (h : ChanctxInv s) (hr : s.chanctx r = none)
    (hlen : s.chanCtxQueue.items.length ≤ 1) (alloc : Bool) (band : BandType) (req : ChanReq) :
    AddResult s (phlChanctxCreate alloc r band req s).1
      (phlChanctxCreate alloc r band req s).2 := by
  unfold phlChanctxCreate
  cases alloc
  · rfl
  have hempty : ∀ d ch, RtwChanCtx.Low ⟨s.allocs, d, ch, 0⟩ := by
    intro d ch i hi
    simp at hi
  refine ⟨h.create hr hlen rfl (low_rmapSet (hempty _ _)) (fun r' => ?_) rfl, by simp⟩
  rw [hasRole_rmapSet]
  simp [hasRole]

lemma phlChanctxAdd_result (h : ChanctxInv s) (hr : s.chanctx r = none) (cfg : ChanCfg)
    (alloc : Bool) (req : ChanReq) :
    AddResult s (phlChanctxAdd cfg alloc r req s).1 (phlChanctxAdd cfg alloc r req s).2.2 := by
  have hcnt : s.chanCtxQueue.cnt = s.chanCtxQueue.items.length := h.counted
  unfold phlChanctxAdd
  by_cases hzero : s.chanCtxQueue.cnt = 0
  · rw [if_pos hzero]
    exact phlChanctxCreate_result h hr (by omega) alloc _ req
  rw [if_neg hzero]
  rcases hfind : s.chanCtxQueue.items.find? (fun c => isChbwGrouped c.chanDef req) with _ | c
  · simp only [hfind]
    split_ifs with hmcc htwo hdbcc
    · rfl
    · rfl
    · rfl
    · exact phlChanctxCreate_result h hr (by omega) alloc _ req
  · have hget : s.getCtx c.addr = some c := h.distinct.get_of_mem (mem_of_find?_eq_some hfind)
    simp only [hfind]
    refine ⟨h.join hr hget _, fun hnil => ?_⟩
    have hlen := congrArg length hnil
    simp only [HwBandCtl.setChanctx, HwBandCtl.modifyCtx, Keyed.length_modify, length_nil]
      at hlen
    omega

section

variable (h : ChanctxInv s) (hmode : s.opMode = opModeOf s.chanCtxQueue.items)
include h hmode

lemma ChanctxInv.add (hr : s.chanctx r = none) (cfg : ChanCfg) (alloc : Bool) (req : ChanReq) :
    ChanctxInv (rtwPhlChanctxAdd cfg alloc r req s).2.2 ∧
      (rtwPhlChanctxAdd cfg alloc r req s).2.2.opMode
        = opModeOf (rtwPhlChanctxAdd cfg alloc r req s).2.2.chanCtxQueue.items := by
  unfold rtwPhlChanctxAdd
  split_ifs
  · exact ⟨h, hmode⟩
  · exact ⟨h, hmode⟩
  have hres := phlChanctxAdd_result h hr cfg alloc req
  rcases hadd : phlChanctxAdd cfg alloc r req s with ⟨_ | _, req', s'⟩ <;> rw [hadd] at hres
  · obtain rfl : s' = s := hres
    exact ⟨h, hmode⟩
  · obtain ⟨hinv, hne⟩ : ChanctxInv s' ∧ s'.chanCtxQueue.items ≠ [] := hres
    exact ⟨hinv.setOpMode _, addOpMode_eq hinv hne⟩

lemma ChanctxInv.del (wroleChandef : RoleIdx → ChanDef) :
    ChanctxInv (rtwPhlChanctxDel wroleChandef r s).2.2 ∧
      (rtwPhlChanctxDel wroleChandef r s).2.2.opMode
        = opModeOf (rtwPhlChanctxDel wroleChandef r s).2.2.chanCtxQueue.items := by
  unfold rtwPhlChanctxDel
  rcases hr : s.chanctx r with _ | a
  · exact ⟨h, hmode⟩
  obtain ⟨c, hget, hhas⟩ := (h.chanctx r a).1 hr
  have haddr : c.addr = a := key_of_get hget
  have hget' : get addr s.chanCtxQueue.items a = some c := hget
  have hrnum := roles_rmapClr hhas
  simp [hget', haddr]
  split_ifs with hexit hone
  · exact ⟨h, hmode⟩
  · have hinv := h.drop hr hget hone rfl
    rw [delFinish_opMode hinv]
    exact ⟨hinv.setOpMode _, rfl⟩
  rcases hsync : phlMrChandefSync wroleChandef (c.rmapClr r) with _ | d
  · -- the mode is not recomputed, and does not have to be
    have htwo := rnum_of_chandefSync hsync (by omega)
    refine ⟨h.leave hr hget hone fun c => ⟨rfl, rfl⟩, ?_⟩
    exact hmode.trans (opModeOf_modify hget (by omega) htwo).symm
  · have hinv := h.leave hr hget hone (f := fun c => (c.rmapClr r).setChanDef d)
      fun c => ⟨rfl, rfl⟩
    rw [delFinish_opMode hinv]
    exact ⟨hinv.setOpMode _, rfl⟩

end

lemma chanctxInv_step (cfg : ChanCfg) {ev : ChanctxEv} (h : ChanctxInv s)
    (hmode : s.opMode = opModeOf s.chanCtxQueue.items) (hok : ChanctxOK s ev) :
    ChanctxInv (chanctxStep cfg s ev) ∧
      (chanctxStep cfg s ev).opMode = opModeOf (chanctxStep cfg s ev).chanCtxQueue.items := by
  cases ev with
  | add r req alloc => exact h.add hmode hok cfg alloc req
  | del r wroleChandef => exact h.del hmode wroleChandef

lemma chanctxInv_init : ChanctxInv hwBandInit :=
  ⟨rfl, by simp [hwBandInit], nodup_nil, nofun, nofun, nofun,
    fun r a => ⟨nofun, fun ⟨c, hget, _⟩ => nomatch hget⟩⟩

end Step

/-- At most two contexts, none without roles and no role in two; a role's pointer names the context
that has its bit. -/
structure ChanctxShared (s : HwBandCtl) : Prop where
  atMostTwo : s.chanCtxQueue.items.length ≤ 2
  nonEmpty : ∀ c ∈ s.chanCtxQueue.items, c.roleMap ≠ 0
  disjoint : s.chanCtxQueue.items.Pairwise fun c c' =>
    c.addr ≠ c'.addr ∧ c.roleMap &&& c'.roleMap = 0
  chanctx : ∀ r a, s.chanctx r = some a ↔ ∃ c ∈ s.chanCtxQueue.items, c.addr = a ∧ c.hasRole r
  cnt : s.chanCtxQueue.cnt = s.chanCtxQueue.items.length
  mcc : s.opMode = .mcc ↔ s.chanCtxQueue.items.length = 2
  scc : s.opMode = .scc ↔ ∃ c, s.chanCtxQueue.items = [c] ∧ 2 ≤ c.getRnum

lemma ChanctxInv.inCtx_iff (h : ChanctxInv s) {a : ℕ} {r : RoleIdx} :
    s.InCtx a r ↔ ∃ c ∈ s.chanCtxQueue.items, c.addr = a ∧ c.hasRole r := by
  constructor
  · rintro ⟨c, hget, hr⟩
    exact ⟨c, mem_of_get hget, key_of_get hget, hr⟩
  · rintro ⟨c, hmem, rfl, hr⟩
    exact ⟨c, h.distinct.get_of_mem hmem, hr⟩

lemma ChanctxInv.disjoint (h : ChanctxInv s) :
    s.chanCtxQueue.items.Pairwise fun c c' => c.addr ≠ c'.addr ∧ c.roleMap &&& c'.roleMap = 0 := by
  have hne : s.chanCtxQueue.items.Pairwise fun c c' => c.addr ≠ c'.addr := pairwise_map.1 h.distinct
  refine hne.imp_of_mem fun {c c'} hc hc' haddr => ⟨haddr, ?_⟩
  refine roleMap_disjoint (h.low c hc) fun r hr hr' => haddr ?_
  exact h.addr_eq (h.inCtx_iff.2 ⟨c, hc, rfl, hr⟩) (h.inCtx_iff.2 ⟨c', hc', rfl, hr'⟩)

lemma ChanctxInv.shared (h : ChanctxInv s) (hmode : s.opMode = opModeOf s.chanCtxQueue.items) :
    ChanctxShared s := by
  refine ⟨h.atMostTwo, fun c hc => ?_, h.disjoint, fun r a => (h.chanctx r a).trans h.inCtx_iff,
    h.counted, ?_, ?_⟩
  · obtain ⟨r, hr⟩ := h.nonEmpty c hc
    exact roleMap_ne_zero hr
  · rw [hmode]
    exact opModeOf_eq_mcc h.atMostTwo
  · rw [hmode]
    exact opModeOf_eq_scc

theorem chanctx_shared_run (cfg : ChanCfg) (evs : List ChanctxEv)
    (hok : Run.RunOK (chanctxStep cfg) ChanctxOK hwBandInit evs) :
    ChanctxShared (Run.run (chanctxStep cfg) hwBandInit evs) := by
  obtain ⟨hinv, hmode⟩ := Run.run_inv (chanctxStep cfg) ChanctxOK
    (P := fun s => ChanctxInv s ∧ s.opMode = opModeOf s.chanCtxQueue.items)
    (fun s ev h hok => chanctxInv_step cfg h.1 h.2 hok) evs hwBandInit ⟨chanctxInv_init, rfl⟩ hok
  exact hinv.shared hmode

/-- Two roles share a channel, a third one gets another, and the first role goes. -/
theorem chanctx_shared_three : ChanctxShared (Run.run (chanctxStep ⟨true, false, false⟩) hwBandInit
      [.add 0 ⟨36, .w20, .noExt⟩ true, .add 1 ⟨36, .w80, .upper⟩ true,
        .add 2 ⟨6, .w20, .noExt⟩ true, .del 0 fun _ => ⟨.on5g, 36, .w80, .upper⟩]) :=
  chanctx_shared_run _ _ ⟨rfl, rfl, rfl, trivial, trivial⟩

section Center

variable {d : ChanDef}

def ChanDef.center (d : ChanDef) : ℕ := rtwPhlGetCenterCh d.chan d.bw d.offset

structure CenterInv (s : HwBandCtl) : Prop where
  distinct : Keyed.Distinct addr s.chanCtxQueue.items
  allocated : ∀ c ∈ s.chanCtxQueue.items, c.addr < s.allocs
  center : ∀ c ∈ s.chanCtxQueue.items, c.centerCh = c.chanDef.center

lemma CenterInv.modify (h : CenterInv s) (hget : s.getCtx a = some c)
    (haddr : ∀ c, (f c).addr = c.addr) (hf : (f c).centerCh = (f c).chanDef.center) :
    CenterInv (s.modifyCtx a f) where
  distinct := h.distinct.modify haddr
  allocated := fun c' hc' => by
    rcases mem_modify_of_get hget hc' with hold | rfl
    · exact h.allocated c' hold
    · exact haddr c ▸ h.allocated c (mem_of_get hget)
  center := fun c' hc' => by
    rcases mem_modify_of_get hget hc' with hold | rfl
    · exact h.center c' hold
    · exact hf

lemma CenterInv.create (h : CenterInv s) (alloc : Bool) (r : RoleIdx) (band : BandType)
    (req : ChanReq) : CenterInv (phlChanctxCreate alloc r band req s).2 := by
  cases alloc with
  | false => exact h
  | true =>
    have hfresh : s.getCtx s.allocs = none := get_eq_none.2 fun c' hc' => (h.allocated c' hc').ne
    exact ⟨h.distinct.append_singleton hfresh, forall_mem_append.2
      ⟨fun c' hc' => lt_succ_of_lt (h.allocated c' hc'), forall_mem_singleton.2 (lt_succ_self _)⟩,
      forall_mem_append.2 ⟨h.center, forall_mem_singleton.2 rfl⟩⟩

/-- The width that `_phl_adjust_chandef` compares, unless it lacks an offset. -/
def ChanReq.width (req : ChanReq) (g : ChanDef) : ChannelWidth :=
  if req.bw = .w80 ∧ g.chan ≤ 14 then .w40 else req.bw

lemma adjustChandef_bw (req : ChanReq) (g : ChanDef) :
    (adjustChandef req g).1.bw.toNat ≤ (req.width g).toNat := by
  have hoffset : ∀ req : ChanReq, (adjustOffset g req).bw.toNat ≤ req.bw.toNat := by
    intro req
    simp only [adjustOffset]
    split_ifs <;> simp [ChannelWidth.toNat]
  simp only [adjustChandef, ChanReq.width]
  by_cases h24 : req.bw = .w80 ∧ g.chan ≤ 14
  · simpa only [if_pos h24] using hoffset _
  simp only [if_neg h24]
  split
  · exact hoffset _
  · exact hoffset _
  · exact le_refl _
  all_goals exact le_refl _

lemma adjustChandef_narrow {req : ChanReq} {g : ChanDef}
    (h : (req.width g).toNat ≤ g.bw.toNat) : (adjustChandef req g).2 = g :=
  if_neg (not_lt.2 ((adjustChandef_bw req g).trans h))

lemma chandefSyncLoop_center : ∀ {acc : ChanDef} {ds : List ChanDef},
    chandefSyncLoop acc ds = some d → ∃ e ∈ acc :: ds, d.center = e.center
  | acc, [], h => ⟨acc, by simp, by rw [← Option.some.inj h]⟩
  | acc, e :: ds, h => by
    rw [chandefSyncLoop] at h
    split_ifs at h with _ hchan _ _
    · obtain ⟨e', he', hd⟩ := chandefSyncLoop_center h
      rcases mem_cons.1 he' with rfl | hmem
      · refine ⟨e, by simp, hd.trans ?_⟩
        simp only [ChanDef.center, not_not.1 hchan]
      · exact ⟨e', by simp [hmem], hd⟩
    · obtain ⟨e', he', hd⟩ := chandefSyncLoop_center h
      refine ⟨e', ?_, hd⟩
      rcases mem_cons.1 he' with rfl | hmem <;> simp_all

lemma phlMrChandefSync_center (h : phlMrChandefSync wroleChandef c = some d) :
    ∃ r, c.hasRole r ∧ d.center = (wroleChandef r).center := by
  unfold phlMrChandefSync at h
  split at h
  · cases h
  rename_i e es hmap
  obtain ⟨e', he', hd⟩ := chandefSyncLoop_center h
  rw [← hmap] at he'
  obtain ⟨r, hr, rfl⟩ := mem_map.1 he'
  exact ⟨r, mem_roles.1 hr, hd⟩

def HwBandCtl.ctxOf (s : HwBandCtl) (r : RoleIdx) : Option RtwChanCtx :=
  (s.chanctx r).bind (get addr s.chanCtxQueue.items)

/-- A role that joins is not wider than the group, and where a group is synchronised its roles have
the center channel it has. -/
def CenterOK (s : HwBandCtl) : ChandefEv → Prop
  | .chanctx (.add _ req _) =>
    ∀ c ∈ s.chanCtxQueue.items.find? (fun c => isChbwGrouped c.chanDef req),
      (req.width c.chanDef).toNat ≤ c.chanDef.bw.toNat
  | .chanctx (.del r wroleChandef) =>
    ∀ c ∈ s.ctxOf r, ∀ r', c.hasRole r' → r' ≠ r → (wroleChandef r').center = c.chanDef.center
  | .upt r wroleChandef =>
    ∀ c ∈ s.ctxOf r, ∀ r', c.hasRole r' → (wroleChandef r').center = c.chanDef.center

lemma CenterInv.add (h : CenterInv s) (cfg : ChanCfg) (alloc : Bool) (r : RoleIdx)
    (req : ChanReq) (hok : CenterOK s (.chanctx (.add r req alloc))) :
    CenterInv (phlChanctxAdd cfg alloc r req s).2.2 := by
  unfold phlChanctxAdd
  by_cases hzero : s.chanCtxQueue.cnt = 0
  · rw [if_pos hzero]
    exact h.create alloc r _ req
  rw [if_neg hzero]
  rcases hfind : s.chanCtxQueue.items.find? (fun c => isChbwGrouped c.chanDef req) with _ | c
  · simp only [hfind]
    split_ifs
    · exact h
    · exact h
    · exact h
    · exact h.create alloc r _ req
  · simp only [hfind, adjustChandef_narrow (hok c hfind)]
    have hmem := mem_of_find?_eq_some hfind
    have hset := h.modify (h.distinct.get_of_mem hmem)
      (f := fun c' => (c'.rmapSet r).setChanDef c.chanDef) (fun _ => rfl) (h.center c hmem)
    exact ⟨hset.distinct, hset.allocated, hset.center⟩

lemma delFinish_ctl (target : RtwChanCtx) (s : HwBandCtl) :
    ∃ mode, (delFinish target s).2 = { s with opMode := mode } := by
  unfold delFinish
  repeat' split
  all_goals exact ⟨_, rfl⟩

lemma getCtx_of_ctxOf (h : s.ctxOf r = some c) : s.getCtx c.addr = some c := by
  obtain ⟨a, -, hget⟩ := Option.bind_eq_some_iff.1 h
  rwa [← key_of_get hget] at hget

lemma CenterInv.del (h : CenterInv s) (wroleChandef : RoleIdx → ChanDef)
    (hok : CenterOK s (.chanctx (.del r wroleChandef))) :
    CenterInv (rtwPhlChanctxDel wroleChandef r s).2.2 := by
  unfold rtwPhlChanctxDel
  rcases hc : (s.chanctx r).bind (get addr s.chanCtxQueue.items) with _ | c
  · exact h
  have hget := getCtx_of_ctxOf hc
  have hcenter := h.center c (mem_of_get hget)
  dsimp only
  split_ifs
  · exact h
  · obtain ⟨mode, hfin⟩ := delFinish_ctl c { s.setChanctx r none with chanCtxQueue :=
      ⟨remove addr c.addr s.chanCtxQueue.items, s.chanCtxQueue.cnt - 1⟩ }
    rw [hfin]
    exact ⟨h.distinct.remove, fun c' hc' => h.allocated c' (mem_of_mem_eraseP hc'),
      fun c' hc' => h.center c' (mem_of_mem_eraseP hc')⟩
  · rcases hsync : phlMrChandefSync wroleChandef (c.rmapClr r) with _ | d
    · have hclr := h.modify hget (f := (·.rmapClr r)) (fun _ => rfl) hcenter
      exact ⟨hclr.distinct, hclr.allocated, hclr.center⟩
    · obtain ⟨r', hr', hd⟩ := phlMrChandefSync_center hsync
      obtain ⟨hne, hhas⟩ := hasRole_rmapClr.1 hr'
      have hset := h.modify hget (f := fun c => (c.rmapClr r).setChanDef d) (fun _ => rfl)
        (hcenter.trans ((hok c hc r' hhas hne).symm.trans hd.symm))
      obtain ⟨mode, hfin⟩ := delFinish_ctl ((c.rmapClr r).setChanDef d)
        ((s.setChanctx r none).modifyCtx c.addr fun c => (c.rmapClr r).setChanDef d)
      rw [hfin]
      exact ⟨hset.distinct, hset.allocated, hset.center⟩

lemma CenterInv.upt (h : CenterInv s) (wroleChandef : RoleIdx → ChanDef)
    (hok : CenterOK s (.upt r wroleChandef)) :
    CenterInv (rtwPhlMrUptChandef wroleChandef r s) := by
  unfold rtwPhlMrUptChandef
  rcases hc : (s.chanctx r).bind (get addr s.chanCtxQueue.items) with _ | c
  · exact h
  rcases hsync : phlMrChandefSync wroleChandef c with _ | d
  · simpa only [hsync] using h
  have hget := getCtx_of_ctxOf hc
  obtain ⟨r', hr', hd⟩ := phlMrChandefSync_center hsync
  simp only [hsync]
  exact h.modify hget (fun _ => rfl)
    ((h.center c (mem_of_get hget)).trans ((hok c hc r' hr').symm.trans hd.symm))

lemma CenterInv.step (h : CenterInv s) (cfg : ChanCfg) {ev : ChandefEv} (hok : CenterOK s ev) :
    CenterInv (chandefStep cfg s ev) := by
  cases ev with
  | chanctx ev =>
    cases ev with
    | add r req alloc =>
      have hadd := h.add cfg alloc r req hok
      simp only [chandefStep, chanctxStep, rtwPhlChanctxAdd]
      split_ifs
      · exact h
      · exact h
      · rcases hres : phlChanctxAdd cfg alloc r req s with ⟨_ | _, req', s'⟩ <;> rw [hres] at hadd
        · exact hadd
        · exact ⟨hadd.distinct, hadd.allocated, hadd.center⟩
    | del r wroleChandef => exact h.del wroleChandef hok
  | upt r wroleChandef => exact h.upt wroleChandef hok

/-- In every run whose steps meet the condition, in every state. -/
theorem center_ch_run (cfg : ChanCfg) (evs : List ChandefEv)
    (hok : Run.RunOK (chandefStep cfg) CenterOK hwBandInit evs) (evs' : List ChandefEv)
    (hp : evs' <+: evs) : ∀ c ∈ (Run.run (chandefStep cfg) hwBandInit evs').chanCtxQueue.items,
      c.centerCh = rtwPhlGetCenterCh c.chanDef.chan c.chanDef.bw c.chanDef.offset :=
  (Run.run_inv (chandefStep cfg) CenterOK (fun _ _ (h : CenterInv _) hok => h.step cfg hok) evs'
    hwBandInit ⟨nodup_nil, nofun, nofun⟩ (hok.of_prefix hp)).center

/-- A role joins another one on its channel, which goes. -/
def joinedRun : List ChandefEv :=
  [.chanctx (.add 0 ⟨36, .w80, .upper⟩ true), .chanctx (.add 1 ⟨36, .w40, .upper⟩ true),
    .chanctx (.del 0 fun _ => ⟨.on5g, 36, .w80, .upper⟩)]

theorem center_ch_joined :
    Run.RunOK (chandefStep ⟨true, false, false⟩) CenterOK hwBandInit joinedRun ∧
      ∀ c ∈ (Run.run (chandefStep ⟨true, false, false⟩) hwBandInit joinedRun).chanCtxQueue.items,
        c.centerCh = rtwPhlGetCenterCh c.chanDef.chan c.chanDef.bw c.chanDef.offset := by
  refine ⟨?hok, center_ch_run _ _ ?hok _ (prefix_refl _)⟩
  refine ⟨fun c hc => ?_, fun c hc => ?_, fun c hc r' _ _ => ?_, trivial⟩
  · cases hc
  · cases hc
    decide
  · cases hc
    rfl

/-- A role of 80 MHz joins one of 20 MHz: the center channel is still 36, and should be 42. -/
theorem center_ch_widened : ¬ ∀ c ∈ (Run.run (chandefStep ⟨true, false, false⟩) hwBandInit
      [.chanctx (.add 0 ⟨36, .w20, .noExt⟩ true),
        .chanctx (.add 1 ⟨36, .w80, .upper⟩ true)]).chanCtxQueue.items,
      c.centerCh = rtwPhlGetCenterCh c.chanDef.chan c.chanDef.bw c.chanDef.offset := by
  decide

end Center

end Rtl8852be

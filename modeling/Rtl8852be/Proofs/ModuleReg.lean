import Rtl8852be.ModuleReg

/-!
# What a registration leaves behind

The node is linked before the callbacks run and is not unlinked when one of them fails, and the
test for an id that is in use looks at a bit of the started modules.
-/

namespace Rtl8852be

open Function DisprReg List Option

variable {s : DisprReg} {io : RegIo} {id : ℕ} {ops : Option BkModuleOps} {a : ℕ} {p : MdlPriority}

namespace DisprReg

lemma linked_congr {s' : DisprReg} (h : s'.moduleQ = s.moduleQ) : s'.linked = s.linked := by
  simp only [linked, h]

lemma linked_pqPush_perm (s : DisprReg) (p : MdlPriority) (a : ℕ) :
    (s.pqPush p a).linked.Perm (a :: s.linked) := by
  rw [perm_iff_count]
  intro b
  cases p <;> simp [linked, count_cons, count_append] <;> omega

end DisprReg

def RegIo.Ok (io : RegIo) (s : DisprReg) : Prop :=
  io.initRet = .success ∧ (s.started = true → io.startRet = .success)

def DisprReg.withModule (p : MdlPriority) (a : ℕ) (id : ModuleId) (s : DisprReg) : DisprReg :=
  let s := (s.pqPush p a).setNode a ⟨id, true, s.started⟩
  if s.started then s.addBits p id else s

lemma linkModule_ok (h : io.Ok s) (p : MdlPriority) (a : ℕ) (id : ModuleId) :
    linkModule io p a ⟨id, false, false⟩ s = (.success, s.withModule p a id) := by
  obtain ⟨hinit, hstart⟩ := h
  cases hs : s.started with
  | false =>
    simp [hinit, withModule, hs]
  | true =>
    simp [startModule, bkModuleStart, hinit, hstart hs, withModule, addBits, hs]

lemma linkModule_fail (h : ¬ io.Ok s) (p : MdlPriority) (a : ℕ) (id : ModuleId) :
    linkModule io p a ⟨id, false, false⟩ s = (.failure, (s.pqPush p a).free a) := by
  by_cases hinit : io.initRet = .success
  · have hs : s.started = true := by
      by_contra hs
      exact h ⟨hinit, fun hs' => absurd hs' hs⟩
    have hstart : io.startRet ≠ .success := fun hret => h ⟨hinit, fun _ => hret⟩
    simp [startModule, bkModuleStart, hinit, hstart, free, hs]
  · simp [hinit, free]

lemma DisprReg.moduleQ_withModule (p : MdlPriority) (a : ℕ) (id : ModuleId) (s : DisprReg) :
    (s.withModule p a id).moduleQ = (s.pqPush p a).moduleQ := by
  simp only [withModule]
  split_ifs <;> rfl

lemma DisprReg.linked_withModule_perm {id : ModuleId} :
    (s.withModule p a id).linked.Perm (a :: s.linked) := by
  rw [linked_congr (s.moduleQ_withModule p a id)]
  exact s.linked_pqPush_perm p a

lemma DisprReg.heap_withModule (p : MdlPriority) (a : ℕ) (id : ModuleId) (s : DisprReg) :
    (s.withModule p a id).heap = update s.heap a (some ⟨id, true, s.started⟩) := by
  simp only [withModule]
  split_ifs <;> rfl

lemma mdlPriorityOf_eq_none : mdlPriorityOf id = none ↔ id < 10 ∨ 128 ≤ id := by
  unfold mdlPriorityOf
  split_ifs with h
  · have hlt : (⟨id, h⟩ : ModuleId) < 10 ↔ id < 10 := Iff.rfl
    simp [getMdlPriority, hlt]
    split_ifs <;> simp <;> omega
  · simp
    omega

lemma mdlPriorityOf_eq_some {i : ModuleId} :
    mdlPriorityOf id = some (i, p) ↔ i.val = id ∧ getMdlPriority i = some p := by
  unfold mdlPriorityOf
  split_ifs with h
  · simp only [map_eq_some_iff, Prod.mk.injEq]
    constructor
    · rintro ⟨q, hq, rfl, rfl⟩
      exact ⟨rfl, hq⟩
    · rintro ⟨rfl, hp⟩
      exact ⟨p, hp, rfl, rfl⟩
  · simp only [false_iff]
    rintro ⟨rfl, -⟩
    exact h i.isLt

/-- A check of `dispr_register_module` fails, or the allocation. -/
def RegRejected (io : RegIo) (id : ℕ) (ops : Option BkModuleOps) (s : DisprReg) : Prop :=
  id < 10 ∨ 128 ≤ id ∨ s.init = false ∨ chkModuleOps ops = false
    ∨ (s.bitmap.getLsbD id = true ∧ id % 8 = 0) ∨ io.alloc = none

lemma disprRegisterModule_rejected (h : RegRejected io id ops s) :
    disprRegisterModule io id ops s = (.failure, s) := by
  unfold disprRegisterModule
  rcases hp : mdlPriorityOf id with _ | ⟨i, p⟩
  · rfl
  have hid := (mdlPriorityOf_eq_some.1 hp).1
  have hrange := mdlPriorityOf_eq_none.not.1 (hp ▸ some_ne_none _)
  by_cases hguard : s.init = false ∨ chkModuleOps ops = false ∨ chkBitmapBitTrue s.bitmap i
  · simp only [if_pos hguard]
  simp only [if_neg hguard]
  have halloc : io.alloc = none := by
    subst hid
    simp only [chkBitmapBitTrue, ModlMask.chkBit, Bool.and_eq_true, beq_iff_eq] at hguard
    simp only [RegRejected] at h
    tauto
  rw [halloc]

lemma disprRegisterModule_linked (h : ¬ RegRejected io id ops s) :
    ∃ i p a, i.val = id ∧ getMdlPriority i = some p ∧ io.alloc = some a
      ∧ disprRegisterModule io id ops s = linkModule io p a ⟨i, false, false⟩ s := by
  simp only [RegRejected, not_or] at h
  obtain ⟨hlo, hhi, hinit, hops, hbit, halloc⟩ := h
  rcases hp : mdlPriorityOf id with _ | ⟨i, p⟩
  · rcases mdlPriorityOf_eq_none.1 hp with h | h
    · exact absurd h hlo
    · exact absurd h hhi
  obtain ⟨a, ha⟩ := ne_none_iff_exists'.1 halloc
  obtain ⟨hid, hprio⟩ := mdlPriorityOf_eq_some.1 hp
  refine ⟨i, p, a, hid, hprio, ha, ?_⟩
  subst hid
  have hchk : ¬ chkBitmapBitTrue s.bitmap i = true := by
    simpa [chkBitmapBitTrue, ModlMask.chkBit] using hbit
  simp [disprRegisterModule, hp, hinit, hops, hchk, ha]

/-- The module is linked once and the only one of its id, or queues and bitmaps are as before and no
freed node is linked. -/
def RegAtomic (io : RegIo) (id : ℕ) (s : DisprReg) (r : PhlStatus × DisprReg) : Prop :=
  (r.1 = .success ∧ ∃ a ∈ io.alloc, r.2.linked.count a = 1
    ∧ (∃ m, r.2.heap a = some m ∧ m.id.val = id)
    ∧ ∀ b ∈ r.2.linked, b ≠ a → ∀ m, r.2.heap b = some m → m.id.val ≠ id)
  ∨ (r.1 ≠ .success ∧ r.2.moduleQ = s.moduleQ ∧ r.2.bitmap = s.bitmap
    ∧ r.2.basemap = s.basemap ∧ ∀ a ∈ r.2.linked, r.2.heap a = none → s.heap a = none)

/-- The handlers succeed, the memory is unused, and no module linked has the id. -/
structure RegClean (io : RegIo) (id : ℕ) (s : DisprReg) : Prop where
  ok : io.Ok s
  fresh : ∀ a ∈ io.alloc, a ∉ s.linked
  unused : ∀ b ∈ s.linked, ∀ m, s.heap b = some m → m.id.val ≠ id

lemma RegClean.atomic (h : RegClean io id s) (ha : io.alloc = some a) {i : ModuleId}
    (hid : i.val = id) (p : MdlPriority) : RegAtomic io id s (.success, s.withModule p a i) := by
  have hperm : (s.withModule p a i).linked.Perm (a :: s.linked) := linked_withModule_perm
  have hfresh : a ∉ s.linked := h.fresh a ha
  refine .inl ⟨rfl, a, ha, ?_, ⟨⟨i, true, s.started⟩, ?_, hid⟩, fun b hb hne m hm => ?_⟩
  · rw [hperm.count_eq, count_cons_self, count_eq_zero.2 hfresh]
  · rw [heap_withModule, update_self]
  rw [heap_withModule, update_of_ne hne] at hm
  rcases mem_cons.1 (hperm.subset hb) with rfl | hb
  · exact absurd rfl hne
  · exact h.unused b hb m hm

lemma regClean_of_atomic (ha : io.alloc = some a) (i : ModuleId) (p : MdlPriority)
    (hok : io.Ok s) (h : RegAtomic io id s (.success, s.withModule p a i)) : RegClean io id s := by
  have hperm : (s.withModule p a i).linked.Perm (a :: s.linked) := linked_withModule_perm
  rcases h with ⟨-, a', ha', hcount, -, hother⟩ | ⟨hne, -⟩
  · obtain rfl : a = a' := some.inj (ha.symm.trans ha')
    rw [hperm.count_eq, count_cons_self, Nat.add_eq_right] at hcount
    have hfresh : a ∉ s.linked := count_eq_zero.1 hcount
    refine ⟨hok, fun b hb => ?_, fun b hb m hm => ?_⟩
    · obtain rfl : a = b := some.inj (ha.symm.trans hb)
      exact hfresh
    · have hne : b ≠ a := fun he => hfresh (he ▸ hb)
      refine hother b (hperm.symm.subset (mem_cons_of_mem a hb)) hne m ?_
      rw [heap_withModule, update_of_ne hne, hm]
  · exact absurd rfl hne

lemma not_regAtomic_fail (io : RegIo) (id : ℕ) (s : DisprReg) (p : MdlPriority) (a : ℕ) :
    ¬ RegAtomic io id s (.failure, (s.pqPush p a).free a) := by
  rintro (⟨hsucc, -⟩ | ⟨-, hq, -⟩)
  · cases hsucc
  · have h := congrFun hq p
    simp [free] at h

/-- It is turned away before the node is linked, or the callbacks come through and neither id nor
node is in use. -/
theorem register_atomic_iff (io : RegIo) (id : ℕ) (ops : Option BkModuleOps) (s : DisprReg) :
    RegAtomic io id s (disprRegisterModule io id ops s)
      ↔ RegRejected io id ops s ∨ RegClean io id s := by
  by_cases hrej : RegRejected io id ops s
  · rw [disprRegisterModule_rejected hrej]
    refine iff_of_true (.inr ?_) (.inl hrej)
    exact ⟨by simp, rfl, rfl, rfl, fun _ _ h => h⟩
  obtain ⟨i, p, a, hid, -, ha, heq⟩ := disprRegisterModule_linked hrej
  rw [heq]
  by_cases hok : io.Ok s
  · rw [linkModule_ok hok]
    constructor
    · exact fun h => .inr (regClean_of_atomic ha i p hok h)
    · rintro (h | h)
      · exact absurd h hrej
      · exact h.atomic ha hid p
  · rw [linkModule_fail hok]
    refine iff_of_false (not_regAtomic_fail io id s p a) ?_
    rintro (h | h)
    · exact hrej h
    · exact hok h.ok

def allOps : BkModuleOps := ⟨true, true, true, true, true, true, true⟩

/-- A module whose `init` fails stays linked after it is freed, and the id 41 is registered a second
time: its bit has the value 2. -/
theorem register_not_atomic : let failing : RegIo := ⟨some 0, .fail, .success⟩
    let first : RegIo := ⟨some 0, .success, .success⟩
    let second : RegIo := ⟨some 1, .success, .success⟩
    let s := (disprRegisterModule first 41 (some allOps) { disprRegInit with started := true }).2
    let failed := disprRegisterModule failing 10 (some allOps) disprRegInit
    let again := disprRegisterModule second 41 (some allOps) s
    failed.1 = .failure ∧ failed.2.linked = [0] ∧ failed.2.heap 0 = none
    ∧ ¬ RegAtomic failing 10 disprRegInit failed
    ∧ again.1 = .success ∧ again.2.linked = [0, 1] ∧ ¬ RegAtomic second 41 s again := by
  intro failing first second s failed again
  have hfail : failed = linkModule failing .role 0 ⟨10, false, false⟩ disprRegInit := rfl
  have hsucc : again.1 = .success := by decide
  have hlinked : again.2.linked = [0, 1] := by decide
  refine ⟨by decide, by decide, by decide, ?_, hsucc, hlinked, ?_⟩
  · rw [hfail, linkModule_fail fun h => by cases h.1]
    exact not_regAtomic_fail failing 10 disprRegInit .role 0
  · rintro (⟨-, a, ha, -, -, hother⟩ | ⟨hne, -⟩)
    · obtain rfl : 1 = a := some.inj ha
      exact hother 0 (by simp [hlinked]) (by simp) ⟨41, true, true⟩ (by decide) rfl
    · exact hne hsucc

end Rtl8852be

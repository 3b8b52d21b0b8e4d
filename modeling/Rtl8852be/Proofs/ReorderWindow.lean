import Rtl8852be.Reorder
import Rtl8852be.Lib.Run
import Rtl8852be.Lib.Slots
import Mathlib.Data.Nat.ModEq

/-!
# The reorder window

Releasing the head's own slot keeps the frames within `buf_size` of the head. Two steps need more:
moving the head fails for a target exactly half the sequence space ahead, and the timeout walk moves
the head by sequence numbers only while no buffered number has wrapped past `ssn`.
-/

namespace Rtl8852be

open Run Slots Function Nat

variable {α : Type*} {seq : ℕ} {t : ℕ}
variable {a i : ℕ} {c : RxCtx α}

abbrev headSlot (c : RxCtx α) : ℕ := reorderIndex c.toTidAmpduRx c.headSeqNum

lemma seqInc_lt (a : ℕ) : seqInc a < 4096 := mod_lt _ (by decide)

lemma seqSub_seqInc_lt {s h B : ℕ} (hs : s < 4096) (hne : s ≠ h % 4096) (hw : seqSub s h < B) :
    seqSub s (seqInc h) < B := by
  simp only [seqSub, seqInc, seqModulo] at *
  omega

lemma seqSub_add_right {s h k : ℕ} (hk : k ≤ seqSub s h) :
    seqSub s ((h + k) % 4096) = seqSub s h - k := by
  simp only [seqSub, seqModulo] at *
  omega

lemma seqLess_iff {b : ℕ} : seqLess a b = true ↔ 0 < seqSub b a ∧ seqSub b a < 2048 := by
  rw [seqLess, decide_eq_true_iff]
  simp only [seqSub, seqModulo]
  omega

lemma eq_of_seqSub_eq_zero {b : ℕ} (ha : a < 4096) (hb : b < 4096) (h : seqSub a b = 0) :
    a = b := by
  simp only [seqSub, seqModulo] at h
  omega

lemma seqSub_seqInc_right {h : ℕ} (hlt : 0 < seqSub a h) :
    seqSub a (seqInc h) = seqSub a h - 1 := by
  simp only [seqSub, seqInc, seqModulo] at *
  omega

lemma reorderIndex_lt {r : TidAmpduRx α} (hB : 0 < r.bufSize) (s : ℕ) :
    reorderIndex r s < r.bufSize := mod_lt _ hB

section Frame

section

variable (c : RxCtx α) (i : ℕ)

@[simp] lemma release_bufSize : (phlReleaseReorderFrame c i).bufSize = c.bufSize := by
  unfold phlReleaseReorderFrame; split <;> rfl

@[simp] lemma release_ssn : (phlReleaseReorderFrame c i).ssn = c.ssn := by
  unfold phlReleaseReorderFrame; split <;> rfl

@[simp] lemma release_headSeqNum :
    (phlReleaseReorderFrame c i).headSeqNum = seqInc c.headSeqNum := by
  unfold phlReleaseReorderFrame; split <;> rfl

lemma release_reorderTime : (phlReleaseReorderFrame c i).reorderTime = c.reorderTime := by
  unfold phlReleaseReorderFrame; split <;> rfl

lemma release_reorderBuf :
    (phlReleaseReorderFrame c i).reorderBuf = update c.reorderBuf i none := by
  unfold phlReleaseReorderFrame
  split
  · rename_i h
    rw [← h, update_eq_self]
  · rfl

end

lemma release_stored (hi : i < c.bufSize)
    (h : c.storedMpduNum = (occupied c.bufSize c.reorderBuf).length) :
    (phlReleaseReorderFrame c i).storedMpduNum
      = (occupied c.bufSize (phlReleaseReorderFrame c i).reorderBuf).length := by
  rw [release_reorderBuf]
  unfold phlReleaseReorderFrame
  split
  · rename_i hn
    rwa [← hn, update_eq_self]
  · rename_i p hp
    rw [length_clear hi hp, ← h]

lemma release_frames (c : RxCtx α) (i : ℕ) :
    (phlReleaseReorderFrame c i).frames = c.frames ++ (c.reorderBuf i).toList := by
  unfold phlReleaseReorderFrame
  split <;> simp [*]

@[simp] lemma release_recycled (c : RxCtx α) (i : ℕ) :
    (phlReleaseReorderFrame c i).recycled = c.recycled := by
  unfold phlReleaseReorderFrame; split <;> rfl

lemma recycleBetween_empty {B index k : ℕ} (hB : c.bufSize = B) :
    ∀ (fuel a : ℕ), (∀ a', a ≤ a' → a' < k → c.reorderBuf ((index + a') % B) = none) → a ≤ k →
      recycleBetween c ((index + k) % B) fuel ((index + a) % B) = c
  | 0, _, _, _ => rfl
  | fuel + 1, a, hn, hle => by
    rw [recycleBetween]
    split_ifs with hak
    · rfl
    have hlt : a < k := lt_of_le_of_ne hle (by rintro rfl; exact hak rfl)
    have hnext : ((index + a) % B + 1) % B = (index + (a + 1)) % B := by
      rw [mod_add_mod, add_assoc]
    have hc : recyclePkts (c.reorderBuf ((index + a) % B)).toList c = c := by
      rw [hn a le_rfl hlt]
      simp
    rw [hc, hB, hnext]
    exact recycleBetween_empty hB fuel (a + 1) (fun a' ha' => hn a' (by omega)) hlt

end Frame

/-- The frames stored are those of the window, each in the slot of its number. -/
structure WindowInv (ssn B : ℕ) (c : RxCtx α) : Prop where
  ssn_eq : c.ssn = ssn
  bufSize_eq : c.bufSize = B
  stored : c.storedMpduNum = (occupied B c.reorderBuf).length
  inWindow : ∀ i p, c.reorderBuf i = some p →
    seqSub p.seq c.headSeqNum < B ∧ i = reorderIndex c.toTidAmpduRx p.seq

/-- A session as it is set up, with a buffer that is not too large. -/
structure SessionInv (ssn B : ℕ) (c : RxCtx α) : Prop extends WindowInv ssn B c where
  pos : 0 < B
  lt : B < 2048
  head_lt : c.headSeqNum < 4096
  single : B = 1 → c.storedMpduNum = 0

section Rules

variable {P : RxCtx α → Prop}
  (h : ∀ c, P c → P (phlReleaseReorderFrame c (headSlot c)))
include h

lemma releaseRun_rule : ∀ (fuel : ℕ) {c : RxCtx α}, P c → P (releaseRun fuel c)
  | 0, _, hc => hc
  | fuel + 1, c, hc => by
    rw [releaseRun]
    split
    · exact hc
    · exact releaseRun_rule fuel (h c hc)

lemma releaseFramesLoop_rule (t : ℕ) :
    ∀ (fuel : ℕ) {c : RxCtx α}, P c → P (releaseFramesLoop t fuel c)
  | 0, _, hc => hc
  | fuel + 1, c, hc => by
    rw [releaseFramesLoop]
    split_ifs
    · exact releaseFramesLoop_rule t fuel (h c hc)
    · exact hc

end Rules

variable {ssn B : ℕ}

lemma WindowInv.slot_lt (h : WindowInv ssn B c) (hB : 0 < B) (hp : c.reorderBuf i = some p) :
    i < B := by
  rw [(h.inWindow i p hp).2, ← h.bufSize_eq]
  exact reorderIndex_lt (by rw [h.bufSize_eq]; exact hB) _

lemma WindowInv.empty_of_stored (h : WindowInv ssn B c) (hB : 0 < B) (h0 : c.storedMpduNum = 0)
    (i : ℕ) : c.reorderBuf i = none := by
  rcases hi : c.reorderBuf i with _ | p
  · rfl
  · have := length_pos (h.slot_lt hB hi) hi
    rw [← h.stored] at this
    omega

lemma WindowInv.reorderIndex_eq (h : WindowInv ssn B c) (s : ℕ) :
    reorderIndex c.toTidAmpduRx s = seqSub s ssn % B := by
  rw [reorderIndex, h.ssn_eq, h.bufSize_eq]

lemma WindowInv.release_head (h : WindowInv ssn B c) (hB : 0 < B) : WindowInv ssn B
      (phlReleaseReorderFrame c (headSlot c)) := by
  have hi := reorderIndex_lt (r := c.toTidAmpduRx) (by rw [h.bufSize_eq]; exact hB) c.headSeqNum
  refine ⟨by simp [h.ssn_eq], by simp [h.bufSize_eq], ?_, fun i p hp => ?_⟩
  · have := release_stored hi (by rw [h.bufSize_eq]; exact h.stored)
    rwa [h.bufSize_eq] at this
  rw [release_reorderBuf, clear_eq_some] at hp
  obtain ⟨hne, hp⟩ := hp
  obtain ⟨hw, hidx⟩ := h.inWindow i p hp
  -- the head's own frame would sit in the slot just emptied
  have hseq : p.seq ≠ c.headSeqNum % 4096 := by
    intro he
    apply hne
    rw [hidx, headSlot, h.reorderIndex_eq, h.reorderIndex_eq, he]
    congr 1
    simp only [seqSub, seqModulo]
    omega
  refine ⟨?_, ?_⟩
  · rw [release_headSeqNum]
    exact seqSub_seqInc_lt p.seq_lt hseq hw
  · rw [hidx]
    simp [reorderIndex]

lemma SessionInv.of_tid (h : SessionInv ssn B c) (c' : RxCtx α)
    (he : c'.toTidAmpduRx = c.toTidAmpduRx) : SessionInv ssn B c' := by
  obtain ⟨r, f, l, t⟩ := c
  obtain ⟨r', f', l', t'⟩ := c'
  cases he
  exact ⟨⟨h.ssn_eq, h.bufSize_eq, h.stored, h.inWindow⟩, h.pos, h.lt, h.head_lt, h.single⟩

lemma SessionInv.release_head (h : SessionInv ssn B c) : SessionInv ssn B
      (phlReleaseReorderFrame c (headSlot c)) := by
  refine ⟨h.toWindowInv.release_head h.pos, h.pos, h.lt, ?_, fun h1 => ?_⟩
  · rw [release_headSeqNum]
    exact seqInc_lt _
  · have h0 := h.empty_of_stored h.pos (h.single h1)
    have hs := (h.toWindowInv.release_head h.pos).stored
    rw [hs, release_reorderBuf, ← h0 (headSlot c), update_eq_self, ← h.stored, h.single h1]

lemma releaseRun_of_none (fuel : ℕ) (hn : c.reorderBuf (headSlot c) = none) :
    releaseRun fuel c = c := by
  cases fuel with
  | zero => rfl
  | succ fuel => rw [releaseRun, hn]

lemma releaseRun_exit (hB : 0 < B) : ∀ (fuel : ℕ) {c : RxCtx α}, WindowInv ssn B c →
    c.storedMpduNum ≤ fuel →
    (releaseRun fuel c).reorderBuf
      (headSlot (releaseRun fuel c)) = none
  | 0, _, h, hf => h.empty_of_stored hB (le_zero.mp hf) _
  | fuel + 1, c, h, hf => by
    rw [releaseRun]
    split
    · assumption
    rename_i p hp
    refine releaseRun_exit hB fuel (h.release_head hB) ?_
    have hlen := length_clear (h.slot_lt hB hp) hp
    rw [(h.release_head hB).stored, release_reorderBuf, hlen, ← h.stored]
    omega

lemma SessionInv.release_loop (h : SessionInv ssn B c) (t fuel : ℕ) :
    SessionInv ssn B (releaseFramesLoop t fuel c) :=
  releaseFramesLoop_rule (fun _ hc => hc.release_head) t fuel h

lemma releaseFramesLoop_exit (ht : t < 4096) : ∀ (fuel : ℕ) (c : RxCtx α),
    c.headSeqNum < 4096 → seqSub t c.headSeqNum < 2048 → seqSub t c.headSeqNum ≤ fuel →
    (releaseFramesLoop t fuel c).storedMpduNum = 0 ∨ (releaseFramesLoop t fuel c).headSeqNum = t
  | 0, c, hc, _, hf => .inr (eq_of_seqSub_eq_zero ht hc (by omega)).symm
  | fuel + 1, c, hc, hlt, hf => by
    rw [releaseFramesLoop]
    split_ifs with hg
    · have hpos := (seqLess_iff.1 hg.1).1
      have hd := seqSub_seqInc_right hpos
      refine releaseFramesLoop_exit ht fuel _ ?_ ?_ ?_ <;> rw [release_headSeqNum]
      · exact seqInc_lt _
      · omega
      · omega
    · by_cases h0 : c.storedMpduNum = 0
      · exact .inl h0
      · right
        have : ¬ (0 < seqSub t c.headSeqNum ∧ seqSub t c.headSeqNum < 2048) := fun h =>
          hg ⟨seqLess_iff.2 h, h0⟩
        exact (eq_of_seqSub_eq_zero ht hc (by omega)).symm

lemma releaseFramesLoop_sub (t fuel : ℕ) :
    (releaseFramesLoop t fuel c).reorderBuf i = some p → c.reorderBuf i = some p := by
  refine releaseFramesLoop_rule (P := fun d => d.reorderBuf i = some p → _) (fun d hd hp => ?_) t
    fuel id
  rw [release_reorderBuf, clear_eq_some] at hp
  exact hd hp.2

lemma slideWindow_reorderTime (seq : ℕ) (c : RxCtx α) :
    (slideWindow seq c).reorderTime = c.reorderTime := by
  unfold slideWindow
  split_ifs
  · rfl
  · exact releaseFramesLoop_rule (P := fun d => d.reorderTime = c.reorderTime)
      (fun d hd => (release_reorderTime d _).trans hd) _ _ rfl

lemma SessionInv.loop_exit (h : SessionInv ssn B c) (ht : t < 4096)
    (hc : c.storedMpduNum = 0 ∨ seqSub t c.headSeqNum < 2048) :
    (releaseFramesLoop t seqModulo c).storedMpduNum = 0
      ∨ (releaseFramesLoop t seqModulo c).headSeqNum = t := by
  rcases hc with h0 | hlt
  · left
    rwa [seqModulo, releaseFramesLoop, if_neg (by simp [h0])]
  · exact releaseFramesLoop_exit ht _ c h.head_lt hlt (by simp only [seqModulo]; omega)

lemma SessionInv.release_frames (h : SessionInv ssn B c) (ht : t < 4096)
    (hc : c.storedMpduNum = 0 ∨ seqSub t c.headSeqNum < 2048) :
    SessionInv ssn B (phlReleaseReorderFrames t c) := by
  have hl := h.release_loop t seqModulo
  have hx := h.loop_exit ht hc
  refine ⟨⟨hl.ssn_eq, hl.bufSize_eq, hl.stored, fun i p hp => ?_⟩, h.pos, h.lt, ht, hl.single⟩
  rcases hx with h0 | hh
  · have := hl.empty_of_stored hl.pos h0 i
    simp only [phlReleaseReorderFrames] at hp
    rw [this] at hp
    cases hp
  · have := hl.inWindow i p hp
    rw [hh] at this
    exact this

section Walk

/-- The sequence number has not wrapped past `ssn` ahead of the head, or slots do not show it. -/
def InLine (ssn B head seq : ℕ) : Prop := B ∣ 4096 ∨ seqSub head ssn ≤ seqSub seq ssn
  deriving Decidable

lemma InLine.slot_eq {head : ℕ} (h : InLine ssn B head seq) :
    seqSub seq ssn % B = (seqSub head ssn % B + seqSub seq head) % B := by
  rw [mod_add_mod]
  rcases h with hd | hle
  · have : seqSub seq ssn = (seqSub head ssn + seqSub seq head) % 4096 := by
      simp only [seqSub, seqModulo]
      omega
    rw [this, mod_mod_of_dvd _ hd]
  · have : seqSub seq ssn = seqSub head ssn + seqSub seq head := by
      simp only [seqSub, seqModulo] at *
      omega
    rw [this]

/-- The walk at its `k`-th slot past `head`: every frame still held is at least `k` ahead of where
the walk began. -/
structure WalkInv (ssn B head k skipped : ℕ) (c : RxCtx α) : Prop where
  ssn_eq : c.ssn = ssn
  bufSize_eq : c.bufSize = B
  stored : c.storedMpduNum = (occupied B c.reorderBuf).length
  skipped_le : skipped ≤ k
  le_size : k ≤ B
  headSeqNum : c.headSeqNum = (head + (k - skipped)) % 4096
  ahead : ∀ i p, c.reorderBuf i = some p → k ≤ seqSub p.seq head ∧ seqSub p.seq head < B
    ∧ i = reorderIndex c.toTidAmpduRx p.seq ∧ i = (seqSub head ssn % B + seqSub p.seq head) % B

section

variable {head k skipped : ℕ}

lemma WalkInv.window (h : WalkInv ssn B head k skipped c) : WindowInv ssn B c := by
  refine ⟨h.ssn_eq, h.bufSize_eq, h.stored, fun i p hp => ?_⟩
  obtain ⟨hk, hB, hi, -⟩ := h.ahead i p hp
  refine ⟨?_, hi⟩
  rw [h.headSeqNum, seqSub_add_right (by omega)]
  omega

lemma WalkInv.offset_eq (h : WalkInv ssn B head k skipped c) (ha : a < B)
    (hp : c.reorderBuf ((seqSub head ssn % B + a) % B) = some p) : seqSub p.seq head = a := by
  obtain ⟨-, hB, -, hs⟩ := h.ahead _ p hp
  have hmod : a % B = seqSub p.seq head % B := Nat.ModEq.add_left_cancel' _ hs
  rwa [mod_eq_of_lt ha, mod_eq_of_lt hB, eq_comm] at hmod

section

variable (h : WalkInv ssn B head k skipped c)
include h

lemma WalkInv.ahead_of_ne (hp : c.reorderBuf i = some p)
    (hi : i ≠ (seqSub head ssn % B + k) % B) : k + 1 ≤ seqSub p.seq head := by
  obtain ⟨hk, -, -, hs⟩ := h.ahead i p hp
  have : seqSub p.seq head ≠ k := fun he => hi (by rw [hs, he])
  omega

lemma WalkInv.skip (hk : k < B) (hn : c.reorderBuf ((seqSub head ssn % B + k) % B) = none) :
    WalkInv ssn B head (k + 1) (skipped + 1) c := by
  refine ⟨h.ssn_eq, h.bufSize_eq, h.stored, by have := h.skipped_le; omega, hk, ?_,
    fun i p hp => ?_⟩
  · rw [h.headSeqNum, Nat.add_sub_add_right]
  have hne : i ≠ (seqSub head ssn % B + k) % B := by
    rintro rfl
    rw [hn] at hp
    cases hp
  exact ⟨h.ahead_of_ne hp hne, (h.ahead i p hp).2⟩

lemma WalkInv.release (hk : k < B) : WalkInv ssn B head (k + 1) 0
      (skipHead skipped (phlReleaseReorderFrame c ((seqSub head ssn % B + k) % B))) := by
  have hj : (seqSub head ssn % B + k) % B < B := mod_lt _ (by omega)
  refine ⟨?_, ?_, ?_, by omega, hk, ?_, fun i p hp => ?_⟩
  · rw [skipHead, release_ssn, h.ssn_eq]
  · rw [skipHead, release_bufSize, h.bufSize_eq]
  · have := release_stored (by rw [h.bufSize_eq]; exact hj) (by rw [h.bufSize_eq]; exact h.stored)
    rwa [h.bufSize_eq] at this
  · have := h.skipped_le
    simp [skipHead, h.headSeqNum, seqInc, seqModulo]
    omega
  · simp only [skipHead, release_reorderBuf, clear_eq_some] at hp
    obtain ⟨hi, hp⟩ := hp
    obtain ⟨-, h2, h3, h4⟩ := h.ahead i p hp
    refine ⟨h.ahead_of_ne hp hi, h2, ?_, h4⟩
    rw [h3]
    simp [reorderIndex, skipHead]

lemma WalkInv.recycle_eq (hk : 0 < k) (fuel : ℕ) :
    recycleBetween c ((seqSub head ssn % B + k) % B) fuel ((seqSub head ssn % B + 1) % B) = c := by
  refine recycleBetween_empty h.bufSize_eq fuel 1 (fun a _ hak => ?_) hk
  rcases hp : c.reorderBuf ((seqSub head ssn % B + a) % B) with _ | p
  · rfl
  · have hle := (h.ahead _ p hp).1
    rw [h.offset_eq (lt_of_lt_of_le hak h.le_size) hp] at hle
    omega

end

end

/-- The rule for the walk: what skipping an empty slot and releasing a full one keep holds where the
walk stops. -/
lemma timeoutWalk_rule (curTime head : ℕ) {P : ℕ → ℕ → RxCtx α → Prop}
    (hskip : ∀ k s c, P k s c → P (k + 1) (s + 1) c)
    (hrelease : ∀ k s c p, WalkInv ssn B head k s c → P k s c →
      c.reorderBuf ((seqSub head ssn % B + k) % B) = some p → seqSub p.seq head = k →
      P (k + 1) 0 (skipHead s (phlReleaseReorderFrame c ((seqSub head ssn % B + k) % B)))) :
    ∀ (fuel k s : ℕ) (c : RxCtx α), 0 < k → WalkInv ssn B head k s c → P k s c →
    ∃ k' s', WalkInv ssn B head k' s'
        (timeoutWalk curTime (seqSub head ssn % B) fuel ((seqSub head ssn % B + k) % B) s c).1
      ∧ P k' s'
        (timeoutWalk curTime (seqSub head ssn % B) fuel ((seqSub head ssn % B + k) % B) s c).1
  | 0, k, s, c, _, h, hP => ⟨k, s, h, hP⟩
  | fuel + 1, k, s, c, h0, h, hP => by
    have hnext : ((seqSub head ssn % B + k) % B + 1) % B = (seqSub head ssn % B + (k + 1)) % B := by
      rw [mod_add_mod, add_assoc]
    rw [timeoutWalk]
    by_cases hj : (seqSub head ssn % B + k) % B = seqSub head ssn % B
    · rw [if_pos hj]
      exact ⟨k, s, h, hP⟩
    rw [if_neg hj]
    have hk : k < B := lt_of_le_of_ne h.le_size (by rintro rfl; exact hj (by simp))
    split
    · rename_i hn
      rw [h.bufSize_eq, hnext]
      exact timeoutWalk_rule curTime head hskip hrelease fuel (k + 1) (s + 1) c (by omega)
        (h.skip hk hn) (hskip k s c hP)
    · rename_i p hp
      split_ifs
      · exact ⟨k, s, h, hP⟩
      · rw [h.bufSize_eq, hnext, h.recycle_eq h0]
        exact timeoutWalk_rule curTime head hskip hrelease fuel (k + 1) 0 _ (by omega)
          (h.release hk) (hrelease k s c p h hP hp (h.offset_eq hk hp))

lemma recycleBetween_bufSize (j : ℕ) : ∀ (fuel i : ℕ) (c : RxCtx α),
    (recycleBetween c j fuel i).bufSize = c.bufSize
  | 0, _, _ => rfl
  | fuel + 1, i, c => by
    rw [recycleBetween]
    split_ifs
    · rfl
    · rw [recycleBetween_bufSize j fuel]
      rfl

/-- The walk comes round to where it began: passes beyond the `B - k` slots left do nothing. -/
lemma timeoutWalk_fuel (curTime : ℕ) {index : ℕ} (hi : index < B) (extra : ℕ) :
    ∀ (fuel k s : ℕ) (c : RxCtx α), c.bufSize = B → k ≤ B → B ≤ k + fuel →
      timeoutWalk curTime index (fuel + extra) ((index + k) % B) s c
        = timeoutWalk curTime index fuel ((index + k) % B) s c
  | 0, k, s, c, _, hk, hf => by
    have hround : (index + k) % B = index := by
      rw [show k = B by omega, add_mod_right, mod_eq_of_lt hi]
    cases extra with
    | zero => rfl
    | succ extra => rw [zero_add, timeoutWalk, timeoutWalk, if_pos hround]
  | fuel + 1, k, s, c, hB, hk, hf => by
    have hnext : ((index + k) % B + 1) % B = (index + (k + 1)) % B := by
      rw [mod_add_mod, add_assoc]
    rw [add_right_comm, timeoutWalk, timeoutWalk]
    by_cases hj : (index + k) % B = index
    · rw [if_pos hj, if_pos hj]
    rw [if_neg hj, if_neg hj, hB, hnext]
    have hlt : k < B := lt_of_le_of_ne hk (by
      rintro rfl
      exact hj (by rw [add_mod_right, mod_eq_of_lt hi]))
    split
    · exact timeoutWalk_fuel curTime hi extra fuel (k + 1) (s + 1) c hB hlt (by omega)
    split_ifs
    · rfl
    · refine timeoutWalk_fuel curTime hi extra fuel (k + 1) 0 _ ?_ hlt (by omega)
      rw [skipHead, release_bufSize, recycleBetween_bufSize, hB]

lemma WindowInv.passes_enough (h : WindowInv ssn B c) (hB : 0 < B) (curTime extra : ℕ) :
    let c' := releaseRun c.bufSize c
    let index := headSlot c
    c'.reorderBuf (headSlot c') = none
      ∧ timeoutWalk curTime index (c.bufSize + extra) ((index + 1) % c.bufSize) 1 c
        = timeoutWalk curTime index c.bufSize ((index + 1) % c.bufSize) 1 c := by
  have hsize : 0 < c.bufSize := by rw [h.bufSize_eq]; exact hB
  refine ⟨releaseRun_exit hB _ h ?_,
    timeoutWalk_fuel curTime (reorderIndex_lt hsize _) extra _ 1 1 c rfl hsize (by omega)⟩
  rw [h.stored, h.bufSize_eq]
  exact length_le _ _

/-- A frame stored at `t` has not timed out. The deadline is a `u32`, so it wraps. -/
def Waiting (curTime t : ℕ) : Prop := curTime < (t + htRxReorderBufTimeoutMs) % 2 ^ 32
  deriving Decidable

lemma timeoutWalk_waiting {curTime : ℕ}
    (hw : ∀ i p, c.reorderBuf i = some p → Waiting curTime (c.reorderTime i)) (index : ℕ) :
    ∀ fuel j skipped : ℕ, skipped ≠ 0 → (timeoutWalk curTime index fuel j skipped c).1 = c
  | 0, _, _, _ => rfl
  | fuel + 1, j, skipped, h0 => by
    rw [timeoutWalk]
    split
    · rfl
    split
    · exact timeoutWalk_waiting hw index fuel _ _ (succ_ne_zero _)
    · rename_i p hp
      rw [if_pos ⟨h0, hw j p hp⟩]

lemma SessionInv.walk (h : SessionInv ssn B c)
    (hn : c.reorderBuf (headSlot c) = none)
    (hl : ∀ i p, c.reorderBuf i = some p → InLine ssn B c.headSeqNum p.seq) :
    WalkInv ssn B c.headSeqNum 1 1 c := by
  refine ⟨h.ssn_eq, h.bufSize_eq, h.stored, le_rfl, h.pos, ?_, fun i p hp => ?_⟩
  · have := h.head_lt
    rw [Nat.sub_self, Nat.add_zero, Nat.mod_eq_of_lt this]
  obtain ⟨hw, hi⟩ := h.inWindow i p hp
  refine ⟨?_, hw, hi, ?_⟩
  · rcases Nat.eq_zero_or_pos (seqSub p.seq c.headSeqNum) with h0 | h0
    · rw [hi, eq_of_seqSub_eq_zero p.seq_lt h.head_lt h0, hn] at hp
      cases hp
    · exact h0
  · rw [hi, h.reorderIndex_eq]
    exact (hl i p hp).slot_eq

end Walk

section Step

lemma setReleaseTimer_eq (c : RxCtx α) : ∃ b, setReleaseTimer c = { c with timerSet := b } := by
  unfold setReleaseTimer
  split_ifs
  · exact ⟨c.timerSet, rfl⟩
  · exact ⟨true, rfl⟩

lemma rearmTimer_eq (c : RxCtx α) : ∃ b, rearmTimer c = { c with timerSet := b } := by
  unfold rearmTimer
  split_ifs
  · exact setReleaseTimer_eq c
  · exact ⟨false, rfl⟩

/-- The rule for `phl_reorder_release`: it releases from the head on, or walks past a gap. -/
lemma phlReorderRelease_rule {P : RxCtx α → Prop} (curTime : ℕ)
    (htimer : ∀ c b, P c → P { c with timerSet := b })
    (hrun : ¬ (c.reorderBuf (headSlot c) = none ∧ c.storedMpduNum ≠ 0) → P (releaseRun c.bufSize c))
    (hwalk : c.reorderBuf (headSlot c) = none → c.storedMpduNum ≠ 0 →
      P (timeoutWalk curTime (headSlot c) c.bufSize ((headSlot c + 1) % c.bufSize) 1 c).1) :
    P (phlReorderRelease curTime c) := by
  rw [phlReorderRelease]
  split_ifs with hg
  · have hw := hwalk hg.1 hg.2
    split
    · rename_i c' heq
      rw [heq] at hw
      obtain ⟨b, hb⟩ := rearmTimer_eq c'
      exact hb ▸ htimer c' b hw
    · rename_i c' heq
      rw [heq] at hw
      obtain ⟨b, hb⟩ := setReleaseTimer_eq c'
      exact hb ▸ htimer c' b hw
  · obtain ⟨b, hb⟩ := rearmTimer_eq (releaseRun c.bufSize c)
    exact hb ▸ htimer _ b (hrun hg)

lemma SessionInv.reorder_release (h : SessionInv ssn B c) (curTime : ℕ)
    (hl : c.reorderBuf (headSlot c) ≠ none
      ∨ (∀ i p, c.reorderBuf i = some p → Waiting curTime (c.reorderTime i))
      ∨ ∀ i p, c.reorderBuf i = some p → InLine ssn B c.headSeqNum p.seq) :
    SessionInv ssn B (phlReorderRelease curTime c) := by
  refine phlReorderRelease_rule curTime (fun c b hc => hc.of_tid _ rfl)
    (fun _ => releaseRun_rule (fun _ hc => hc.release_head) c.bufSize h) fun hn h0 => ?_
  rcases hl.resolve_left (not_not.2 hn) with hw | hl
  · rwa [timeoutWalk_waiting hw _ _ _ _ one_ne_zero]
  obtain ⟨k, skipped, hk, -⟩ := timeoutWalk_rule curTime c.headSeqNum (P := fun _ _ _ => True)
    (fun _ _ _ _ => trivial) (fun _ _ _ _ _ _ _ _ => trivial) B 1 1 c one_pos
    (h.walk hn hl) trivial
  rw [headSlot, h.reorderIndex_eq, h.bufSize_eq]
  -- a session of one slot stores nothing, so it does not walk
  exact SessionInv.mk hk.window h.pos h.lt (by rw [hk.headSeqNum]; omega)
    fun h1 => absurd (h.single h1) h0

def slidHead (seq : ℕ) (r : TidAmpduRx α) : ℕ :=
  if seqLess seq (r.headSeqNum + r.bufSize) then r.headSeqNum else seqInc (seqSub seq r.bufSize)

section

variable (h : SessionInv ssn B c)
include h

lemma SessionInv.slide_target (hold : ¬ seqLess seq c.headSeqNum)
    (hin : ¬ seqLess seq (c.headSeqNum + c.bufSize)) :
    c.storedMpduNum = 0 ∨ seqSub (seqInc (seqSub seq c.bufSize)) c.headSeqNum < 2048 := by
  have hlt := h.lt
  rcases lt_or_ge 1 B with h1 | h1
  · right
    rw [seqLess_iff] at hold
    rw [seqLess_iff, h.bufSize_eq] at hin
    rw [h.bufSize_eq]
    simp only [seqSub, seqInc, seqModulo] at *
    omega
  · have hpos := h.pos
    exact .inl (h.single (by omega))

lemma SessionInv.slide (hold : ¬ seqLess seq c.headSeqNum) :
    SessionInv ssn B (slideWindow seq c)
      ∧ (slideWindow seq c).headSeqNum = slidHead seq c.toTidAmpduRx
      ∧ seqSub seq (slideWindow seq c).headSeqNum < B
      ∧ ∀ i p, (slideWindow seq c).reorderBuf i = some p → c.reorderBuf i = some p := by
  have hpos := h.pos
  have hB := h.bufSize_eq
  rw [slideWindow, slidHead]
  split_ifs with hin
  · rw [seqLess_iff] at hold
    rw [seqLess_iff, hB] at hin
    refine ⟨h, rfl, ?_, fun _ _ hp => hp⟩
    simp only [seqSub, seqModulo] at *
    omega
  · refine ⟨h.release_frames (seqInc_lt _) (h.slide_target hold hin), rfl, ?_, fun i p hp =>
      releaseFramesLoop_sub _ _ hp⟩
    simp only [phlReleaseReorderFrames, hB, seqSub, seqInc, seqModulo]
    omega

lemma SessionInv.store (pkt : RxPkt α) (storeTime : ℕ)
    (hd : c.reorderBuf (reorderIndex c.toTidAmpduRx pkt.seq) = none)
    (hw : seqSub pkt.seq c.headSeqNum < B)
    (hh : ¬ (pkt.seq = c.headSeqNum ∧ c.storedMpduNum = 0)) :
    SessionInv ssn B (storeMpdu pkt (reorderIndex c.toTidAmpduRx pkt.seq) storeTime c) := by
  have hi : reorderIndex c.toTidAmpduRx pkt.seq < B := by
    rw [h.reorderIndex_eq]
    exact mod_lt _ h.pos
  refine ⟨⟨h.ssn_eq, h.bufSize_eq, ?_, fun i p hp => ?_⟩, h.pos, h.lt, h.head_lt, fun h1 => ?_⟩
  · simp only [storeMpdu]
    rw [length_fill hi hd, ← h.stored]
  · rcases fill_eq_some.1 hp with ⟨hii, rfl⟩ | ⟨-, hp⟩
    · exact ⟨hw, hii⟩
    · exact h.inWindow i p hp
  · -- the only slot's frame is the awaited one, which is not stored
    exact absurd ⟨eq_of_seqSub_eq_zero pkt.seq_lt h.head_lt (by omega), h.single h1⟩ hh

lemma SessionInv.insert (pkt : RxPkt α) (storeTime curTime : ℕ)
    (hw : seqSub pkt.seq c.headSeqNum < B)
    (hl : pkt.seq = c.headSeqNum ∨ (Waiting curTime storeTime
        ∧ ∀ i p, c.reorderBuf i = some p → Waiting curTime (c.reorderTime i))
      ∨ (InLine ssn B c.headSeqNum pkt.seq
        ∧ ∀ i p, c.reorderBuf i = some p → InLine ssn B c.headSeqNum p.seq)) :
    SessionInv ssn B (insertMpdu pkt storeTime curTime c).2 := by
  rw [insertMpdu]
  split_ifs with hd hh
  · exact h.of_tid _ rfl
  · refine ⟨⟨h.ssn_eq, h.bufSize_eq, h.stored, fun i p hp => ?_⟩, h.pos, h.lt, seqInc_lt _,
      h.single⟩
    rw [show c.reorderBuf i = none from h.empty_of_stored h.pos hh.2 i] at hp
    cases hp
  · refine (h.store pkt storeTime (not_not.1 hd) hw hh).reorder_release curTime ?_
    rcases hl with he | ⟨hp0, hall⟩ | ⟨hp0, hall⟩
    · left
      simp [storeMpdu, reorderIndex, he]
    · refine .inr (.inl fun i p hp => ?_)
      rcases fill_eq_some.1 hp with ⟨rfl, -⟩ | ⟨hne, hp⟩
      · simpa [storeMpdu] using hp0
      · simpa [storeMpdu, hne] using hall i p hp
    · refine .inr (.inr fun i p hp => ?_)
      rcases fill_eq_some.1 hp with ⟨-, rfl⟩ | ⟨-, hp⟩
      · exact hp0
      · exact hall i p hp

end

def AllWaiting (curTime : ℕ) (c : RxCtx α) : Prop :=
  ∀ i < c.bufSize, c.reorderBuf i ≠ none → Waiting curTime (c.reorderTime i)

instance (curTime : ℕ) (c : RxCtx α) : Decidable (AllWaiting curTime c) :=
  inferInstanceAs (Decidable (∀ i < c.bufSize, _))

/-- A BlockAckReq does not point half the sequence space ahead of frames that are held, and where a
frame past a gap has timed out, the frames held are in line with the head. -/
def SafeStep (c : RxCtx α) : RxEvent α → Prop
  | .mpdu pkt storeTime curTime => seqLess pkt.seq c.headSeqNum
      ∨ pkt.seq = slidHead pkt.seq c.toTidAmpduRx
      ∨ (Waiting curTime storeTime ∧ AllWaiting curTime c)
      ∨ ∀ q ∈ pkt :: occupied c.bufSize c.reorderBuf,
        seqSub q.seq (slidHead pkt.seq c.toTidAmpduRx) < c.bufSize →
        InLine c.ssn c.bufSize (slidHead pkt.seq c.toTidAmpduRx) q.seq
  | .bar seq _ => c.storedMpduNum = 0 ∨ seqSub seq c.headSeqNum ≠ 2048
  | .timer curTime => c.reorderBuf (headSlot c) ≠ none
      ∨ AllWaiting curTime c
      ∨ ∀ q ∈ occupied c.bufSize c.reorderBuf, InLine c.ssn c.bufSize c.headSeqNum q.seq

instance (c : RxCtx α) : ∀ e, Decidable (SafeStep c e)
  | .mpdu _ _ _ => inferInstanceAs (Decidable (_ ∨ _ ∨ _ ∨ _))
  | .bar _ _ => inferInstanceAs (Decidable (_ ∨ _))
  | .timer _ => inferInstanceAs (Decidable (_ ∨ _ ∨ _))

lemma SessionInv.waiting (h : SessionInv ssn B c) {curTime : ℕ} (hw : AllWaiting curTime c)
    (hp : c.reorderBuf i = some p) : Waiting curTime (c.reorderTime i) :=
  hw i (by rw [h.bufSize_eq]; exact h.slot_lt h.pos hp) (by simp [hp])

lemma SessionInv.mpdu (h : SessionInv ssn B c) (pkt : RxPkt α) (storeTime curTime : ℕ)
    (hok : SafeStep c (.mpdu pkt storeTime curTime)) :
    SessionInv ssn B (phlRxReorder pkt storeTime curTime c) := by
  have hm : SessionInv ssn B (phlManageStaReorderBuf pkt storeTime curTime c).2 := by
    rw [phlManageStaReorderBuf]
    split_ifs with hold hst
    · exact h.of_tid _ rfl
    · exact h
    have hst : SessionInv ssn B { c with started := true } :=
      ⟨⟨h.ssn_eq, h.bufSize_eq, h.stored, h.inWindow⟩, h.pos, h.lt, h.head_lt, h.single⟩
    obtain ⟨hinv, hhead, hw, hsub⟩ := hst.slide hold
    refine hinv.insert pkt storeTime curTime hw ?_
    rw [hhead]
    rcases hok with hlt | heq | ⟨hnew, hwait⟩ | hline
    · exact absurd hlt hold
    · exact .inl heq
    · refine .inr (.inl ⟨hnew, fun i p hp => ?_⟩)
      rw [slideWindow_reorderTime]
      exact h.waiting hwait (hsub i p hp)
    refine .inr (.inr ?_)
    rw [h.bufSize_eq, h.ssn_eq] at hline
    rw [hhead] at hw
    refine ⟨hline pkt (by simp) hw, fun i p hp => ?_⟩
    have hpw := (hinv.inWindow i p hp).1
    rw [hhead] at hpw
    have hmem : p ∈ occupied B c.reorderBuf :=
      mem_occupied.2 ⟨i, h.slot_lt h.pos (hsub i p hp), hsub i p hp⟩
    exact hline p (by simp [hmem]) hpw
  rw [phlRxReorder]
  rcases hres : phlManageStaReorderBuf pkt storeTime curTime c with ⟨_ | _, c'⟩
  · rw [hres] at hm
    exact hm.of_tid _ rfl
  · rwa [hres] at hm

lemma SessionInv.step (h : SessionInv ssn B c) (e : RxEvent α) (hok : SafeStep c e) :
    SessionInv ssn B (rxStep c e) := by
  cases e with
  | mpdu pkt storeTime curTime => exact h.mpdu pkt storeTime curTime hok
  | bar seq hs =>
    rw [rxStep, rtwPhlRxBar]
    split_ifs with hold
    · exact h
    refine h.release_frames hs (hok.imp_right fun hne => ?_)
    rw [seqLess_iff] at hold
    simp only [seqSub, seqModulo] at *
    omega
  | timer curTime =>
    refine (h.of_tid { c with timerSet := false } rfl).reorder_release curTime
      (hok.imp_right (.imp (fun hwait _ _ => h.waiting hwait) fun hall i p hp => ?_))
    rw [h.bufSize_eq, h.ssn_eq] at hall
    exact hall p (mem_occupied.2 ⟨i, h.slot_lt h.pos hp, hp⟩)

lemma alloc_inv (hssn : ssn < 4096) (hB : 0 < B) (hB' : B < 2048) :
    SessionInv ssn B (phlTidAmpduRxAlloc ssn B : RxCtx α) :=
  ⟨⟨rfl, rfl, by simp [phlTidAmpduRxAlloc], fun _ _ hp => by cases hp⟩, hB, hB', hssn, fun _ => rfl⟩

/-- In a run of safe steps the window holds in every state reached. -/
theorem rx_window_run {ssn B : ℕ} (hssn : ssn < 4096) (hB : 0 < B) (hB' : B ≤ 255)
    (es : List (RxEvent α)) (hok : RunOK rxStep SafeStep (phlTidAmpduRxAlloc ssn B) es) :
    ∀ es', es' <+: es → let c := run rxStep (phlTidAmpduRxAlloc ssn B) es'
      c.storedMpduNum = (occupied B c.reorderBuf).length ∧ ∀ i p, c.reorderBuf i = some p →
          seqSub p.seq c.headSeqNum < B ∧ i = reorderIndex c.toTidAmpduRx p.seq := by
  intro es' hp
  have h := run_inv rxStep SafeStep (P := SessionInv ssn B) (fun c e hc he => hc.step e he) es' _
    (alloc_inv hssn hB (by omega)) (hok.of_prefix hp)
  exact ⟨h.stored, h.inWindow⟩

/-- A frame is held past a gap, filled later, and a BlockAckReq moves the head. -/
theorem rx_window_run_sample : let es : List (RxEvent Unit) :=
      [.mpdu ⟨1, by decide, ()⟩ 0 0, .mpdu ⟨0, by decide, ()⟩ 5 5, .mpdu ⟨9, by decide, ()⟩ 6 6,
        .bar 7 (by decide), .timer 200]
    ∀ es', es' <+: es →
      let c := run rxStep (phlTidAmpduRxAlloc 0 64) es'
      c.storedMpduNum = (occupied 64 c.reorderBuf).length ∧ ∀ i p, c.reorderBuf i = some p →
          seqSub p.seq c.headSeqNum < 64 ∧ i = reorderIndex c.toTidAmpduRx p.seq :=
  rx_window_run (by decide) (by decide) (by decide) _ (by decide)

/-- A BlockAckReq half the sequence space ahead jumps over a frame that is held; and with six slots
the walk, just before the numbers wrap, moves the head past a fresh frame. -/
theorem rx_window_escapes :
    (let c := run rxStep (phlTidAmpduRxAlloc 0 64 : RxCtx Unit)
        [.mpdu ⟨1, by decide, ()⟩ 0 0, .bar 2048 (by decide)]
      ∃ p, c.reorderBuf 1 = some p ∧ ¬ seqSub p.seq c.headSeqNum < 64)
    ∧ (let c := run rxStep (phlTidAmpduRxAlloc 0 6 : RxCtx Unit)
        [.bar 2000 (by decide), .bar 4000 (by decide), .bar 4095 (by decide),
          .mpdu ⟨4, by decide, ()⟩ 0 0, .mpdu ⟨0, by decide, ()⟩ 200 200]
      ∃ p, c.reorderBuf 0 = some p ∧ ¬ seqSub p.seq c.headSeqNum < 6) :=
  ⟨⟨⟨1, by decide, ()⟩, by decide, by decide⟩, ⟨⟨0, by decide, ()⟩, by decide, by decide⟩⟩

end Step

end Rtl8852be

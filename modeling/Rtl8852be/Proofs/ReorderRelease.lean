import Rtl8852be.Lib.GapWalk
import Rtl8852be.Proofs.ReorderWindow

/-!
# What `phl_reorder_release` releases

The head and what follows it go up to the first missing number, or frames go as long as each one
behind a gap has waited long enough. The code looks at slots instead, and compares a deadline that
wraps.
-/

namespace Rtl8852be

open Slots GapWalk List Nat Option Function

variable {α : Type*}
variable {i n : ℕ}

section Spec

variable (now : ℕ) (c : RxCtx α)

def slotHolding (seq : ℕ) : Option ℕ :=
  (range c.bufSize).find? fun i => (c.reorderBuf i).any (·.seq == seq)

def numberAt (k : ℕ) : ℕ := (c.headSeqNum + k) % 4096

def storedView (k : ℕ) : Option (RxPkt α) := (slotHolding c (numberAt c k)).bind c.reorderBuf

def elapsed (t : ℕ) : ℕ := (now + (2 ^ 32 - t % 2 ^ 32)) % 2 ^ 32

def dueView (k : ℕ) : Bool :=
  (slotHolding c (numberAt c k)).any fun i =>
    decide (htRxReorderBufTimeoutMs ≤ elapsed now (c.reorderTime i))

def releaseSpec : List ℕ :=
  if storedView c 0 ≠ none then
    (range c.bufSize).takeWhile fun k => (storedView c k).isSome
  else released (storedView c) (dueView now c) c.bufSize

end Spec

variable {ssn k B : ℕ}

section View

variable {c : RxCtx α} {p : RxPkt α}

lemma stored_of_slotHolding {seq : ℕ} (hi : slotHolding c seq = some i) :
    ∃ p, c.reorderBuf i = some p ∧ p.seq = seq := by
  have hany := find?_some hi
  rcases hp : c.reorderBuf i with _ | p
  · simp [hp] at hany
  · exact ⟨p, rfl, by simpa [hp] using hany⟩

section

variable (h : WindowInv ssn B c) (hB : 0 < B)
include h hB

lemma WindowInv.slotHolding_eq {seq : ℕ} :
    slotHolding c seq = some i ↔ ∃ p, c.reorderBuf i = some p ∧ p.seq = seq := by
  refine ⟨stored_of_slotHolding, ?_⟩
  rintro ⟨p, hp, rfl⟩
  rcases hs : slotHolding c p.seq with _ | j
  · have hnone := find?_eq_none.1 hs i (mem_range.2 (by rw [h.bufSize_eq]; exact h.slot_lt hB hp))
    simp [hp] at hnone
  · obtain ⟨q, hq, hqp⟩ := stored_of_slotHolding hs
    rw [(h.inWindow j q hq).2, (h.inWindow i p hp).2, hqp]

lemma WindowInv.storedView_eq : storedView c k = some p
      ↔ c.reorderBuf (reorderIndex c.toTidAmpduRx p.seq) = some p ∧ p.seq = numberAt c k := by
  unfold storedView
  rw [bind_eq_some_iff]
  constructor
  · rintro ⟨i, hi, hp⟩
    obtain ⟨q, hq, hseq⟩ := (h.slotHolding_eq hB).1 hi
    obtain rfl := some.inj (hq.symm.trans hp)
    rw [← (h.inWindow i q hq).2]
    exact ⟨hq, hseq⟩
  · rintro ⟨hp, hseq⟩
    exact ⟨_, (h.slotHolding_eq hB).2 ⟨p, hp, hseq⟩, hp⟩

lemma WindowInv.storedView_dist (hk : k < 4096)
    (hp : storedView c k = some p) : seqSub p.seq c.headSeqNum = k := by
  rw [((h.storedView_eq hB).1 hp).2, numberAt]
  simp only [seqSub, seqModulo]
  omega

lemma WindowInv.storedView_of_stored
    (hp : c.reorderBuf i = some p) : storedView c (seqSub p.seq c.headSeqNum) = some p := by
  refine (h.storedView_eq hB).2 ⟨by rw [← (h.inWindow i p hp).2]; exact hp, ?_⟩
  have := p.seq_lt
  simp only [numberAt, seqSub, seqModulo]
  omega

end

end View

abbrev walkSlot (c : RxCtx α) (k : ℕ) : ℕ :=
  (reorderIndex c.toTidAmpduRx c.headSeqNum + k) % c.bufSize

def walkView (c : RxCtx α) (k : ℕ) : Option (RxPkt α) := c.reorderBuf (walkSlot c k)

def walkDue (now : ℕ) (c : RxCtx α) (k : ℕ) : Bool :=
  !decide (Waiting now (c.reorderTime (walkSlot c k)))

lemma occupied_of_gap {β : Type*} {f : ℕ → Option β} :
    ∀ {m : ℕ}, n ≤ m → (∀ a, n ≤ a → a < m → f a = none) → occupied m f = occupied n f
  | 0, hle, _ => by rw [le_zero.1 hle]
  | m + 1, hle, hgap => by
    rcases lt_or_ge m n with hlt | hge
    · rw [show n = m + 1 by omega]
    · rw [occupied_succ, hgap m hge (by omega), toList_none, append_nil]
      exact occupied_of_gap hge fun a ha hlt => hgap a ha (by omega)

structure SlotWalk (now : ℕ) (c₀ : RxCtx α) (k s : ℕ) (c : RxCtx α) : Prop where
  bufSize_eq : c.bufSize = c₀.bufSize
  stored : c.storedMpduNum = (occupied c.bufSize c.reorderBuf).length
  time : c.reorderTime = c₀.reorderTime
  skipped_le : s ≤ k
  le_size : k ≤ c₀.bufSize
  buf : ∀ a < c₀.bufSize, c.reorderBuf (walkSlot c₀ a) = if a < k then none else walkView c₀ a
  head : c.headSeqNum = (c₀.headSeqNum + (k - s)) % 4096
  frames : c.frames = c₀.frames ++ occupied (k - s) (walkView c₀)
  gap : ∀ a, k - s ≤ a → a < k → walkView c₀ a = none
  last : 0 < k - s → walkView c₀ (k - s - 1) ≠ none
  passed : ∀ a < k, walkView c₀ a ≠ none → behindGap (walkView c₀) a = true →
    walkDue now c₀ a = true

section Walk

variable {now s : ℕ} {c₀ c : RxCtx α}

lemma SlotWalk.start (hB : 0 < c₀.bufSize)
    (hst : c₀.storedMpduNum = (occupied c₀.bufSize c₀.reorderBuf).length)
    (hhead : c₀.headSeqNum < 4096)
    (hn : c₀.reorderBuf (headSlot c₀) = none) :
    SlotWalk now c₀ 1 1 c₀ := by
  have hzero : walkView c₀ 0 = none := by
    rw [walkView, walkSlot, add_zero, mod_eq_of_lt (reorderIndex_lt hB _), hn]
  refine ⟨rfl, hst, rfl, le_rfl, hB, fun a ha => ?_, ?_, by simp [occupied], ?_, by simp, ?_⟩
  · by_cases h0 : a < 1
    · obtain rfl : a = 0 := by omega
      rw [if_pos h0, ← hzero]
      rfl
    · rw [if_neg h0]
      rfl
  · rw [Nat.sub_self, Nat.add_zero, Nat.mod_eq_of_lt hhead]
  · intro a _ ha
    obtain rfl : a = 0 := by omega
    exact hzero
  · intro a ha hne
    obtain rfl : a = 0 := by omega
    exact absurd hzero hne

lemma SlotWalk.skip (h : SlotWalk now c₀ k s c) (hk : k < c₀.bufSize)
    (hn : walkView c₀ k = none) : SlotWalk now c₀ (k + 1) (s + 1) c := by
  have hs := h.skipped_le
  have hsub : k + 1 - (s + 1) = k - s := by omega
  refine ⟨h.bufSize_eq, h.stored, h.time, by omega, hk, fun a ha => ?_, by rw [hsub]; exact h.head,
    by rw [hsub]; exact h.frames, fun a hlo hhi => ?_, by rw [hsub]; exact h.last,
    fun a ha hne => ?_⟩
  · rw [h.buf a ha]
    rcases lt_trichotomy a k with hlt | rfl | hgt
    · rw [if_pos hlt, if_pos (by omega)]
    · rw [if_neg (by omega), if_pos (by omega), hn]
    · rw [if_neg (by omega), if_neg (by omega)]
  · rcases Nat.lt_succ_iff_lt_or_eq.1 hhi with hlt | rfl
    · exact h.gap a (by omega) hlt
    · exact hn
  · rcases Nat.lt_succ_iff_lt_or_eq.1 ha with hlt | rfl
    · exact h.passed a hlt hne
    · exact absurd hn hne

lemma SlotWalk.recycle_eq (h : SlotWalk now c₀ k s c) (hk : 0 < k) (fuel : ℕ) :
    recycleBetween c (walkSlot c₀ k) fuel (walkSlot c₀ 1) = c := by
  refine recycleBetween_empty h.bufSize_eq fuel 1 (fun a _ hak => ?_) hk
  rw [h.buf a (lt_of_lt_of_le hak h.le_size), if_pos hak]

lemma slot_inj {index a b B : ℕ} (ha : a < B) (hb : b < B)
    (heq : (index + a) % B = (index + b) % B) : a = b := by
  have hmod : a % B = b % B := Nat.ModEq.add_left_cancel' index heq
  rwa [mod_eq_of_lt ha, mod_eq_of_lt hb] at hmod

lemma SlotWalk.release (h : SlotWalk now c₀ k s c) (hk : k < c₀.bufSize)
    (hp : walkView c₀ k = some p) (hdue : s = 0 ∨ walkDue now c₀ k = true) :
    SlotWalk now c₀ (k + 1) 0 (skipHead s (phlReleaseReorderFrame c (walkSlot c₀ k))) := by
  have hs := h.skipped_le
  have hj : walkSlot c₀ k < c.bufSize := by
    rw [h.bufSize_eq]
    exact mod_lt _ (by omega)
  have hslot := h.buf k hk
  rw [if_neg (lt_irrefl k), hp] at hslot
  refine ⟨?_, ?_, ?_, by omega, hk, fun a ha => ?_, ?_, ?_, fun a hlo hhi => by omega, fun _ => ?_,
    fun a ha hne hbehind => ?_⟩
  · rw [skipHead, release_bufSize, h.bufSize_eq]
  · have hst := release_stored hj h.stored
    simpa [skipHead] using hst
  · rw [skipHead, release_reorderTime, h.time]
  · simp only [skipHead, release_reorderBuf]
    rcases lt_trichotomy a k with hlt | rfl | hgt
    · rw [update_of_ne fun he => absurd (slot_inj ha hk he) (by omega), h.buf a ha,
        if_pos hlt, if_pos (by omega)]
    · rw [update_self, if_pos (by omega)]
    · rw [update_of_ne fun he => absurd (slot_inj ha hk he) (by omega), h.buf a ha,
        if_neg (by omega), if_neg (by omega)]
  · simp [skipHead, h.head, seqInc, seqModulo]
    omega
  · simp only [skipHead, release_frames, h.frames, hslot, Nat.sub_zero]
    rw [occupied_succ, hp, occupied_of_gap (Nat.sub_le k s) h.gap, append_assoc]
  · simp [hp]
  · rcases Nat.lt_succ_iff_lt_or_eq.1 ha with hlt | rfl
    · exact h.passed a hlt hne hbehind
    rcases hdue with rfl | hdue
    · -- the slot before was released, so there is no gap
      simp [behindGap, isNone_iff_eq_none] at hbehind
      exact absurd hbehind.2 (h.last (by omega))
    · exact hdue

structure WalkEnd (now : ℕ) (c₀ : RxCtx α) (n : ℕ) (c : RxCtx α) : Prop where
  stops : StopsAt (walkView c₀) (walkDue now c₀) c₀.bufSize n
  bufSize_eq : c.bufSize = c₀.bufSize
  stored : c.storedMpduNum = (occupied c.bufSize c.reorderBuf).length
  head : c.headSeqNum = (c₀.headSeqNum + n) % 4096
  frames : c.frames = c₀.frames ++ occupied n (walkView c₀)

lemma SlotWalk.round (h : SlotWalk now c₀ k s c) (hk : k = c₀.bufSize) :
    WalkEnd now c₀ (k - s) c := by
  refine ⟨⟨by omega, h.last, fun a ha hne => h.passed a (by omega) hne, ?_⟩, h.bufSize_eq, h.stored,
    h.head, h.frames⟩
  intro a hlo hhi hne
  exact absurd (h.gap a hlo (by omega)) hne

lemma SlotWalk.wait (h : SlotWalk now c₀ k s c) (hk : k < c₀.bufSize) (hs : s ≠ 0)
    (hne : walkView c₀ k ≠ none) (hdue : walkDue now c₀ k = false) : WalkEnd now c₀ (k - s) c := by
  have hsk := h.skipped_le
  refine ⟨⟨by omega, h.last, fun a ha hne => h.passed a (by omega) hne, ?_⟩, h.bufSize_eq, h.stored,
    h.head, h.frames⟩
  intro a hlo hhi hne' hfirst
  obtain rfl : a = k := by
    rcases lt_trichotomy a k with hlt | rfl | hgt
    · exact absurd (h.gap a hlo hlt) hne'
    · rfl
    · exact absurd (hfirst k (by omega) hgt) hne
  exact ⟨by omega, hdue⟩

lemma SlotWalk.walk : ∀ (fuel k s : ℕ) (c : RxCtx α), 0 < k → c₀.bufSize ≤ k + fuel →
    SlotWalk now c₀ k s c → ∃ n, WalkEnd now c₀ n
      (timeoutWalk now (headSlot c₀) fuel (walkSlot c₀ k) s c).1
  | 0, k, s, c, _, hf, h => by
    have hle := h.le_size
    exact ⟨_, h.round (by omega)⟩
  | fuel + 1, k, s, c, h0, hf, h => by
    have hle := h.le_size
    have hindex := reorderIndex_lt (r := c₀.toTidAmpduRx) (by omega) c₀.headSeqNum
    rw [timeoutWalk]
    by_cases hj : walkSlot c₀ k = headSlot c₀
    · rw [if_pos hj]
      have hround : k = c₀.bufSize := by
        by_contra hne
        have hzero : k = 0 := by
          refine slot_inj (lt_of_le_of_ne hle hne) (by omega) (hj.trans ?_)
          rw [add_zero, mod_eq_of_lt hindex]
        omega
      exact ⟨_, h.round hround⟩
    rw [if_neg hj]
    have hk : k < c₀.bufSize := lt_of_le_of_ne hle (by
      rintro rfl
      exact hj (by rw [walkSlot, add_mod_right, mod_eq_of_lt hindex]))
    have hnext : (walkSlot c₀ k + 1) % c₀.bufSize = walkSlot c₀ (k + 1) := by
      rw [mod_add_mod, add_assoc]
    have hslot := h.buf k hk
    rw [if_neg (lt_irrefl k)] at hslot
    rcases hp : walkView c₀ k with _ | p <;> rw [hp] at hslot <;>
      simp only [hslot, h.bufSize_eq, hnext]
    · exact SlotWalk.walk fuel (k + 1) (s + 1) c (by omega) (by omega) (h.skip hk hp)
    rw [h.time, h.recycle_eq h0]
    have hwaits : walkDue now c₀ k = false ↔
        now < (c₀.reorderTime (walkSlot c₀ k) + htRxReorderBufTimeoutMs) % 2 ^ 32 := by
      rw [walkDue, Bool.not_eq_false', decide_eq_true_iff]
      rfl
    split_ifs with hw
    · exact ⟨_, h.wait hk hw.1 (by simp [hp]) (hwaits.2 hw.2)⟩
    have hdue : s = 0 ∨ walkDue now c₀ k = true := by
      by_contra hno
      push Not at hno
      exact hw ⟨hno.1, hwaits.1 (Bool.eq_false_iff.2 hno.2)⟩
    exact SlotWalk.walk fuel (k + 1) 0 _ (by omega) (by omega) (h.release hk hp hdue)

end Walk

section RunFromHead

variable {c : RxCtx α}

lemma releaseRun_count : ∀ (fuel : ℕ) {c : RxCtx α}, c.headSeqNum < 4096 →
    ∃ l, (releaseRun fuel c).frames = c.frames ++ l ∧ l.length ≤ fuel ∧
      (releaseRun fuel c).headSeqNum = (c.headSeqNum + l.length) % 4096 ∧
      (0 < fuel → c.reorderBuf (headSlot c) ≠ none → l ≠ [])
  | 0, c, hc => ⟨[], by simp [releaseRun], le_rfl, by simp [releaseRun, mod_eq_of_lt hc],
      fun h => absurd h (lt_irrefl 0)⟩
  | fuel + 1, c, hc => by
    rw [releaseRun]
    rcases hp : c.reorderBuf (headSlot c) with _ | p
    · exact ⟨[], by simp, by simp, by simp [mod_eq_of_lt hc], fun _ h => absurd rfl h⟩
    obtain ⟨l, hframes, hlen, hhead, -⟩ := releaseRun_count fuel
      (c := phlReleaseReorderFrame c (headSlot c))
      (by rw [release_headSeqNum]; exact seqInc_lt _)
    refine ⟨p :: l, ?_, by simpa using hlen, ?_, fun _ _ => by simp⟩
    · simp [hframes, release_frames, hp, toList_some]
    · simp [hhead, seqInc, seqModulo]
      omega

structure RunAt (ssn B n : ℕ) (c₀ c : RxCtx α) : Prop where
  window : WindowInv ssn B c
  head : c.headSeqNum = (c₀.headSeqNum + n) % 4096
  frames : c.frames = c₀.frames ++ occupied n (storedView c₀)
  buf : ∀ i p, c.reorderBuf i = some p
    ↔ c₀.reorderBuf i = some p ∧ n ≤ seqSub p.seq c₀.headSeqNum

lemma RunAt.succ {c₀ : RxCtx α} (h : RunAt ssn B n c₀ c) (h₀ : WindowInv ssn B c₀) (hB : 0 < B)
    (hn : n < 4096) (hp : storedView c₀ n = some p) :
    c.reorderBuf (headSlot c) = some p ∧
      RunAt ssn B (n + 1) c₀ (phlReleaseReorderFrame c (headSlot c)) := by
  obtain ⟨hbuf₀, hseq⟩ := (h₀.storedView_eq hB).1 hp
  have hdist := h₀.storedView_dist hB hn hp
  have hheadseq : c.headSeqNum = p.seq := by rw [h.head, hseq, numberAt]
  have hindex : headSlot c = reorderIndex c₀.toTidAmpduRx p.seq := by
    rw [headSlot, hheadseq, h.window.reorderIndex_eq, h₀.reorderIndex_eq]
  have hslot : c.reorderBuf (headSlot c) = some p := by
    rw [hindex]
    exact (h.buf _ p).2 ⟨hbuf₀, by omega⟩
  refine ⟨hslot, h.window.release_head hB, ?_, ?_, fun i q => ?_⟩
  · rw [release_headSeqNum, h.head]
    simp only [seqInc, seqModulo]
    omega
  · rw [release_frames, hslot, h.frames, occupied_succ, hp, append_assoc]
  rw [release_reorderBuf, clear_eq_some, h.buf]
  constructor
  · rintro ⟨hne, hq, hle⟩
    refine ⟨hq, lt_of_le_of_ne hle fun heq => hne ?_⟩
    -- another frame at this distance would be the same number
    rw [hindex, (h₀.inWindow i q hq).2]
    have hp4 := p.seq_lt
    have hq4 := q.seq_lt
    have hsame : q.seq = p.seq := by
      simp only [seqSub, seqModulo] at hdist heq
      omega
    rw [hsame]
  · rintro ⟨hq, hlt⟩
    refine ⟨fun hi => ?_, hq, by omega⟩
    rw [hi, hindex, hbuf₀] at hq
    cases hq
    omega

lemma runAt_of_filled (h : WindowInv ssn B c) (hB : 0 < B) (hhead : c.headSeqNum < 4096) :
    ∀ (n : ℕ), n ≤ 4096 → (∀ k < n, storedView c k ≠ none) →
      ∃ c', RunAt ssn B n c c' ∧ ∀ fuel, releaseRun (fuel + n) c = releaseRun fuel c'
  | 0, _, _ => ⟨c, ⟨h, by simp [mod_eq_of_lt hhead], by simp [occupied], by simp⟩, fun _ => rfl⟩
  | n + 1, hn, hfill => by
    obtain ⟨c', hrun, heq⟩ := runAt_of_filled h hB hhead n (by omega) fun k hk => hfill k (by omega)
    obtain ⟨p, hp⟩ := ne_none_iff_exists'.1 (hfill n (by omega))
    obtain ⟨hslot, hnext⟩ := hrun.succ h hB (by omega) hp
    refine ⟨_, hnext, fun fuel => ?_⟩
    rw [← add_assoc, add_right_comm, heq (fuel + 1), releaseRun, hslot]

end RunFromHead

lemma timerScan_ends {r : TidAmpduRx α} {index : ℕ} : ∀ (fuel k : ℕ),
    (∃ a, k ≤ a ∧ a < k + fuel ∧ r.reorderBuf ((index + a) % r.bufSize) ≠ none) →
    ∃ j, timerScan r index fuel ((index + k) % r.bufSize) = some j
  | 0, k, ⟨a, hlo, hhi, _⟩ => absurd hhi (by omega)
  | fuel + 1, k, ⟨a, hlo, hhi, hne⟩ => by
    have hnext : ((index + k) % r.bufSize + 1) % r.bufSize = (index + (k + 1)) % r.bufSize := by
      rw [mod_add_mod, add_assoc]
    rw [timerScan]
    split_ifs
    · exact ⟨_, rfl⟩
    rcases hp : r.reorderBuf ((index + k) % r.bufSize) with _ | p
    · have hak : a ≠ k := by
        rintro rfl
        exact hne hp
      simp only [hnext]
      exact timerScan_ends fuel (k + 1) ⟨a, by omega, by omega, hne⟩
    · exact ⟨_, rfl⟩

lemma timerScan_of_stored {c : RxCtx α} (hB : 0 < c.bufSize)
    (hst : c.storedMpduNum = (occupied c.bufSize c.reorderBuf).length) (h0 : c.storedMpduNum ≠ 0) :
    ∃ j, timerScan c.toTidAmpduRx (c.headSeqNum % c.bufSize) c.bufSize
      (c.headSeqNum % c.bufSize) = some j := by
  have hne : occupied c.bufSize c.reorderBuf ≠ [] := by
    intro hnil
    rw [hst, hnil] at h0
    exact h0 rfl
  obtain ⟨p, hp⟩ := exists_mem_of_ne_nil _ hne
  obtain ⟨i, hi, hp⟩ := mem_occupied.1 hp
  have hidx : c.headSeqNum % c.bufSize < c.bufSize := mod_lt _ hB
  -- the slot `i` is this far on from where the scan begins
  obtain ⟨a, ha, hreach⟩ : ∃ a < c.bufSize, (c.headSeqNum % c.bufSize + a) % c.bufSize = i := by
    refine ⟨(i + (c.bufSize - c.headSeqNum % c.bufSize)) % c.bufSize, mod_lt _ hB, ?_⟩
    rw [add_mod_mod, show c.headSeqNum % c.bufSize
      + (i + (c.bufSize - c.headSeqNum % c.bufSize)) = i + c.bufSize by omega,
      add_mod_right, mod_eq_of_lt hi]
  have hfull : c.reorderBuf ((c.headSeqNum % c.bufSize + a) % c.bufSize) ≠ none := by
    rw [hreach, hp]
    exact some_ne_none p
  have hends := timerScan_ends c.bufSize 0 ⟨a, zero_le a, by omega, hfull⟩
  rwa [add_zero, mod_eq_of_lt hidx] at hends

/-- The loops end by themselves, not by their bounds. -/
structure LoopsEnd (now : ℕ) (c : RxCtx α) : Prop where
  run : (releaseRun c.bufSize c).reorderBuf (headSlot (releaseRun c.bufSize c)) = none
  walk : ∀ extra, timeoutWalk now (headSlot c) (c.bufSize + extra) (walkSlot c 1) 1 c
    = timeoutWalk now (headSlot c) c.bufSize (walkSlot c 1) 1 c
  scan : (phlReorderRelease now c).storedMpduNum ≠ 0 →
    ∃ j, timerScan (phlReorderRelease now c).toTidAmpduRx
      ((phlReorderRelease now c).headSeqNum % c.bufSize) c.bufSize
      ((phlReorderRelease now c).headSeqNum % c.bufSize) = some j

/-- The frames that are due are released in order, and the head moves behind them. -/
structure ReleasesInOrder (now : ℕ) (c : RxCtx α) : Prop where
  frames : (phlReorderRelease now c).frames
    = c.frames ++ (releaseSpec now c).filterMap (storedView c)
  head : (phlReorderRelease now c).headSeqNum
    = (c.headSeqNum + upTo (releaseSpec now c)) % 4096
  loops : LoopsEnd now c

/-- The slots show the frames to be released in their places, and the next frame they show is behind
a gap and before its deadline. -/
def WalkOK (now : ℕ) (c : RxCtx α) : Prop :=
  StopsAt (walkView c) (walkDue now c) c.bufSize (upTo (releaseSpec now c)) ∧
    ∀ k < upTo (releaseSpec now c), walkView c k = storedView c k

/-- The head is in its slot, and the first missing number's slot shows no frame that stays. -/
def HeadRunOK (now : ℕ) (c : RxCtx α) : Prop :=
  storedView c 0 ≠ none ∧
    ∀ p, c.reorderBuf (reorderIndex c.toTidAmpduRx (numberAt c (upTo (releaseSpec now c))))
      = some p → seqSub p.seq c.headSeqNum < upTo (releaseSpec now c)

/-- What the slots and the deadlines show ends the release where it is to end. -/
def ReleaseOK (now : ℕ) (c : RxCtx α) : Prop :=
  if c.reorderBuf (headSlot c) = none then WalkOK now c
  else HeadRunOK now c

section Cases

variable {now : ℕ} {c : RxCtx α}

lemma WindowInv.headRun : ∀ (fuel : ℕ) {c : RxCtx α}, WindowInv ssn B c → 0 < B →
    WindowInv ssn B (releaseRun fuel c)
  | 0, _, h, _ => h
  | fuel + 1, c, h, hB => by
    rw [releaseRun]
    split
    · exact h
    · exact WindowInv.headRun fuel (h.release_head hB) hB

lemma WalkEnd.timer {c' : RxCtx α} (h : WalkEnd now c n c') (b : Bool) :
    WalkEnd now c n { c' with timerSet := b } :=
  ⟨h.stops, h.bufSize_eq, h.stored, h.head, h.frames⟩

lemma WindowInv.release_walk (h : WindowInv ssn B c) (hB : 0 < B) (hhead : c.headSeqNum < 4096)
    (now : ℕ) (hn : c.reorderBuf (headSlot c) = none) :
    ∃ n, WalkEnd now c n (phlReorderRelease now c) := by
  have hsize : 0 < c.bufSize := by rw [h.bufSize_eq]; exact hB
  have hst : c.storedMpduNum = (occupied c.bufSize c.reorderBuf).length := by
    rw [h.bufSize_eq]
    exact h.stored
  by_cases h0 : c.storedMpduNum = 0
  · have hempty : ∀ k, walkView c k = none := fun k => h.empty_of_stored hB h0 _
    have hstays : WalkEnd now c 0 c :=
      ⟨⟨zero_le _, fun h => absurd h (lt_irrefl 0), fun _ hk => absurd hk (not_lt_zero _),
        fun k _ _ hne => absurd (hempty k) hne⟩, rfl, hst, by simp [mod_eq_of_lt hhead],
        by simp [occupied]⟩
    refine ⟨0, phlReorderRelease_rule (P := WalkEnd now c 0) now (fun c' b hc' => hc'.timer b)
      (fun _ => ?_) fun _ hne => absurd h0 hne⟩
    rwa [releaseRun_of_none _ hn]
  · have hstart : SlotWalk now c 1 1 c := .start hsize hst hhead hn
    obtain ⟨n, hend⟩ := hstart.walk c.bufSize 1 1 c one_pos (by omega)
    exact ⟨n, phlReorderRelease_rule (P := WalkEnd now c n) now (fun c' b hc' => hc'.timer b)
      (fun hno => absurd ⟨hn, h0⟩ hno) fun _ _ => hend⟩

lemma release_headRun (now : ℕ)
    (hp : c.reorderBuf (headSlot c) ≠ none) :
    (phlReorderRelease now c).frames = (releaseRun c.bufSize c).frames ∧
      (phlReorderRelease now c).toTidAmpduRx = (releaseRun c.bufSize c).toTidAmpduRx := by
  rw [phlReorderRelease, if_neg fun h => hp h.1]
  obtain ⟨b, hb⟩ := rearmTimer_eq (releaseRun c.bufSize c)
  rw [hb]
  exact ⟨rfl, rfl⟩

lemma WindowInv.loops_end (h : WindowInv ssn B c) (hB : 0 < B) (hhead : c.headSeqNum < 4096)
    (now : ℕ) : LoopsEnd now c := by
  refine ⟨(h.passes_enough hB now 0).1, fun extra => (h.passes_enough hB now extra).2, fun h0 => ?_⟩
  obtain ⟨hsize, hst⟩ : (phlReorderRelease now c).bufSize = c.bufSize ∧
      (phlReorderRelease now c).storedMpduNum = (occupied (phlReorderRelease now c).bufSize
        (phlReorderRelease now c).reorderBuf).length := by
    by_cases hn : c.reorderBuf (headSlot c) = none
    · obtain ⟨n, hend⟩ := h.release_walk hB hhead now hn
      exact ⟨hend.bufSize_eq, hend.stored⟩
    · have hrun := h.headRun c.bufSize hB
      rw [(release_headRun now hn).2]
      refine ⟨by rw [hrun.bufSize_eq, h.bufSize_eq], ?_⟩
      rw [hrun.bufSize_eq]
      exact hrun.stored
  have hscan := timerScan_of_stored (by rw [hsize, h.bufSize_eq]; exact hB) hst h0
  rwa [hsize] at hscan

lemma WindowInv.storedView_zero (h : WindowInv ssn B c) (hB : 0 < B) (hhead : c.headSeqNum < 4096)
    (hn : c.reorderBuf (headSlot c) = none) :
    storedView c 0 = none := by
  rcases hv : storedView c 0 with _ | p
  · rfl
  · obtain ⟨hp, hseq⟩ := (h.storedView_eq hB).1 hv
    rw [hseq, numberAt, add_zero, mod_eq_of_lt hhead, hn] at hp
    cases hp

lemma WindowInv.inLine_of_slot (h : WindowInv ssn B c) (hp : c.reorderBuf i = some p)
    (hslot : i = (seqSub c.headSeqNum ssn % B + seqSub p.seq c.headSeqNum) % B) :
    InLine ssn B c.headSeqNum p.seq := by
  by_contra hno
  obtain ⟨hdvd, hlt⟩ := not_or.1 hno
  have hwrap : seqSub c.headSeqNum ssn + seqSub p.seq c.headSeqNum = seqSub p.seq ssn + 4096 := by
    simp only [seqSub, seqModulo] at *
    omega
  have hindex := (h.inWindow i p hp).2
  rw [h.reorderIndex_eq, hslot, mod_add_mod, hwrap] at hindex
  have hmod : 4096 % B = 0 % B := Nat.ModEq.add_left_cancel' (seqSub p.seq ssn) hindex
  exact hdvd (dvd_of_mod_eq_zero hmod)

section

variable (h : WindowInv ssn B c)
include h

lemma WindowInv.walkView_eq (k : ℕ) :
    walkView c k = c.reorderBuf ((seqSub c.headSeqNum ssn % B + k) % B) := by
  rw [walkView, walkSlot, h.reorderIndex_eq, h.bufSize_eq]

lemma WindowInv.walkView_of_stored (hp : c.reorderBuf i = some p)
    (hline : InLine ssn B c.headSeqNum p.seq) :
    walkView c (seqSub p.seq c.headSeqNum) = some p := by
  rw [h.walkView_eq, ← hline.slot_eq, ← h.reorderIndex_eq, ← (h.inWindow i p hp).2, hp]

lemma WindowInv.dist_of_walkView {k : ℕ} (hk : k < B)
    (hp : walkView c k = some p) (hline : InLine ssn B c.headSeqNum p.seq) :
    seqSub p.seq c.headSeqNum = k := by
  rw [h.walkView_eq] at hp
  obtain ⟨hw, hi⟩ := h.inWindow _ p hp
  rw [h.reorderIndex_eq, hline.slot_eq] at hi
  exact (slot_inj hk hw hi).symm

lemma WindowInv.views_agree (hB : 0 < B) (hB' : B < 4096) (hn : n ≤ B)
    (hlast : 0 < n → walkView c (n - 1) ≠ none ∧ storedView c (n - 1) ≠ none)
    (heq : occupied n (walkView c) = occupied n (storedView c)) :
    ∀ k < n, walkView c k = storedView c k := by
  intro k hk
  obtain ⟨m, rfl⟩ : ∃ m, n = m + 1 := ⟨n - 1, by omega⟩
  obtain ⟨hwm, hvm⟩ := hlast m.succ_pos
  obtain ⟨q, hwq⟩ := ne_none_iff_exists'.1 hwm
  obtain ⟨q', hvq⟩ := ne_none_iff_exists'.1 hvm
  rw [Nat.add_sub_cancel] at hwq hvq
  obtain rfl : q = q' := by
    have hends := congrArg getLast? heq
    simpa [occupied_succ, hwq, hvq] using hends
  have hqdist := h.storedView_dist hB (by omega) hvq
  have hqline : InLine ssn B c.headSeqNum q.seq := by
    have hq := hwq
    rw [h.walkView_eq] at hq
    exact h.inLine_of_slot hq (by rw [hqdist])
  -- the others are not further ahead, so they are in line too
  have hline : ∀ {a p}, a < m + 1 → storedView c a = some p → InLine ssn B c.headSeqNum p.seq := by
    intro a p ha hp
    have hdist := h.storedView_dist hB (by omega) hp
    refine hqline.imp_right fun hlt => ?_
    simp only [seqSub, seqModulo] at *
    omega
  rcases hw : walkView c k with _ | p
  · rcases hv : storedView c k with _ | p
    · rfl
    · have hseen := h.walkView_of_stored ((h.storedView_eq hB).1 hv).1 (hline hk hv)
      rw [h.storedView_dist hB (by omega) hv, hw] at hseen
      cases hseen
  · have hmem : p ∈ occupied (m + 1) (storedView c) := heq ▸ mem_occupied.2 ⟨k, hk, hw⟩
    obtain ⟨a, ha, hv⟩ := mem_occupied.1 hmem
    have hak := h.dist_of_walkView (by omega) hw (hline ha hv)
    rw [h.storedView_dist hB (by omega) hv] at hak
    rw [← hak, hv]

end

end Cases

section Release

variable {now : ℕ} {c : RxCtx α}

lemma takeWhile_range {v : ℕ → Option α} {B : ℕ} (hn : n ≤ B) (hfill : ∀ k < n, v k ≠ none)
    (hend : n < B → v n = none) : (range B).takeWhile (fun k => (v k).isSome) = range n := by
  obtain ⟨m, rfl⟩ := Nat.exists_eq_add_of_le hn
  rw [range_add, takeWhile_append_of_pos fun k hk =>
    isSome_iff_ne_none.2 (hfill k (mem_range.1 hk))]
  cases m with
  | zero => simp
  | succ m => simp [range_succ_eq_map, hend (by omega)]

lemma exists_firstGap (v : ℕ → Option α) (B : ℕ) :
    ∃ n ≤ B, (∀ k < n, v k ≠ none) ∧ (n < B → v n = none) := by
  induction B with
  | zero =>
    exact ⟨0, le_rfl, fun k hk => absurd hk (not_lt_zero k), fun h => absurd h (lt_irrefl 0)⟩
  | succ B ih =>
    obtain ⟨n, hn, hfill, hend⟩ := ih
    by_cases hB : n = B ∧ v B ≠ none
    · obtain ⟨rfl, hne⟩ := hB
      refine ⟨n + 1, le_rfl, fun k hk => ?_, fun h => absurd h (lt_irrefl _)⟩
      rcases Nat.lt_succ_iff_lt_or_eq.1 hk with hlt | rfl
      · exact hfill k hlt
      · exact hne
    · refine ⟨n, by omega, hfill, fun hlt => ?_⟩
      rcases lt_or_ge n B with hltB | hge
      · exact hend hltB
      · obtain rfl : n = B := by omega
        by_contra hne
        exact hB ⟨rfl, hne⟩

lemma upTo_range (n : ℕ) : upTo (range n) = n := by
  cases n with
  | zero => rfl
  | succ n => simp [upTo, range_succ]

lemma releaseSpec_stops (now : ℕ) (h0 : storedView c 0 = none) :
    ∃ m, StopsAt (storedView c) (dueView now c) c.bufSize m ∧ upTo (releaseSpec now c) = m ∧
      (releaseSpec now c).filterMap (storedView c) = occupied m (storedView c) := by
  obtain ⟨m, hstops⟩ := exists_stopsAt (storedView c) (dueView now c) c.bufSize
  rw [releaseSpec, if_neg (not_not.2 h0)]
  exact ⟨m, hstops, hstops.upTo_eq, hstops.items_eq⟩

lemma WindowInv.walk_iff (h : WindowInv ssn B c) (hB : 0 < B) (hB' : B < 4096)
    (hhead : c.headSeqNum < 4096)
    (hn : c.reorderBuf (headSlot c) = none) :
    ReleasesInOrder now c ↔ WalkOK now c := by
  obtain ⟨n, hend⟩ := h.release_walk hB hhead now hn
  obtain ⟨m, hstops, hup, hitems⟩ := releaseSpec_stops now (h.storedView_zero hB hhead hn)
  have hnle := hend.stops.le
  have hmle := hstops.le
  rw [h.bufSize_eq] at hnle hmle
  rw [WalkOK, hup]
  constructor
  · intro hrel
    have hheads := hrel.head
    rw [hend.head, hup] at hheads
    obtain rfl : n = m := by omega
    have hframes := hrel.frames
    rw [hend.frames, hitems, append_cancel_left_eq] at hframes
    exact ⟨hend.stops, h.views_agree hB hB' hnle
      (fun h0 => ⟨hend.stops.last h0, hstops.last h0⟩) hframes⟩
  · rintro ⟨hstops', hagree⟩
    obtain rfl := hend.stops.unique hstops'
    refine ⟨?_, by rw [hend.head, hup], h.loops_end hB hhead now⟩
    rw [hend.frames, hitems, occupied_congr hagree]

section

variable (h : WindowInv ssn B c) (hB : 0 < B) (hB' : B < 4096) (hhead : c.headSeqNum < 4096)
  (hp : c.reorderBuf (headSlot c) ≠ none)
include h hB hB' hhead hp

/-- A frame in the head's slot that is not the head goes first, as if it were. -/
lemma WindowInv.not_releasesInOrder (h0 : storedView c 0 = none) : ¬ ReleasesInOrder now c := by
  intro hrel
  obtain ⟨hframes, htid⟩ := release_headRun now hp
  obtain ⟨l, hl, hlen, hlhead, hne⟩ := releaseRun_count c.bufSize hhead
  obtain ⟨m, hstops, hup, hspec⟩ := releaseSpec_stops now h0
  have hmle := hstops.le
  rw [h.bufSize_eq] at hmle hlen
  have hitems := hrel.frames
  rw [hframes, hl, hspec, append_cancel_left_eq] at hitems
  have hheads := hrel.head
  rw [htid, hlhead, hup] at hheads
  -- as many positions as frames, though the first has none
  have hcount : l.length = m := by omega
  have hpos : 0 < m := by
    rw [← hcount]
    exact length_pos_iff.2 (hne (by rw [h.bufSize_eq]; exact hB) hp)
  have hfew := length_held_lt h0 hpos
  have hle := length_filterMap_le (storedView c) (held (storedView c) m)
  rw [filterMap_held, ← hitems, hcount] at hle
  omega

lemma WindowInv.headRun_iff : ReleasesInOrder now c ↔ HeadRunOK now c := by
  by_cases h0 : storedView c 0 = none
  · exact iff_of_false (h.not_releasesInOrder hB hB' hhead hp h0) fun hok => hok.1 h0
  obtain ⟨n, hn, hfill, hgap⟩ := exists_firstGap (storedView c) c.bufSize
  have hspec : releaseSpec now c = range n := by
    rw [releaseSpec, if_pos h0, takeWhile_range hn hfill hgap]
  have hup : upTo (releaseSpec now c) = n := by rw [hspec, upTo_range]
  have hnB : n ≤ B := by rw [← h.bufSize_eq]; exact hn
  obtain ⟨c', hrun, hpasses⟩ := runAt_of_filled h hB hhead n (by omega) hfill
  have hpasses : releaseRun c.bufSize c = releaseRun (c.bufSize - n) c' := by
    rw [← hpasses, Nat.sub_add_cancel hn]
  obtain ⟨hframes, htid⟩ := release_headRun now hp
  have hhead' : c'.headSeqNum = numberAt c n := hrun.head
  have hlt' : c'.headSeqNum < 4096 := by rw [hrun.head]; omega
  -- the slot of the first missing number, when the loop gets there
  have hslot : (∀ p, c.reorderBuf (reorderIndex c.toTidAmpduRx (numberAt c n)) = some p →
      seqSub p.seq c.headSeqNum < n)
      ↔ c'.reorderBuf (reorderIndex c'.toTidAmpduRx c'.headSeqNum) = none := by
    rw [hhead', hrun.window.reorderIndex_eq, ← h.reorderIndex_eq, eq_none_iff_forall_ne_some]
    refine forall_congr' fun p => ?_
    rw [ne_eq, hrun.buf]
    exact ⟨fun hlt hin => by have := hlt hin.1; omega, fun hno hin => by
      by_contra hge
      exact hno ⟨hin, by omega⟩⟩
  rw [HeadRunOK, hup, hslot]
  constructor
  · intro hrel
    refine ⟨h0, ?_⟩
    by_contra hfull
    obtain ⟨l, hl, -, -, hne⟩ := releaseRun_count (c.bufSize - n) hlt'
    obtain ⟨p, hp'⟩ := ne_none_iff_exists'.1 hfull
    obtain ⟨hpc, hdist⟩ := (hrun.buf _ p).1 hp'
    have hwin := (h.inWindow _ p hpc).1
    have hitems := hrel.frames
    rw [hframes, hpasses, hl, hrun.frames, hspec, append_assoc, append_cancel_left_eq] at hitems
    have hnil : l = [] := append_right_eq_self.1 hitems
    exact hne (by rw [h.bufSize_eq]; omega) hfull hnil
  · rintro ⟨-, hempty⟩
    refine ⟨?_, ?_, h.loops_end hB hhead now⟩
    · rw [hframes, hpasses, releaseRun_of_none _ hempty, hrun.frames, hspec]
      rfl
    · rw [htid, hpasses, releaseRun_of_none _ hempty, hrun.head, hup]

end

/-- The clock has not come round since a frame was stored, and does not before its deadline. -/
def ClockOK (now : ℕ) (c : RxCtx α) : Prop :=
  ∀ i p, c.reorderBuf i = some p →
    c.reorderTime i ≤ now ∧ c.reorderTime i + htRxReorderBufTimeoutMs < 2 ^ 32

lemma WindowInv.walkDue_eq (h : WindowInv ssn B c) (hB : 0 < B) (hB' : B < 4096)
    (hnow : now < 2 ^ 32) (hclock : ClockOK now c)
    (hline : ∀ i p, c.reorderBuf i = some p → InLine ssn B c.headSeqNum p.seq) {k : ℕ} (hk : k < B)
    (hne : storedView c k ≠ none) : walkDue now c k = dueView now c k := by
  obtain ⟨p, hp⟩ := ne_none_iff_exists'.1 hne
  obtain ⟨hbuf, hseq⟩ := (h.storedView_eq hB).1 hp
  have hslot : slotHolding c (numberAt c k) = some (walkSlot c k) := by
    rw [(h.slotHolding_eq hB).2 ⟨p, hbuf, hseq⟩, h.reorderIndex_eq, (hline _ p hbuf).slot_eq,
      h.storedView_dist hB (by omega) hp, walkSlot, h.reorderIndex_eq, h.bufSize_eq]
  obtain ⟨q, hq, -⟩ := stored_of_slotHolding hslot
  obtain ⟨hle, hlt⟩ := hclock _ q hq
  have helapsed : elapsed now (c.reorderTime (walkSlot c k))
      = now - c.reorderTime (walkSlot c k) := by
    rw [elapsed]
    omega
  rw [walkDue, dueView, hslot, any_some, helapsed, ← decide_not]
  refine decide_eq_decide.2 ?_
  rw [Waiting, mod_eq_of_lt hlt]
  omega

/-- Where no frame has wrapped and the clock does not, slots and deadlines show what is there. -/
lemma WindowInv.releaseOK_of_inLine (h : WindowInv ssn B c) (hB : 0 < B) (hB' : B < 4096)
    (hhead : c.headSeqNum < 4096) (hnow : now < 2 ^ 32) (hclock : ClockOK now c)
    (hline : ∀ i p, c.reorderBuf i = some p → InLine ssn B c.headSeqNum p.seq) :
    ReleaseOK now c := by
  have hsame : ∀ k < B, walkView c k = storedView c k := by
    intro k hk
    rcases hw : walkView c k with _ | p
    · rcases hv : storedView c k with _ | p
      · rfl
      · have hbuf := ((h.storedView_eq hB).1 hv).1
        have hseen := h.walkView_of_stored hbuf (hline _ p hbuf)
        rw [h.storedView_dist hB (by omega) hv, hw] at hseen
        cases hseen
    · have hbuf := hw
      have hseen := h.storedView_of_stored hB hbuf
      rwa [h.dist_of_walkView hk hw (hline _ p hbuf), eq_comm] at hseen
  rw [ReleaseOK]
  split_ifs with hn
  · obtain ⟨m, hstops, hup, -⟩ := releaseSpec_stops now (h.storedView_zero hB hhead hn)
    have hmle := hstops.le
    rw [h.bufSize_eq] at hmle
    rw [WalkOK, hup]
    refine ⟨hstops.congr (fun k hk => ?_) fun k hk hne => ?_, fun k hk => hsame k (by omega)⟩
    · exact hsame k (by rwa [h.bufSize_eq] at hk)
    · exact h.walkDue_eq hB hB' hnow hclock hline (by rwa [h.bufSize_eq] at hk) hne
  · have hzero : walkView c 0 = c.reorderBuf (headSlot c) := by
      have hsize : 0 < c.bufSize := by rw [h.bufSize_eq]; exact hB
      rw [walkView, walkSlot, add_zero, mod_eq_of_lt (reorderIndex_lt hsize _)]
    have h0 : storedView c 0 ≠ none := by
      rwa [← hsame 0 hB, hzero]
    obtain ⟨n, hnle, hfill, hgap⟩ := exists_firstGap (storedView c) c.bufSize
    have hup : upTo (releaseSpec now c) = n := by
      rw [releaseSpec, if_pos h0, takeWhile_range hnle hfill hgap, upTo_range]
    rw [h.bufSize_eq] at hgap
    refine ⟨h0, fun p hp => ?_⟩
    rw [hup] at hp ⊢
    obtain ⟨hw, hi⟩ := h.inWindow _ p hp
    by_contra hge
    have hnB : n < B := by omega
    -- the frame and the missing number share a slot, so they are one or the number has wrapped
    by_cases hnline : InLine ssn B c.headSeqNum (numberAt c n)
    · have hdist : seqSub (numberAt c n) c.headSeqNum = n := by
        simp only [numberAt, seqSub, seqModulo]
        omega
      rw [h.reorderIndex_eq, h.reorderIndex_eq, hnline.slot_eq, (hline _ p hp).slot_eq, hdist] at hi
      have hpn := slot_inj hnB hw hi
      have hseen := h.storedView_of_stored hB hp
      rw [← hpn, hgap hnB] at hseen
      cases hseen
    · obtain ⟨hdvd, hwrap⟩ := not_or.1 hnline
      have hpline := (hline _ p hp).resolve_left hdvd
      simp only [numberAt, seqSub, seqModulo] at *
      omega

theorem reorder_release_iff (h : WindowInv ssn B c) (hB : 0 < B) (hB' : B < 4096)
    (hhead : c.headSeqNum < 4096) : ReleasesInOrder now c ↔ ReleaseOK now c := by
  rw [ReleaseOK]
  split_ifs with hn
  · exact h.walk_iff hB hB' hhead hn
  · exact h.headRun_iff hB hB' hhead hn

end Release

def twoWaiting : RxCtx Unit :=
  storeMpdu ⟨3, by decide, ()⟩ 3 150 (storeMpdu ⟨1, by decide, ()⟩ 1 0 (phlTidAmpduRxAlloc 0 64))

lemma twoWaiting_inv : SessionInv 0 64 twoWaiting := by
  have hfirst : SessionInv 0 64
      (storeMpdu ⟨1, by decide, ()⟩ 1 0 (phlTidAmpduRxAlloc 0 64 : RxCtx Unit)) :=
    (alloc_inv (by decide) (by decide) (by decide)).store _ 0 rfl (by decide) (by decide)
  exact hfirst.store _ 150 (by decide) (by decide) (by decide)

theorem reorder_release_twoWaiting : ReleasesInOrder 200 twoWaiting := by
  refine (reorder_release_iff twoWaiting_inv.toWindowInv (by decide) (by decide) (by decide)).2 ?_
  refine twoWaiting_inv.toWindowInv.releaseOK_of_inLine (by decide) (by decide) (by decide)
    (by decide) (fun i p hp => ?_) fun i p _ => .inl (by decide)
  rcases fill_eq_some.1 hp with ⟨rfl, -⟩ | ⟨hne, hp⟩
  · exact ⟨by decide, by decide⟩
  rcases fill_eq_some.1 hp with ⟨rfl, -⟩ | ⟨-, hp⟩
  · exact ⟨by decide, by decide⟩
  · cases hp

def beforeClockWrap : RxCtx Unit :=
  storeMpdu ⟨1, by decide, ()⟩ 1 (2 ^ 32 - 50) (phlTidAmpduRxAlloc 0 4)

def pastSsn : RxCtx Unit :=
  storeMpdu ⟨0, Nat.succ_pos 4095, ()⟩ 0 0 { phlTidAmpduRxAlloc 0 3 with headSeqNum := 4094 }

/-- A fresh frame's deadline has wrapped; and the walk finds frame 0 in the slot of 4095. -/
theorem reorder_release_fails :
    (SessionInv 0 4 beforeClockWrap ∧ ¬ ReleasesInOrder (2 ^ 32 - 40) beforeClockWrap) ∧
      (SessionInv 0 3 pastSsn ∧ ¬ ReleasesInOrder 200 pastSsn) := by
  refine ⟨⟨?_, fun h => ?_⟩, ?_, fun h => ?_⟩
  · exact (alloc_inv (by decide) (by decide) (by decide)).store _ _ rfl (by decide) (by decide)
  · exact absurd h.head (by decide)
  · have hstart : SessionInv 0 3
        ({ phlTidAmpduRxAlloc 0 3 with headSeqNum := 4094 } : RxCtx Unit) :=
      ⟨⟨rfl, rfl, rfl, nofun⟩, by decide, by decide, by decide, fun _ => rfl⟩
    exact hstart.store _ 0 rfl (by decide) (by decide)
  · exact absurd h.head (by decide)

end Rtl8852be

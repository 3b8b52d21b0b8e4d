import Rtl8852be.MccNoa
import Rtl8852be.Proofs.MccStart

/-!
# When the announced absence begins at the end of the slot

The time computed is the end of the interval, less the noted Bluetooth segment. That is right when
the durations and the segment fill the interval and the Bluetooth slot is the last one.
-/

namespace Rtl8852be

open MccEnInfo Option Prod

section Slots

variable {m : MccPattern} {ref ano : MccDurInfo} {btDur : ℤ} {offset : ℕ}
variable {m' : MccPattern}

@[local simp] lemma mccFillSlotInfo_slotOrder {btRole : Bool} {dur : ℕ} {mrole : Option ℕ}
    (h : m.slotOrder.length < 4) :
    (mccFillSlotInfo btRole dur mrole m).slotOrder
      = m.slotOrder ++ [⟨dur, btRole, if btRole then none else mrole⟩] := by
  rw [mccFillSlotInfo, if_neg (by simpa [slotNum] using h)]

@[simp] lemma mccFillSlotInfo_roleAno (btRole : Bool) (dur : ℕ) (mrole : Option ℕ) :
    (mccFillSlotInfo btRole dur mrole m).roleAno = m.roleAno := by
  unfold mccFillSlotInfo
  split_ifs <;> rfl

/-- The orders that a fill can leave. -/
inductive ApClientSlots (ref ano bt : MccSlotInfo) : List MccSlotInfo → Prop
  | noBt : ApClientSlots ref ano bt [ref, ano]
  | btLast : ApClientSlots ref ano bt [ref, ano, bt]
  | btBetween : ApClientSlots ref ano bt [ref, bt, ano]

def wifiSlot (dur role : ℕ) : MccSlotInfo := ⟨dur, false, some role⟩

def btSlot (btDur : ℤ) : MccSlotInfo := ⟨toU16 btDur, true, none⟩

structure MccSameSlots (m m' : MccPattern) : Prop where
  slotOrder : m'.slotOrder = m.slotOrder
  roleRef : m'.roleRef = m.roleRef
  roleAno : m'.roleAno = m.roleAno

lemma MccSameSlots.courtesy (p : Prop) [Decidable p] (src tgt : ℕ) :
    MccSameSlots m (if p then mccSetCourtesy src tgt m else m) := by
  split_ifs <;> exact ⟨rfl, rfl, rfl⟩

lemma MccSameSlots.numbers (h : MccSameSlots m m') (tobR toaR tobA toaA : ℤ) :
    MccSameSlots m { m' with tobR := tobR, toaR := toaR, tobA := tobA, toaA := toaA } :=
  ⟨h.slotOrder, h.roleRef, h.roleAno⟩

lemma mccSameSlots_2wslot1btslotNego {gap off : ℤ}
    (h : mccCalc2wslot1btslotNego gap ref ano off m = some m') : MccSameSlots m m' := by
  unfold mccCalc2wslot1btslotNego at h
  rcases hr : ref.durLimit.enable <;> rcases ha : ano.durLimit.enable <;>
    simp only [hr, ha, map_eq_some_iff, some.injEq, reduceCtorEq] at h
  · generalize toS16 ((ref.dur : ℤ) / 2) = tobR at h
    subst h
    exact (MccSameSlots.courtesy _ _ _).numbers _ _ _ _
  · obtain ⟨x, -, rfl⟩ := h
    exact (MccSameSlots.courtesy _ _ _).numbers _ _ _ _
  · obtain ⟨x, -, rfl⟩ := h
    exact (MccSameSlots.courtesy _ _ _).numbers _ _ _ _

lemma mccCalc2wslot1btslotNego_none {gap gap' off off' : ℤ}
    (h : mccCalc2wslot1btslotNego gap ref ano off m = none) :
    mccCalc2wslot1btslotNego gap' ref ano off' m = none := by
  unfold mccCalc2wslot1btslotNego at h ⊢
  rcases hr : ref.durLimit.enable <;> rcases ha : ano.durLimit.enable <;> simp [hr, ha] at h ⊢ <;>
    exact h

lemma mccSetPattern_same (tobR : ℤ) : MccSameSlots m (mccSetPattern ref ano offset tobR m) :=
  ⟨rfl, rfl, rfl⟩

section

variable (hs : MccSameSlots m m') (h : m.slotOrder = [])
include hs h

lemma MccSameSlots.noBt : (mccFillAno ano (mccFillRef ref m')).slotOrder
      = [wifiSlot ref.dur m.roleRef, wifiSlot ano.dur m.roleAno] := by
  have h' := hs.slotOrder.trans h
  unfold mccFillAno mccFillRef
  rw [← hs.roleRef, ← hs.roleAno, mccFillSlotInfo_slotOrder, mccFillSlotInfo_slotOrder] <;>
    simp [h', wifiSlot]

lemma MccSameSlots.btLast :
    ApClientSlots (wifiSlot ref.dur m.roleRef) (wifiSlot ano.dur m.roleAno) (btSlot btDur)
      (mccFillBt btDur (mccFillAno ano (mccFillRef ref m'))).slotOrder := by
  unfold mccFillBt
  rw [mccFillSlotInfo_slotOrder (by rw [hs.noBt h]; simp), hs.noBt h]
  exact .btLast

lemma MccSameSlots.btBetween :
    ApClientSlots (wifiSlot ref.dur m.roleRef) (wifiSlot ano.dur m.roleAno) (btSlot btDur)
      (mccFillAno ano (mccFillBt btDur (mccFillRef ref m'))).slotOrder := by
  have h' := hs.slotOrder.trans h
  unfold mccFillAno mccFillBt mccFillRef
  rw [← hs.roleRef, ← hs.roleAno, mccFillSlotInfo_slotOrder, mccFillSlotInfo_slotOrder,
    mccFillSlotInfo_slotOrder] <;> simp [h']
  exact .btBetween

end

def LaidOut (ref ano : MccDurInfo) (btDur : ℤ) (m : MccPattern) (c : PhlStatus × MccPattern) :
    Prop :=
  c = (.failure, m) ∨ c.1 = .success ∧
    ApClientSlots (wifiSlot ref.dur m.roleRef) (wifiSlot ano.dur m.roleAno) (btSlot btDur)
      c.2.slotOrder

section

variable (h : m.slotOrder = [])
include h

lemma laidOut_pattern1 :
    LaidOut ref ano btDur m (mccCalculate2wslot1btslotPattern1 ref ano offset btDur m) := by
  simp only [mccCalculate2wslot1btslotPattern1]
  split_ifs
  · exact Or.inl rfl
  · exact Or.inr ⟨rfl, (mccSetPattern_same _).btLast h⟩

lemma laidOut_pattern2 :
    LaidOut ref ano btDur m (mccCalculate2wslot1btslotPattern2 ref ano offset btDur m) := by
  simp only [mccCalculate2wslot1btslotPattern2]
  split_ifs
  · exact Or.inl rfl
  · exact Or.inr ⟨rfl, (mccSetPattern_same _).btBetween h⟩

-- the second layout fails with the first, as it is tried on the same limits
lemma laidOut_nego {off : ℤ} :
    LaidOut ref ano btDur m (mccCalcNegoPattern ref ano off btDur m) := by
  unfold mccCalcNegoPattern mccCalc2wslot1btslotNegoP1 mccCalc2wslot1btslotNegoP2
  rcases h1 : mccCalc2wslot1btslotNego 0 ref ano off m with _ | m'
  · simp [mccCalc2wslot1btslotNego_none h1, LaidOut]
  · exact Or.inr ⟨rfl, (mccSameSlots_2wslot1btslotNego h1).btLast h⟩

lemma laidOut_pattern :
    LaidOut ref ano btDur m (mccCalculate2wslot1btslotPattern ref ano offset btDur m) := by
  simp only [mccCalculate2wslot1btslotPattern]
  split_ifs
  · exact laidOut_pattern1 h
  · exact laidOut_nego h
  · exact laidOut_pattern2 h
  · exact laidOut_nego h
  · exact Or.inl rfl
  · exact laidOut_nego h

end

end Slots

section Durations

variable {i i' : MccInfo}

/-- What the durations are set from: no limit and no request of Bluetooth is longer than the
interval, and the request is noted in one piece. -/
structure MccReady (i : MccInfo) : Prop where
  lo : minApDur ≤ i.mccIntvl
  hi : i.mccIntvl < 32768
  max1 : i.role1.durMax i.mccIntvl ≤ i.mccIntvl
  max2 : i.role2.durMax i.mccIntvl ≤ i.mccIntvl
  btDur : i.btInfo.btDur ≤ i.mccIntvl
  seg : i.btInfo.btSeg0 = i.btInfo.btDur
  segNum : i.btInfo.btSegNum = 1

namespace MccInfo

def wifiDur (i : MccInfo) : ℕ := i.role1.durInfo.dur + i.role2.durInfo.dur

/-- Bluetooth is given a slot of its own. -/
def NeedsBt (i : MccInfo) : Prop :=
  i.btInfo.btDur ≠ 0 ∧ i.role1.band = .on24g ∧ i.role2.band = .on24g

def btShare (i : MccInfo) : ℕ := min i.btInfo.btDur btDurMax2ws

def setDurs (i : MccInfo) (d : ℕ × ℕ) : MccInfo :=
  { i with role1 := i.role1.setDur d.1, role2 := i.role2.setDur d.2 }

end MccInfo

open MccInfo

/-- What the decision leaves, with whether a slot for Bluetooth is to be added. -/
structure MccDecided (i i' : MccInfo) (bt : Bool) : Prop where
  intvl : i'.mccIntvl = i.mccIntvl
  isAp1 : i'.role1.isAp = i.role1.isAp
  isAp2 : i'.role2.isAp = i.role2.isAp
  dur1 : i'.role1.durInfo.dur ≤ i.mccIntvl
  dur2 : i'.role2.durInfo.dur ≤ i.mccIntvl
  segNum : i'.btInfo.btSegNum = 1
  seg : i'.btInfo.btSeg0 = if bt then i.btShare else i.btInfo.btDur
  needs : bt ↔ i.NeedsBt
  noBt : bt = false → i'.wifiDur = i.mccIntvl
  fits : bt → MccBtFits i i.btShare →
    i'.wifiDur + i.btShare = i.mccIntvl ∧ i'.btInfo.btDur = i.btShare
  noFit : bt → ¬ MccBtFits i i.btShare → minApDur + minClientDur + btDurMax2ws ≤ i.mccIntvl →
    i'.wifiDur = i.mccIntvl ∧ i'.btInfo.btDur = i.btShare

section

variable (h : MccReady i)
include h

lemma mccSetApClientDur_eq : ∃ d, mccSetApClientDur i = i.setDurs d ∧ d.1 + d.2 = i.mccIntvl := by
  have hlo : 20 ≤ i.mccIntvl := h.lo
  have hhi := h.hi
  have hap : ∀ apDur clientDur, (mccSetDurForApClientMode apDur clientDur i.mccIntvl).1
      + (mccSetDurForApClientMode apDur clientDur i.mccIntvl).2 = i.mccIntvl := by
    intro apDur clientDur
    simp only [mccSetDurForApClientMode]
    generalize (if apDur = mccDurNonspecific then toU16 (i.mccIntvl - clientDur) else apDur) = a
    generalize hb : (if a < minApDur then minApDur
      else if (i.mccIntvl : ℤ) - minClientDur < a then toU16 (i.mccIntvl - minClientDur) else a) = b
    have hle : b ≤ i.mccIntvl := by
      rw [← hb]
      unfold minApDur minClientDur toU16
      split_ifs <;> omega
    rw [toU16_sub (by omega) hle]
    exact Nat.add_sub_cancel' hle
  unfold mccSetApClientDur
  split_ifs
  · exact ⟨_, rfl, hap _ _⟩
  · exact ⟨(_, _), rfl, (Nat.add_comm _ _).trans (hap _ _)⟩

lemma MccReady.setDurs (d : ℕ × ℕ) : MccReady (i.setDurs d) :=
  ⟨h.lo, h.hi, h.max1, h.max2, h.btDur, h.seg, h.segNum⟩

lemma MccReady.discision_eq : mccDiscisionDurFor2gMcc2roleBt i
      = (mccAdjustDurFor2gMcc2roleBt (i.setBt i.btShare)).map Prod.snd := by
  have hlt := h.btDur.trans_lt (h.hi.trans (by simp : 32768 < 65536))
  have hfill : mccFillBtDur i.btInfo.btDur i = i := by
    have hbt := toU16_eq hlt
    obtain ⟨_, ⟨_, _, _, _⟩, _, _, _, _⟩ := i
    obtain ⟨-, -, -, -, -, hseg, hnum⟩ := h
    simp only at hseg hnum hbt
    simp [mccFillBtDur, hbt, hseg, hnum]
  rw [btShare, ← mccDiscisionDurFor2gMcc2roleBt_fill hlt, hfill]

end

lemma mccSum_2Band (coexMode : MccCoexMode) {n btDur : ℕ} {r2g rNon2g : MccRole} (hn : n < 32768)
    (hbt : btDur ≤ n) (hmax : r2g.durMax n ≤ n)
    (hsum : r2g.durInfo.dur + rNon2g.durInfo.dur = n) :
    let d := mccAdjustDurFor2BandMcc2roleBt coexMode n btDur r2g.durInfo rNon2g.durInfo
    d.1 + d.2 = n := by
  unfold mccAdjustDurFor2BandMcc2roleBt
  unfold MccRole.durMax at hmax
  split_ifs
  · exact hsum
  · exact hsum
  cases coexMode
  · exact hsum
  · simp only
    split_ifs with hlim
    · rw [if_pos hlim.1] at hmax
      rw [mccFirstDur_eq (by omega) hmax]
      exact Nat.add_sub_cancel' hmax
    · rw [mccSecondDur_eq (by omega) hbt]
      exact Nat.sub_add_cancel hbt
  · exact hsum
  · exact hsum

lemma le_mccClampSecond (lo hi d1 : ℕ) {wifiDur : ℕ} (hw : wifiDur < 65536) :
    wifiDur ≤ (mccClampSecond lo hi wifiDur d1).1 + (mccClampSecond lo hi wifiDur d1).2 := by
  have hsub : ∀ k : ℕ, wifiDur ≤ k + toU16 (wifiDur - k) := fun k => by
    unfold toU16
    omega
  unfold mccClampSecond mccSecondDur
  simp only
  split_ifs
  · exact (hsub lo).trans_eq (Nat.add_comm _ _)
  · exact (hsub hi).trans_eq (Nat.add_comm _ _)
  · exact hsub d1

/-- A pass that succeeds has at least the time that the first one has. -/
lemma mccAdjustLoop_bounds {n d1Min d1Max d2Min d2Max left : ℕ} :
    ∀ {d1 d2 btDur : ℕ} {r : ℕ × ℕ × ℕ}, toU16 (n - btDur) + left < 65536 →
      mccAdjustLoop n d1Min d1Max d2Min d2Max left d1 d2 btDur = some (some r) →
      (d1Min ≤ r.1 ∧ r.1 ≤ d1Max) ∧ (d2Min ≤ r.2.1 ∧ r.2.1 ≤ d2Max)
        ∧ toU16 (n - btDur) ≤ r.1 + r.2.1 := by
  induction left with
  | zero => simp [mccAdjustLoop]
  | succ left ih =>
    intro d1 d2 btDur r hlt h
    simp [mccAdjustLoop, bind_eq_some_iff] at h
    obtain ⟨e, -, h⟩ := h
    split_ifs at h with hin
    · cases some.inj h
      exact ⟨⟨hin.1, hin.2.1⟩, hin.2.2, le_mccClampSecond _ _ _ (by omega)⟩
    · have hnext : toU16 (n - toU16 (btDur - 1)) = toU16 (n - btDur) + 1 := by
        unfold toU16 at hlt ⊢
        omega
      obtain ⟨h1, h2, hle⟩ := ih (by omega) h
      exact ⟨h1, h2, by omega⟩

lemma MccBtFits.of_loop {r : ℕ × ℕ × ℕ} {bt : ℕ} (hn : i.mccIntvl < 32768)
    (hone : i.role1.isAp ≠ i.role2.isAp)
    (hlong : minApDur + minClientDur + btDurMax2ws ≤ i.mccIntvl) (hbt : bt ≤ btDurMax2ws)
    (h1 : i.role1.durMin ≤ r.1 ∧ r.1 ≤ i.role1.durMax i.mccIntvl)
    (h2 : i.role2.durMin ≤ r.2.1 ∧ r.2.1 ≤ i.role2.durMax i.mccIntvl)
    (hmost : toU16 (i.mccIntvl - bt) ≤ r.1 + r.2.1) : MccBtFits i bt := by
  have hmin : i.role1.durMin + i.role2.durMin = minApDur + minClientDur := by
    unfold MccRole.durMin
    split_ifs <;> simp_all [Nat.add_comm]
  rw [toU16_sub (by omega) (by omega)] at hmost
  exact ⟨h1.1.trans h1.2, h2.1.trans h2.2, by omega, by omega⟩

section

variable (h : MccReady i) (hone : i.role1.isAp ≠ i.role2.isAp) (hsum : i.wifiDur = i.mccIntvl)
include h hone hsum

lemma mccDecided_2g (hneeds : i.NeedsBt)
    (heq : mccDiscisionDurFor2gMcc2roleBt i = some i') : MccDecided i i' true := by
  have hn := h.hi
  have hlo : 20 ≤ i.mccIntvl := h.lo
  have hle' : i.btShare ≤ btDurMax2ws := min_le_right _ _
  have hle : i.btShare ≤ i.mccIntvl := (min_le_left _ _).trans h.btDur
  unfold wifiDur at hsum
  rw [h.discision_eq] at heq
  obtain ⟨⟨adj, j⟩, hadj, rfl⟩ := map_eq_some_iff.1 heq
  by_cases hfit : MccBtFits i i.btShare
  · obtain ⟨d, hd, hok⟩ := mccAdjustDurFor2gMcc2roleBt_ok (m := i.setBt i.btShare)
      ⟨hfit.first, hfit.second, hfit.least, hfit.most⟩ hsum (hlo.trans_lt' (by simp))
      (hn.trans (by simp))
    cases hok.symm.trans hadj
    have ht : d.1 + d.2 = i.mccIntvl - i.btShare := hd.total
    have hsum' : d.1 + d.2 + i.btShare = i.mccIntvl := by omega
    exact ⟨rfl, rfl, rfl, hd.first.2.trans h.max1, hd.second.2.trans h.max2, rfl, rfl, by simpa,
      by simp, fun _ _ => ⟨hsum', rfl⟩, fun _ hno => absurd hfit hno⟩
  · simp [mccAdjustDurFor2gMcc2roleBt, bind_eq_some_iff] at hadj
    obtain ⟨_ | r, hloop, hr⟩ := hadj
    · obtain ⟨-, rfl⟩ := mk.inj (some.inj hr)
      exact ⟨rfl, rfl, rfl, by simp only [setBt]; omega, by simp only [setBt]; omega, rfl, rfl,
        by simpa, by simp, fun _ hyes => absurd hyes hfit, fun _ _ _ => ⟨hsum, rfl⟩⟩
    obtain ⟨-, rfl⟩ := mk.inj (some.inj hr)
    have hlt : toU16 (i.mccIntvl - i.btShare) + i.mccIntvl < 65536 := by
      rw [toU16_sub (by omega) hle]
      omega
    obtain ⟨h1, h2, hmost⟩ := mccAdjustLoop_bounds hlt hloop
    exact ⟨rfl, rfl, rfl, h1.2.trans h.max1, h2.2.trans h.max2, rfl, rfl, by simpa, by simp,
      fun _ hyes => absurd hyes hfit,
      fun _ _ hlong => absurd (.of_loop hn hone hlong hle' h1 h2 hmost) hfit⟩

lemma mccDecided {bt : Bool} (heq : mccDiscisionDurationFor2roleBt i = some (bt, i')) :
    MccDecided i i' bt := by
  have hkeep : ∀ {d : ℕ × ℕ}, d.1 + d.2 = i.mccIntvl → ¬ i.NeedsBt →
      MccDecided i (i.setDurs d) false := fun hd hno =>
    ⟨rfl, rfl, rfl, by simp only [setDurs, MccRole.setDur]; omega,
      by simp only [setDurs, MccRole.setDur]; omega, h.segNum, h.seg, by simpa, fun _ => hd,
      by simp, by simp⟩
  unfold mccDiscisionDurationFor2roleBt at heq
  split_ifs at heq with h0
  · obtain ⟨rfl, rfl⟩ := Prod.mk.inj (some.inj heq)
    exact hkeep (d := (_, _)) hsum fun hneeds => hneeds.1 h0
  rcases hb1 : decide (i.role1.band = .on24g) <;> rcases hb2 : decide (i.role2.band = .on24g) <;>
    simp only [hb1, hb2, some.injEq, Prod.mk.injEq, map_eq_some_iff] at heq <;>
    simp at hb1 hb2
  · obtain ⟨rfl, rfl⟩ := heq
    exact hkeep (d := (_, _)) hsum fun hneeds => hb1 hneeds.2.1
  · obtain ⟨rfl, rfl⟩ := heq
    have hd := mccSum_2Band i.coexMode h.hi h.btDur h.max2 ((Nat.add_comm _ _).trans hsum)
    exact hkeep (d := (_, _)) ((Nat.add_comm _ _).trans hd) fun hneeds => hb1 hneeds.2.1
  · obtain ⟨rfl, rfl⟩ := heq
    exact hkeep (mccSum_2Band i.coexMode h.hi h.btDur h.max1 hsum) fun hneeds => hb2 hneeds.2.2
  · obtain ⟨j, hj, rfl, rfl⟩ := heq
    exact mccDecided_2g h hone hsum ⟨h0, hb1, hb2⟩ hj

end

lemma MccDecided.of_setDurs {d : ℕ × ℕ} {bt : Bool} (h : MccDecided (i.setDurs d) i' bt) :
    MccDecided i i' bt :=
  ⟨h.intvl, h.isAp1, h.isAp2, h.dur1, h.dur2, h.segNum, h.seg, h.needs, h.noBt,
    fun hbt hfit => h.fits hbt ⟨hfit.first, hfit.second, hfit.least, hfit.most⟩,
    fun hbt hno => h.noFit hbt fun hfit => hno ⟨hfit.first, hfit.second, hfit.least, hfit.most⟩⟩

end Durations

section Fill

variable {s s' : MccEnInfo}

namespace MccEnInfo

/-- The interval is that of the access point's beacons. -/
def apInfo (s : MccEnInfo) : MccInfo :=
  { s.info with mccIntvl := (if s.info.role1.isAp then s.timing1 else s.timing2).bcnIntvl }

def refSlot (s : MccEnInfo) : MccSlotInfo := wifiSlot s.roleRef.durInfo.dur s.refIdx

def anoSlot (s : MccEnInfo) : MccSlotInfo := wifiSlot s.roleAno.durInfo.dur s.anoIdx

def btSlotOf (s : MccEnInfo) : MccSlotInfo := btSlot (toS16 s.info.btInfo.btDur)

/-- The Bluetooth slot is laid before that of the role that is not the reference. -/
def BtBetween (s : MccEnInfo) : Prop := s.pattern.slotOrder = [s.refSlot, s.btSlotOf, s.anoSlot]

end MccEnInfo

/-- What a fill starts from: no slot and no Bluetooth role is left of an earlier one. -/
structure ApClientReady (s : MccEnInfo) : Prop extends MccReady s.apInfo where
  noSlots : s.pattern.slotOrder = []
  noBtRole : s.addBtRole = false

structure MccFilled (s s' : MccEnInfo) : Prop where
  refFirst : s'.refFirst = s.refFirst
  oneAp : s.info.role1.isAp ≠ s.info.role2.isAp
  decided : MccDecided s.apInfo s'.info s'.addBtRole
  slots : ApClientSlots s'.refSlot s'.anoSlot s'.btSlotOf s'.pattern.slotOrder
  noBt : s'.addBtRole = false → s'.pattern.slotOrder = [s'.refSlot, s'.anoSlot]

lemma mccFill2WroleBtPattern_eq (offset : ℕ) (hseg : s.info.btInfo.btSegNum = 1)
    (href : s.pattern.roleRef = s.refIdx) (hano : s.pattern.roleAno = s.anoIdx)
    (h : s.pattern.slotOrder = []) :
    ∃ m, mccFill2WroleBtPattern offset s = { s with addBtRole := true, pattern := m }
      ∧ ApClientSlots s.refSlot s.anoSlot s.btSlotOf m.slotOrder := by
  unfold mccFill2WroleBtPattern
  rw [if_pos hseg]
  refine ⟨_, rfl, ?_⟩
  unfold refSlot anoSlot
  rw [← href, ← hano]
  have hl : LaidOut s.roleRef.durInfo.toMccDurInfo s.roleAno.durInfo.toMccDurInfo
      (toS16 s.info.btInfo.btDur) s.pattern (mccCalculate2wslot1btslotPattern _ _ offset _ _) :=
    laidOut_pattern h
  rcases hl with hc | ⟨hc, hslots⟩
  · have hd : (mccSet2ClientsWorsecaseDefaultPattern s.roleRef.durInfo.toMccDurInfo
        s.roleAno.durInfo.toMccDurInfo s.pattern).slotOrder = _ :=
      MccSameSlots.noBt ⟨rfl, rfl, rfl⟩ h
    simp [hc, reduceCtorEq, hd]
    exact .noBt
  · simp [hc]
    exact hslots

lemma mccSetApClientDefaultPattern_eq (href : s.pattern.roleRef = s.refIdx)
    (hano : s.pattern.roleAno = s.anoIdx) (h : s.pattern.slotOrder = []) :
    ∃ m, mccSetApClientDefaultPattern s = { s with pattern := m }
      ∧ m.slotOrder = [s.refSlot, s.anoSlot] := by
  refine ⟨_, rfl, ?_⟩
  unfold refSlot anoSlot
  rw [← href, ← hano]
  exact MccSameSlots.noBt ⟨rfl, rfl, rfl⟩ h

section

variable (hs : ApClientReady s)
include hs

lemma mccFillApClientPattern_filled (hone : s.info.role1.isAp ≠ s.info.role2.isAp)
    (h : mccFillApClientPattern s = some s') : MccFilled s s' := by
  obtain ⟨d, hd, hsum⟩ := mccSetApClientDur_eq hs.toMccReady
  simp only [mccFillApClientPattern] at h
  rw [← MccEnInfo.apInfo, hd] at h
  rcases hdec : mccDiscisionDurationFor2roleBt (s.apInfo.setDurs d) with _ | ⟨bt, i⟩ <;>
    simp only [hdec] at h
  · cases h
  have hi := (mccDecided (hs.toMccReady.setDurs d) hone hsum hdec).of_setDurs
  cases bt
  · cases h
    obtain ⟨m, hm, hslots⟩ := mccSetApClientDefaultPattern_eq (s := { s with
      info := i, pattern := { s.pattern with roleRef := s.refIdx, roleAno := s.anoIdx } }) rfl rfl
      hs.noSlots
    rw [hm]
    refine ⟨rfl, hone, by rw [hs.noBtRole]; exact hi, ?_, fun _ => hslots⟩
    rw [show _ = _ from hslots]
    exact .noBt
  · cases h
    obtain ⟨m, hm, hslots⟩ := mccFill2WroleBtPattern_eq (s := { s with
      info := i, pattern := { s.pattern with roleRef := s.refIdx, roleAno := s.anoIdx } })
      apClientOffset hi.segNum rfl rfl hs.noSlots
    rw [hm]
    exact ⟨rfl, hone, hi, hslots, by simp⟩

lemma mccFillInfoForApClientMode_filled {tbttSync : Bool} {halTsf : Option (ℕ × ℕ)}
    (h : mccFillInfoForApClientMode tbttSync halTsf s = some s') : MccFilled s s' := by
  unfold mccFillInfoForApClientMode at h
  rcases hp : mccFillApClientPattern s with _ | t <;> simp only [hp] at h
  · split_ifs at h
  split_ifs at h with hap hsync
  obtain ⟨href, hone, hdec, hslots, hno⟩ := mccFillApClientPattern_filled hs hap hp
  rcases hstart : mccCalculateStartTsf t.refTiming t.pattern.tobR halTsf with _ | start <;>
    simp only [hstart] at h
  · cases h
  · cases h
    exact ⟨href, hone, hdec, hslots, hno⟩

end

end Fill

section Noa

variable {s s' : MccEnInfo} {tsfRef tsfAno : ℕ}

@[local simp] def slotEnd (role : ℕ) : List MccSlotInfo → Option (ℕ × ℕ)
  | [] => none
  | x :: xs =>
    if x.mrole = some role then some (x.slot, x.slot)
    else (slotEnd role xs).map fun e => (x.slot + e.1, e.2)

def MccEnInfo.goIdx (s : MccEnInfo) : ℕ := if s.roleRef.isAp then s.refIdx else s.anoIdx

def MccEnInfo.goDur (s : MccEnInfo) : ℕ :=
  if s.roleRef.isAp then s.roleRef.durInfo.dur else s.roleAno.durInfo.dur

def MccEnInfo.goSlotEnd (s : MccEnInfo) : Option (ℕ × ℕ) := slotEnd s.goIdx s.pattern.slotOrder

def MccEnInfo.mccStart (s : MccEnInfo) : ℕ := tsfOf s.tsfHigh s.tsfLow

def MccNoa.startInRef (noa : MccNoa) (s : MccEnInfo) (tsfRef tsfAno : ℕ) : ℕ :=
  if s.roleRef.isAp then tsfOf noa.startTH noa.startTL
  else toU64 (tsfOf noa.startTH noa.startTL - tsfAno + tsfRef)

/-- The absence begins at the end of the slot, up to whole intervals, and is the rest of the
interval. -/
structure MccNoaExact (s : MccEnInfo) (tsfRef tsfAno : ℕ) (noa : MccNoa) (slotEnds slotLen : ℕ) :
    Prop where
  start : ((s.info.mccIntvl * tu : ℕ) : ℤ)
    ∣ ((noa.startInRef s tsfRef tsfAno : ℤ) - s.mccStart).bmod (2 ^ 64) - (slotEnds * tu : ℕ)
  dur : noa.dur + slotLen = noa.interval

/-- A NoA is computed: it begins where the slot of the GO ends, and lasts until the next. -/
def NoaAnnounced (s : MccEnInfo) (tsfRef tsfAno : ℕ) : Prop :=
  ∃ noa slotEnds slotLen, tdmraCalcNoa2wrole s tsfRef tsfAno = some noa
    ∧ s.goSlotEnd = some (slotEnds, slotLen) ∧ MccNoaExact s tsfRef tsfAno noa slotEnds slotLen

lemma toU64_cast (x : ℤ) : (toU64 x : ℤ) = x % 2 ^ 64 :=
  Int.toNat_of_nonneg (Int.emod_nonneg _ (by simp))

lemma bmod_toU64 {a x : ℤ} (h : -2 ^ 63 ≤ x) (h' : x < 2 ^ 63) :
    ((toU64 (a + x) : ℤ) - a).bmod (2 ^ 64) = x := by
  rw [toU64_cast, Int.bmod_def]
  omega

lemma toU64_clocks (x a b : ℤ) : toU64 (toU64 (x - a + b) - b + a) = toU64 x := by
  unfold toU64
  omega

/-- The fields are in the range of their type, and the Bluetooth slot is in one piece. -/
structure MccInRange (i : MccInfo) : Prop where
  dur1 : i.role1.durInfo.dur < 65536
  dur2 : i.role2.durInfo.dur < 65536
  intvl : i.mccIntvl < 65536
  btSeg : i.btInfo.btSeg0 < 65536
  segNum : i.btInfo.btSegNum = 1

def MccEnInfo.noaDist (s : MccEnInfo) : ℤ :=
  if s.roleRef.isAp then s.roleRef.durInfo.dur
  else s.info.mccIntvl - (if s.addBtRole then s.info.btInfo.btSeg0 else 0 : ℕ)

section

variable (h : MccInRange s.info)
include h

lemma mccNoaBtSeg_eq : mccNoaBtSeg s.addBtRole s.info.btInfo
      = some (if s.addBtRole then s.info.btInfo.btSeg0 else 0) := by
  simp [mccNoaBtSeg, h.segNum]
  split_ifs <;> rfl

lemma MccInRange.roleRef_lt : s.roleRef.durInfo.dur < 65536 := by
  unfold roleRef
  split_ifs
  · exact h.dur1
  · exact h.dur2

lemma tdmraCalcNoa2wrole_spec : ∃ noa, tdmraCalcNoa2wrole s tsfRef tsfAno = some noa
      ∧ noa.dur = toU16 (s.info.mccIntvl - s.goDur) ∧ noa.interval = s.info.mccIntvl
      ∧ ((noa.startInRef s tsfRef tsfAno : ℤ) - s.mccStart).bmod (2 ^ 64) = s.noaDist * tu := by
  have hr := h.roleRef_lt
  have hi := h.intvl
  have hb := h.btSeg
  have htu : (tu : ℤ) = 1024 := rfl
  unfold tdmraCalcNoa2wrole MccNoa.startInRef goDur noaDist mccStart
  rcases hap : s.roleRef.isAp
  · simp only [Bool.false_eq_true, if_false, mccNoaBtSeg_eq h]
    refine ⟨_, rfl, rfl, rfl, ?_⟩
    obtain ⟨seg, hseg⟩ : ∃ seg, (if s.addBtRole then s.info.btInfo.btSeg0 else 0) = seg := ⟨_, rfl⟩
    have hlt : seg < 65536 := by
      rw [← hseg]
      split_ifs <;> omega
    rw [hseg, tsfOf_halves, toU64_clocks, Int.add_sub_assoc, ← Int.sub_mul]
    apply bmod_toU64 <;> rw [htu] <;> omega
  · simp only [if_true]
    refine ⟨_, rfl, rfl, rfl, ?_⟩
    rw [tsfOf_halves]
    apply bmod_toU64 <;> rw [htu] <;> omega

lemma noaAnnounced_iff {e : ℕ} (hle : s.goDur ≤ s.info.mccIntvl)
    (he : s.goSlotEnd = some (e, s.goDur)) :
    NoaAnnounced s tsfRef tsfAno ↔ (s.info.mccIntvl : ℤ) ∣ s.noaDist - e := by
  obtain ⟨noa, hnoa, hdur, hint, hdist⟩ := @tdmraCalcNoa2wrole_spec s tsfRef tsfAno h
  have hstart : ((s.info.mccIntvl * tu : ℕ) : ℤ)
      ∣ ((noa.startInRef s tsfRef tsfAno : ℤ) - s.mccStart).bmod (2 ^ 64) - (e * tu : ℕ)
      ↔ (s.info.mccIntvl : ℤ) ∣ s.noaDist - e := by
    rw [hdist, Int.natCast_mul, Int.natCast_mul, ← Int.sub_mul]
    exact Int.mul_dvd_mul_iff_right (by simp [tu])
  constructor
  · rintro ⟨noa', e', len, hnoa', hend, hex⟩
    cases hnoa.symm.trans hnoa'
    obtain ⟨rfl, -⟩ := mk.inj (some.inj (he.symm.trans hend))
    exact hstart.1 hex.start
  · intro hdvd
    refine ⟨noa, e, _, hnoa, he, hstart.2 hdvd, ?_⟩
    rw [hdur, hint, toU16_sub h.intvl hle]
    exact Nat.sub_add_cancel hle

end

lemma goSlotEnd_ref (h : ApClientSlots s.refSlot s.anoSlot s.btSlotOf s.pattern.slotOrder)
    (hap : s.roleRef.isAp) : s.goSlotEnd = some (s.goDur, s.goDur) := by
  unfold goSlotEnd goIdx goDur
  rw [if_pos hap, if_pos hap]
  generalize s.pattern.slotOrder = slots at h
  obtain _ | _ | _ := h <;> simp [refSlot, wifiSlot]

lemma refIdx_ne_anoIdx (s : MccEnInfo) : s.refIdx ≠ s.anoIdx := by
  unfold refIdx anoIdx
  split_ifs <;> simp

lemma wifiDur_eq (s : MccEnInfo) :
    s.info.wifiDur = s.roleRef.durInfo.dur + s.roleAno.durInfo.dur := by
  unfold roleRef roleAno MccInfo.wifiDur
  split_ifs
  · rfl
  · exact Nat.add_comm _ _

lemma goSlotEnd_ano (h : ApClientSlots s.refSlot s.anoSlot s.btSlotOf s.pattern.slotOrder)
    (hap : ¬ s.roleRef.isAp) : s.goSlotEnd = some (s.info.wifiDur, s.goDur) ∧ ¬ s.BtBetween
      ∨ s.goSlotEnd = some (s.info.wifiDur + s.btSlotOf.slot, s.goDur) ∧ s.BtBetween := by
  have hne := refIdx_ne_anoIdx s
  unfold goSlotEnd goIdx goDur BtBetween
  rw [if_neg hap, if_neg hap, wifiDur_eq]
  generalize s.pattern.slotOrder = slots at h
  obtain _ | _ | _ := h
  · exact .inl (by simp [refSlot, anoSlot, wifiSlot, hne])
  · exact .inl (by simp [refSlot, anoSlot, btSlotOf, btSlot, wifiSlot, hne])
  · refine .inr ⟨?_, rfl⟩
    simp [refSlot, anoSlot, btSlotOf, btSlot, wifiSlot, hne]
    omega

lemma noaDist_ano_dvd_iff (hap : ¬ s.roleRef.isAp) (e : ℕ) :
    (s.info.mccIntvl : ℤ) ∣ s.noaDist - e
      ↔ s.info.mccIntvl ∣ e + (if s.addBtRole then s.info.btInfo.btSeg0 else 0) := by
  have hdist : s.noaDist - e = s.info.mccIntvl
      - ((e + (if s.addBtRole then s.info.btInfo.btSeg0 else 0) : ℕ) : ℤ) := by
    unfold noaDist
    rw [if_neg hap]
    omega
  rw [hdist, ← Int.natCast_dvd_natCast]
  refine ⟨fun h => ?_, Int.dvd_sub (Int.dvd_refl _)⟩
  rw [← Int.sub_sub_self (s.info.mccIntvl : ℤ) (_ + _ : ℕ)]
  exact Int.dvd_sub (Int.dvd_refl _) h

/-- The slots fit the time announced: the access point is the reference, or no Bluetooth slot is
needed, or there is room for one and it is not laid before the access point's. -/
def NoaSlotsFit (s s' : MccEnInfo) : Prop :=
  s.roleRef.isAp ∨ ¬ s.apInfo.NeedsBt ∨ MccBtFits s.apInfo s.apInfo.btShare ∧ ¬ s'.BtBetween

namespace MccFilled

variable (h : MccFilled s s')
include h

lemma roleRef_isAp : s'.roleRef.isAp = s.roleRef.isAp := by
  unfold roleRef
  rw [h.refFirst]
  split_ifs
  · exact h.decided.isAp1
  · exact h.decided.isAp2

lemma goDur_le : s'.goDur ≤ s'.info.mccIntvl := by
  rw [h.decided.intvl]
  unfold goDur roleRef roleAno
  split_ifs
  · exact h.decided.dur1
  · exact h.decided.dur2
  · exact h.decided.dur2
  · exact h.decided.dur1

lemma inRange (hs : ApClientReady s) : MccInRange s'.info := by
  have hn := hs.hi
  have hbt : s.apInfo.btInfo.btDur ≤ _ := hs.btDur
  have hle : s.apInfo.btShare ≤ s.apInfo.btInfo.btDur := min_le_left _ _
  obtain ⟨hintvl, -, -, hd1, hd2, hnum, hseg, -⟩ := h.decided
  refine ⟨by omega, by omega, by omega, ?_, hnum⟩
  rw [hseg]
  split_ifs <;> omega

end MccFilled

lemma toU16_toS16 {x : ℕ} (hx : x < 65536) : toU16 (toS16 x) = x := by
  unfold toU16 toS16
  rw [Int.bmod_def]
  omega

lemma not_dvd_of_lt {n k j : ℕ} (h0 : 0 < k) (hk : k < n) (hj : j = n + k) : ¬ n ∣ j := by
  rw [hj, Nat.dvd_add_self_left]
  exact Nat.not_dvd_of_pos_of_lt h0 hk

/-- A client with 30 TU as reference and an access point, both on 2.4 GHz. Bluetooth asks for
10 TU. -/
def clientAndAp (apBcnIntvl : ℕ) : MccEnInfo where
  info :=
    { coexMode := .btMaster
      btInfo := ⟨10, 10, 0, 1⟩
      role1 := ⟨false, .on24g, ⟨30, ⟨false, 0, 0⟩⟩, 0⟩
      role2 := ⟨true, .on24g, ⟨mccDurNonspecific, ⟨false, 0, 0⟩⟩, 0⟩
      mccIntvl := 0
      dRDASpacingMax := 0 }
  timing1 := ⟨false, 0, 100, 0⟩
  timing2 := ⟨true, apBcnIntvl, 0, 0⟩
  refFirst := true
  addBtRole := false
  pattern := mccPatternReset 0 0
  tsfHigh := 0
  tsfLow := 0

end Noa

end Rtl8852be

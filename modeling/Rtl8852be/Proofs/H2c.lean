import Rtl8852be.H2c
import Rtl8852be.Proofs.WdRing

/-!
# Commands and free descriptors

`phl_pltfm_tx_pcie` does what it reports as long as a descriptor is free. When none is, it still
reports success, and the command is lost.
-/

namespace Rtl8852be

variable {n : ℕ} {c : H2cChan}

/-- The hardware has yet to read the slot. -/
def HwOwned (n : ℕ) (b : TxBaseDesc) (slot : ℕ) : Prop :=
  ∃ d < phlCalcAvailRptr b.regHwIdx b.regHostIdx n, slot = (b.regHwIdx + d) % n

/-- Success only for a packet that got a descriptor the hardware does not own, and an error, with
the packet off the busy list, when none is free. -/
structure H2cSent (n : ℕ) (pkt : H2cPkt) (c : H2cChan) (res : PhlStatus × H2cChan) : Prop where
  written : res.1 = .success → ∃ slot, ¬ HwOwned n c.bd slot
    ∧ res.2.bd.txbd slot = some ⟨pkt.dataLen, true, pkt.addr⟩
    ∧ res.2.bd.submitted = c.bd.submitted ++ [(pkt.addr, slot)]
    ∧ res.2.busy.items = c.busy.items ++ [{ pkt with hostIdx := (slot + 1) % n }]
  full : (halGetAvailTxbd n c.bd).1 = 0 → res.1 ≠ .success ∧ res.2.busy = c.busy

/-- The doorbell has been rung for every descriptor written. -/
def H2cInv (n : ℕ) (c : H2cChan) : Prop := ∃ L H, BdInv n L H c.bd.submitted.length c.bd

lemma enqueueH2cWorkRing_bd (pkt : H2cPkt) (c : H2cChan) :
    (enqueueH2cWorkRing pkt c).bd = c.bd := by
  unfold enqueueH2cWorkRing
  simp only []
  split <;> rfl

lemma releaseBusyH2cLoop_bd : ∀ (k : ℕ) (pstatus : PhlStatus) (c : H2cChan),
    (releaseBusyH2cLoop k pstatus c).2.bd = c.bd
  | 0, _, _ => rfl
  | k + 1, pstatus, c => by
    unfold releaseBusyH2cLoop
    split
    · rfl
    · rw [releaseBusyH2cLoop_bd, enqueueH2cWorkRing_bd]

lemma phlHandleBusyH2c_bd (bndy hwIdx : ℕ) (c : H2cChan) :
    (phlHandleBusyH2c bndy hwIdx c).2.bd = c.bd := by
  have hdone : ∀ c, (releaseDoneH2c bndy hwIdx c).2.bd = c.bd := by
    intro c
    unfold releaseDoneH2c
    split
    · rfl
    · exact releaseBusyH2cLoop_bd _ _ _
  unfold phlHandleBusyH2c
  split
  · rfl
  split
  · have hr := releaseBusyH2cLoop_bd (c.busy.cnt - (bndy - 1)) .failure c
    unfold phlReleaseBusyH2cPkt
    split
    · rename_i heq
      rw [heq] at hr
      rwa [hdone]
    · exact hr
  · exact hdone c

lemma BdInv.sent {L H : ℕ} {b : TxBaseDesc} (h : BdInv n L H b.submitted.length b)
    (hn : n ≤ 0x1000) (wd : WdPage Unit) :
    ∃ L H, BdInv n L H (halTriggerTxdma (halUpdateTxbd n 1 wd b).2).submitted.length
      (halTriggerTxdma (halUpdateTxbd n 1 wd b).2) := by
  refine ⟨L, H, ?_⟩
  rcases Nat.eq_zero_or_pos (halGetAvailTxbd n b).1 with h0 | hpos
  · rw [halUpdateTxbd_full wd h0]
    exact h.trigger
  · rw [halUpdateTxbd_one wd hpos]
    rw [h.avail hn] at hpos
    exact (h.putTxbd (by simp only [] at hpos; omega) wd).trigger

lemma h2cStep_inv (hn : n ≤ 0x1000) (c : H2cChan) (e : H2cEvent) (h : H2cInv n c) :
    H2cInv n (h2cStep n c e) := by
  cases e with
  | tx type dataLen =>
    obtain ⟨L, H, hb⟩ := h
    simp only [h2cStep, h2cSend, phlQueryIdleH2cPkt]
    rcases (c.idle type).items with _ | ⟨pkt, rest⟩
    · exact ⟨L, H, hb⟩
    · exact hb.sent hn ⟨pkt.addr, dataLen, true, 0, none⟩
  | recycle =>
    obtain ⟨L, H, hb⟩ := h
    refine ⟨L, H, ?_⟩
    simp only [h2cStep, phlRecycleBusyH2c, phlHandleBusyH2c_bd]
    exact hb
  | hw k =>
    refine hwAdvance_rule (P := fun b => ∃ L H, BdInv n L H b.submitted.length b) ?_ k h
    rintro b ⟨L, H, hb⟩
    obtain ⟨H', -, hb'⟩ := hb.hwStep
    exact ⟨L, H', by rwa [hwStep_submitted]⟩

lemma BdInv.not_hwOwned {L H : ℕ} {b : TxBaseDesc} (h : BdInv n L H b.submitted.length b) :
    ¬ HwOwned n b b.hostIdx := by
  have hrung := h.rung
  have hroom := h.room
  rintro ⟨d, hd, heq⟩
  rw [h.regHw, h.regHost, phlCalcAvailRptr_eq hrung hroom] at hd
  rw [h.hostIdx, h.regHw, Nat.mod_add_mod] at heq
  exact Circ.mod_ne (by omega) (by omega) heq.symm

/-- In every state of every run, a call does what it is to do exactly when a descriptor is free. -/
theorem h2c_sent_iff (n : ℕ) (hn : 0 < n) (hn' : n ≤ 0x1000) (pool work : H2cType → List ℕ)
    (es : List H2cEvent) (pkt : H2cPkt) :
    let c := Run.run (h2cStep n) (h2cInit pool work) es
    H2cSent n pkt c (phlPltfmTxPcie n pkt c) ↔ 0 < (halGetAvailTxbd n c.bd).1 := by
  intro c
  obtain ⟨L, H, hb⟩ : H2cInv n c :=
    Run.run_inv_all _ (h2cStep_inv hn') es _ ⟨0, 0, txBaseDescInit_inv hn⟩
  constructor
  · intro hsent
    by_contra hnot
    exact (hsent.full (by omega)).1 rfl
  · intro hpos
    refine ⟨fun _ => ⟨c.bd.hostIdx, hb.not_hwOwned, ?_⟩, fun h0 => absurd h0 (by omega)⟩
    simp only [phlPltfmTxPcie, phlEnqueueBusyH2cPkt, halUpdateTxbd_one _ hpos]
    refine ⟨?_, rfl, rfl⟩
    simp [halTriggerTxdma]

theorem h2c_sent_iff_sample : let pkt : H2cPkt := ⟨40, .cmd, 8, 0⟩
    let c := Run.run (h2cStep 2) (h2cInit (fun _ => [10, 11]) fun _ => [20])
      [.tx .cmd 8, .hw 1, .recycle]
    H2cSent 2 pkt c (phlPltfmTxPcie 2 pkt c) :=
  (h2c_sent_iff 2 (by decide) (by decide) (fun _ => [10, 11]) (fun _ => [20]) _ _).mpr
    (by decide +kernel)

/-- With no descriptor free, the packet becomes busy with index zero, and success is reported. -/
lemma phlPltfmTxPcie_full (pkt : H2cPkt) (ha : (halGetAvailTxbd n c.bd).1 = 0) :
    (phlPltfmTxPcie n pkt c).1 = .success ∧ (phlPltfmTxPcie n pkt c).2.bd.submitted = c.bd.submitted
      ∧ (phlPltfmTxPcie n pkt c).2.busy.items = c.busy.items ++ [{ pkt with hostIdx := 0 }]
      ∧ ¬ H2cSent n pkt c (phlPltfmTxPcie n pkt c) := by
  refine ⟨rfl, ?_, ?_, fun h => (h.full ha).1 rfl⟩
  · simp only [phlPltfmTxPcie, halUpdateTxbd_full _ ha]
    rfl
  · simp only [phlPltfmTxPcie, halUpdateTxbd_full _ ha]
    rfl

def h2cPool : H2cType → List ℕ
  | .cmd => List.range 32
  | .data => (List.range 32).map (· + 100)
  | .longData => (List.range 200).map (· + 200)

/-- With 255 packets outstanding the next command is reported as sent and no descriptor written. -/
theorem h2c_lost_when_full :
    let c := Run.run (h2cStep 256) (h2cInit h2cPool fun _ => [1000])
      (List.replicate 200 (.tx .longData 8) ++ List.replicate 32 (.tx .data 8)
        ++ List.replicate 23 (.tx .cmd 8))
    let pkt : H2cPkt := ⟨23, .cmd, 8, 0⟩
    let res := phlPltfmTxPcie 256 pkt c
    (c.idle .cmd).items.head? = some { pkt with dataLen := 0 }
      ∧ (halGetAvailTxbd 256 c.bd).1 = 0 ∧ res.1 = .success
      ∧ res.2.bd.submitted = c.bd.submitted ∧ res.2.busy.items = c.busy.items ++ [pkt]
      ∧ ¬ H2cSent 256 pkt c res := by
  intro c pkt res
  have h0 : (halGetAvailTxbd 256 c.bd).1 = 0 := by decide +kernel
  exact ⟨by decide +kernel, h0, phlPltfmTxPcie_full pkt h0⟩

end Rtl8852be

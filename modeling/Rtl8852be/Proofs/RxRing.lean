import Rtl8852be.RxRing
import Rtl8852be.Lib.Run

/-!
# The ring of received packets is a lossless queue

The producer's room can only grow while it works, and the consumer's packet stays put until the
consumer moves its own index.
-/

namespace Rtl8852be

open Run Circ List RxRingSys Option

variable {β : Type*} {s' : RxRingSys β}

/-- How far the consumer has emptied the slots: one more while it has cleared a slot and not yet
moved `core_idx`. -/
def RxRingSys.got (s : RxRingSys β) : ℕ :=
  match s.cons with
  | .cleared _ _ => s.returned.length + 1
  | _ => s.returned.length

def ProducerOK (s : RxRingSys β) : Prop :=
  match s.prod with
  | .loaded _ wptr => wptr = s.stored.length % 4096
  | .room _ wptr => wptr = s.stored.length % 4096
      ∧ s.stored.length + 1 < s.returned.length + 4096
  | .written pkt wptr => wptr = (s.stored.length + 1) % 4096
      ∧ s.stored.length + 1 < s.returned.length + 4096 ∧ s.ring.entry wptr = some pkt
  | _ => True

def ConsumerOK (s : RxRingSys β) : Prop :=
  match s.cons with
  | .loaded wptr => ∃ a, s.returned.length ≤ a ∧ a ≤ s.stored.length ∧ wptr = a % 4096
  | .avail rptr => rptr = (s.returned.length + 1) % 4096 ∧ s.returned.length < s.stored.length
  | .taken rptr recvpkt => rptr = (s.returned.length + 1) % 4096
      ∧ ∃ pkt, recvpkt = some pkt ∧ s.stored[s.returned.length]? = some pkt
  | .cleared rptr recvpkt => rptr = (s.returned.length + 1) % 4096
      ∧ ∃ pkt, recvpkt = some pkt ∧ s.stored[s.returned.length]? = some pkt
  | _ => True

/-- The packets of the calls that did not return `resource`, and of those that did. -/
def keptCalls (calls : List (β × PhlStatus)) : List β :=
  (calls.filter fun c => c.2 ≠ .resource).map Prod.fst

def refusedCalls (calls : List (β × PhlStatus)) : List β :=
  (calls.filter fun c => c.2 = .resource).map Prod.fst

structure RxRingInv (s : RxRingSys β) : Prop where
  phlIdx : s.ring.phlIdx = s.stored.length % 4096
  coreIdx : s.ring.coreIdx = s.returned.length % 4096
  fifo : Fifo 1 4096 s.ring.entry s.stored s.got
  room : s.stored.length < s.returned.length + 4096
  returned : s.returned <+: s.stored
  producer : ProducerOK s
  consumer : ConsumerOK s
  stored_calls : s.stored = keptCalls s.calls
  recycled_calls : s.recycled = refusedCalls s.calls

section

variable {s : RxRingSys β}

section

variable (calls : List (β × PhlStatus)) (pkt : β) (status : PhlStatus) (k : ℕ)

lemma nextWptr_mod : nextWptr (k % 4096) = (k + 1) % 4096 := wrap_succ k (by decide)

lemma storedStatus_ne (batch : Bool) : storedStatus batch ≠ .resource := by
  cases batch <;> decide

lemma RxRingSys.returned_le_got (s : RxRingSys β) : s.returned.length ≤ s.got := by
  unfold got
  split <;> omega

lemma RxRingInv.le (h : RxRingInv s) : s.returned.length ≤ s.stored.length := h.returned.length_le

lemma RxRingInv.ringRes (h : RxRingInv s) :
    s.ring.ringRes = 4095 - (s.stored.length - s.returned.length) := by
  rw [PhlRxRing.ringRes, h.coreIdx, h.phlIdx, maxPhlRingEntryNum, phlCalcAvailWptr_eq h.le h.room]

lemma index_succ : (if (k + 1) % 4096 = 0 then 0 else k % 4096 + 1) = (k + 1) % 4096 := by
  split_ifs <;> omega

lemma keptCalls_concat :
    keptCalls (calls ++ [(pkt, status)])
      = if status = .resource then keptCalls calls else keptCalls calls ++ [pkt] := by
  by_cases h : status = .resource <;> simp [keptCalls, h]

lemma refusedCalls_concat :
    refusedCalls (calls ++ [(pkt, status)])
      = if status = .resource then refusedCalls calls ++ [pkt] else refusedCalls calls := by
  by_cases h : status = .resource <;> simp [refusedCalls, h]

end

lemma ConsumerOK.grow (h : ConsumerOK s) (hc : s'.cons = s.cons)
    (hr : s'.returned = s.returned) (hs : s.stored <+: s'.stored) : ConsumerOK s' := by
  have hle := hs.length_le
  unfold ConsumerOK at *
  rw [hc, hr]
  split at h
  · obtain ⟨a, h1, h2, h3⟩ := h
    exact ⟨a, h1, h2.trans hle, h3⟩
  · exact ⟨h.1, h.2.trans_le hle⟩
  · obtain ⟨h1, pkt, h2, h3⟩ := h
    exact ⟨h1, pkt, h2, getElem?_of_prefix hs h3⟩
  · obtain ⟨h1, pkt, h2, h3⟩ := h
    exact ⟨h1, pkt, h2, getElem?_of_prefix hs h3⟩
  · trivial

lemma RxRingInv.prod (h : RxRingInv s) (batch : Bool) : RxRingInv (prodTick batch s) := by
  have hp := h.producer
  have hroom := h.room
  have hle := h.le
  have hgot := s.returned_le_got
  unfold ProducerOK at hp
  rw [prodTick]
  split
  · exact h
  · exact { h with producer := h.phlIdx }
  · rename_i pkt wptr hc
    simp only [hc] at hp
    rw [h.coreIdx, hp, maxPhlRingEntryNum, phlCalcAvailWptr_eq hle hroom]
    split_ifs with hres
    · exact { h with
        producer := trivial
        stored_calls := by simp [keptCalls_concat, h.stored_calls]
        recycled_calls := by simp [refusedCalls_concat, h.recycled_calls] }
    · have hfree : s.stored.length + 1 < s.returned.length + 4096 := by omega
      exact { h with producer := ⟨rfl, hfree⟩ }
  · rename_i pkt wptr hc
    simp only [hc] at hp
    obtain ⟨rfl, hfree⟩ := hp
    rw [nextWptr_mod]
    exact { h with
      fifo := h.fifo.write (by omega) (some pkt)
      producer := ⟨rfl, hfree, Function.update_self ..⟩ }
  · rename_i pkt wptr hc
    simp only [hc] at hp
    obtain ⟨rfl, hfree, hent⟩ := hp
    have hne := storedStatus_ne batch
    refine ⟨?_, h.coreIdx, h.fifo.commit hent, ?_, h.returned.trans (prefix_append _ _),
      trivial, h.consumer.grow rfl rfl (prefix_append _ _), ?_, ?_⟩
    · simp [PhlRxRing.publish, h.phlIdx]
      exact index_succ _
    · simp
      omega
    · simp [keptCalls_concat, hne, ← h.stored_calls]
    · simp [refusedCalls_concat, hne, ← h.recycled_calls]

lemma ProducerOK.grow (h : ProducerOK s) (hp : s'.prod = s.prod) (hs : s'.stored = s.stored)
    (hr : s.returned.length ≤ s'.returned.length)
    (he : ∀ pkt, s.ring.entry ((s.stored.length + 1) % 4096) = some pkt →
      s'.ring.entry ((s.stored.length + 1) % 4096) = some pkt) :
    ProducerOK s' := by
  unfold ProducerOK at *
  rw [hp, hs]
  split at h
  · exact h
  · exact ⟨h.1, h.2.trans_le (by omega)⟩
  · obtain ⟨rfl, h2, h3⟩ := h
    exact ⟨rfl, h2.trans_le (by omega), he _ h3⟩
  · trivial

lemma RxRingInv.cons (h : RxRingInv s) : RxRingInv (consTick s) := by
  have hc := h.consumer
  have hroom := h.room
  have hle := h.le
  have hfifo := h.fifo
  unfold ConsumerOK at hc
  unfold got at hfifo
  rw [consTick]
  split
  · exact h
  · rename_i hs
    simp only [hs] at hfifo
    exact { h with fifo := hfifo, consumer := ⟨s.stored.length, hle, le_rfl, h.phlIdx⟩ }
  · rename_i wptr hs
    simp only [hs] at hc hfifo
    obtain ⟨a, h1, h2, rfl⟩ := hc
    rw [h.coreIdx, maxPhlRingEntryNum, phlCalcAvailRptr_eq h1 (by omega), nextWptr_mod]
    split_ifs with hres
    · exact { h with fifo := hfifo, consumer := trivial }
    · exact { h with
        fifo := hfifo
        consumer := ⟨rfl, show s.returned.length < s.stored.length by omega⟩ }
  · rename_i rptr hs
    simp only [hs] at hc hfifo
    obtain ⟨rfl, hlt⟩ := hc
    obtain ⟨pkt, hget, hent⟩ := hfifo.next hlt
    exact { h with fifo := hfifo, consumer := ⟨rfl, pkt, hent, hget⟩ }
  · rename_i rptr recvpkt hs
    simp only [hs] at hc hfifo
    obtain ⟨rfl, pkt, rfl, hget⟩ := hc
    have hlt := (List.getElem?_eq_some_iff.1 hget).1
    refine { h with
      fifo := hfifo.take_clear hlt (by omega)
      producer := h.producer.grow rfl rfl le_rfl fun p hp => ?_
      consumer := ⟨rfl, pkt, rfl, hget⟩ }
    -- the slot being emptied is not the one being filled
    simp only [PhlRxRing.write]
    rwa [Function.update_of_ne (mod_ne (by omega) (by omega)).symm]
  · rename_i rptr recvpkt hs
    simp only [hs] at hc hfifo
    obtain ⟨rfl, pkt, rfl, hget⟩ := hc
    have hlen : (s.returned ++ [pkt]).length = s.returned.length + 1 := by simp
    refine { h with
      coreIdx := ?_
      fifo := ?_
      room := ?_
      returned := prefix_succ h.returned hget
      producer := h.producer.grow rfl rfl ?_ fun p hp => hp
      consumer := trivial }
    · simp [PhlRxRing.release, h.coreIdx, hlen]
      exact index_succ _
    · simp [got, hlen]
      exact hfifo
    · simp [hlen]
      omega
    · simp only [toList_some, hlen]
      omega

lemma RxRingInv.step (batch : Bool) (s : RxRingSys β) (e : RxRingEvent β) (h : RxRingInv s) :
    RxRingInv (rxRingStep batch s e) := by
  cases e with
  | frame pkt =>
    rw [rxRingStep]
    split
    · exact { h with producer := trivial }
    · exact h
  | prod => exact h.prod batch
  | query =>
    rw [rxRingStep]
    split
    · rename_i hs
      have hfifo := h.fifo
      simp only [got, hs] at hfifo
      exact { h with fifo := hfifo, consumer := trivial }
    · exact h
  | cons => exact h.cons

lemma rxRingInit_inv : RxRingInv (rxRingInit : RxRingSys β) :=
  ⟨rfl, rfl, Fifo.start _ _ _, by simp [rxRingInit], prefix_rfl, trivial, trivial, rfl, rfl⟩

/-- A call of `_phl_add_rx_pkt` that nothing interrupts does what the function does. -/
lemma prodTick_call (batch : Bool) (pkt : β) (s : RxRingSys β) (hp : s.prod = .idle) :
    (run (rxRingStep batch) s [.frame pkt, .prod, .prod, .prod, .prod]).ring
      = (phlAddRxPkt batch pkt s.ring).2
    ∧ (run (rxRingStep batch) s [.frame pkt, .prod, .prod, .prod, .prod]).calls
      = s.calls ++ [(pkt, (phlAddRxPkt batch pkt s.ring).1)] := by
  simp only [run_cons, run_nil, rxRingStep, hp, prodTick, phlAddRxPkt, PhlRxRing.ringRes]
  by_cases hres : phlCalcAvailWptr s.ring.coreIdx s.ring.phlIdx maxPhlRingEntryNum = 0 <;>
    simp [hres]

/-- A call of `rtw_phl_query_rx_pkt` that nothing interrupts does what the function does. -/
lemma consTick_call (s : RxRingSys β) (batch : Bool) (hc : s.cons = .idle) :
    (run (rxRingStep batch) s [.query, .cons, .cons, .cons, .cons, .cons]).ring
      = (rtwPhlQueryRxPkt s.ring).2
    ∧ (run (rxRingStep batch) s [.query, .cons, .cons, .cons, .cons, .cons]).returned
      = s.returned ++ (rtwPhlQueryRxPkt s.ring).1.toList := by
  simp only [run_cons, run_nil, rxRingStep, hc, consTick, rtwPhlQueryRxPkt, rtwPhlQueryNewRxNum]
  by_cases hres : phlCalcAvailRptr s.ring.coreIdx s.ring.phlIdx maxPhlRingEntryNum = 0 <;>
    simp [hres]

end

end Rtl8852be

import Rtl8852be.Amsdu

/-!
# When an A-MSDU is taken apart exactly

A subframe in front of other bytes is read as it was put there (`amsduLoop_subframe`). The walk
needs more than the 14 bytes of a header, so it does not come to a last subframe without MSDU.
-/

namespace Rtl8852be

open List

variable {pdata : List UInt8}
variable (rest : List UInt8)

structure Subframe where
  da : List UInt8
  sa : List UInt8
  msdu : List UInt8
  da_length : da.length = 6
  sa_length : sa.length = 6
  msdu_length : msdu.length < 65536

variable (cfg : AmsduCfg)

namespace Subframe

variable (f : Subframe)

def bytes : List UInt8 := f.da ++ (f.sa ++ (htons f.msdu.length ++ f.msdu))

def packet : List UInt8 := rtwOsAllocMsduPkt f.da f.sa f.msdu (rtwRecvLlcParse f.msdu)

def Valid (cfg : AmsduCfg) : Prop := validateAmsduContent cfg f.da f.sa = true
  deriving Decidable

def Allowed (cfg : AmsduCfg) : Prop := rtwStaRxAmsduActCheck cfg f.da f.sa = true
  deriving Decidable

def added (cfg : AmsduCfg) (acc : List (List UInt8)) : List (List UInt8) :=
  if f.Allowed cfg then acc ++ [f.packet] else acc

lemma added_eq (acc : List (List UInt8)) : f.added cfg acc = acc ++ f.added cfg [] := by
  unfold added
  split_ifs <;> simp

lemma length_bytes : f.bytes.length = 14 + f.msdu.length := by
  simp [bytes, htons, f.da_length, f.sa_length]
  omega

lemma drop_bytes : (f.bytes ++ rest).drop (14 + f.msdu.length) = rest := by
  rw [← f.length_bytes, drop_left]

lemma take_da : (f.bytes ++ rest).take 6 = f.da := by
  rw [bytes, append_assoc, ← f.da_length, take_left]

lemma drop_da : (f.bytes ++ rest).drop 6 = f.sa ++ (htons f.msdu.length ++ (f.msdu ++ rest)) := by
  rw [bytes, append_assoc, ← f.da_length, drop_left]
  simp

lemma take_sa : ((f.bytes ++ rest).drop 6).take 6 = f.sa := by
  rw [f.drop_da, ← f.sa_length, take_left]

lemma drop_sa : (f.bytes ++ rest).drop 12 = htons f.msdu.length ++ (f.msdu ++ rest) := by
  rw [show 12 = 6 + 6 from rfl, ← drop_drop, f.drop_da]
  nth_rewrite 1 [← f.sa_length]
  rw [drop_left]

lemma take_msdu : ((f.bytes ++ rest).drop 14).take f.msdu.length = f.msdu := by
  rw [show 14 = 12 + 2 from rfl, ← drop_drop, f.drop_sa]
  exact take_left

lemma getBe16_bytes : rtwGetBe16 (fun i => (f.bytes ++ rest).getD i 0) 12 = f.msdu.length := by
  have hlen := f.msdu_length
  have hget : ∀ i, (f.bytes ++ rest).getD (12 + i) 0
      = (htons f.msdu.length ++ (f.msdu ++ rest)).getD i 0 := by
    intro i
    rw [← f.drop_sa rest, getD_eq_getElem?_getD, getD_eq_getElem?_getD, getElem?_drop]
  have h0 := hget 0
  have h1 := hget 1
  simp only [rtwGetBe16, h0, h1]
  simp only [htons, cons_append, getD_cons_zero, getD_cons_succ, UInt8.toNat_ofNat']
  omega

end Subframe

lemma htons_rtwGetBe16 (buf : ℕ → UInt8) (a : ℕ) :
    htons (rtwGetBe16 buf a) = [buf a, buf (a + 1)] := by
  have h0 := (buf a).toNat_lt
  have h1 := (buf (a + 1)).toNat_lt
  simp [htons, rtwGetBe16, ← UInt8.toNat_inj]
  omega

lemma amsduLoop_subframe (f : Subframe) (rest : List UInt8) (acc : List (List UInt8))
    (h : 14 < (f.bytes ++ rest).length) :
    amsduLoop cfg (f.bytes ++ rest) acc = if f.Valid cfg then
        if 64 ≤ (f.added cfg acc).length then f.added cfg acc
        else if rest.length ≠ 0 ∧ rest.length < amsduPadding f.msdu.length then f.added cfg acc
        else amsduLoop cfg (rest.drop (amsduPadding f.msdu.length)) (f.added cfg acc)
      else acc := by
  have hlen : ¬ (f.bytes ++ rest).length < 14 + f.msdu.length := by
    rw [length_append, f.length_bytes]
    omega
  rw [amsduLoop, if_pos h]
  simp only [f.getBe16_bytes, f.take_da, f.take_sa, f.take_msdu, f.drop_bytes, if_neg hlen]
  rcases hv : validateAmsduContent cfg f.da f.sa
  · simp [Subframe.Valid, hv]
  · simp [Subframe.Valid, hv]
    rfl

lemma exists_subframe (h : 14 < pdata.length)
    (hlen : 14 + rtwGetBe16 (fun i => pdata.getD i 0) 12 ≤ pdata.length) :
    ∃ (f : Subframe) (rest : List UInt8), pdata = f.bytes ++ rest := by
  set len := rtwGetBe16 (fun i => pdata.getD i 0) 12 with hdef
  have hmsdu : ((pdata.drop 14).take len).length = len := by
    rw [length_take, length_drop]
    omega
  have hfield : htons len = (pdata.drop 12).take 2 := by
    rw [hdef, htons_rtwGetBe16, drop_eq_getElem_cons (by omega : 12 < pdata.length),
      drop_eq_getElem_cons (by omega : 13 < pdata.length)]
    rw [getD_eq_getElem?_getD, getD_eq_getElem?_getD,
      getElem?_eq_getElem (by omega : 12 < pdata.length),
      getElem?_eq_getElem (by omega : 13 < pdata.length)]
    rfl
  refine ⟨⟨pdata.take 6, (pdata.drop 6).take 6, (pdata.drop 14).take len, ?_, ?_, ?_⟩,
    pdata.drop (14 + len), ?_⟩
  · rw [length_take]
    omega
  · rw [length_take, length_drop]
    omega
  · rw [hmsdu]
    exact rtwGetBe16_lt _ _
  · simp only [Subframe.bytes, hmsdu, hfield, append_assoc]
    rw [← drop_drop, take_append_drop, show 14 = 12 + 2 from rfl, ← drop_drop, take_append_drop,
      show 12 = 6 + 6 from rfl, ← drop_drop, take_append_drop,
      take_append_drop]

lemma amsduLoop_stop_or (pdata : List UInt8) (acc : List (List UInt8)) :
    amsduLoop cfg pdata acc = acc
      ∨ 14 < pdata.length ∧ ∃ (f : Subframe) (rest : List UInt8), pdata = f.bytes ++ rest := by
  by_cases h : 14 < pdata.length
  · by_cases hlen : pdata.length < 14 + rtwGetBe16 (fun i => pdata.getD i 0) 12
    · left
      rw [amsduLoop, if_pos h]
      exact if_pos hlen
    · exact .inr ⟨h, exists_subframe h (Nat.le_of_not_lt hlen)⟩
  · left
    rw [amsduLoop, if_neg h]

/-- The packet is that of a subframe lying in the payload. -/
def Inside (payload packet : List UInt8) : Prop :=
  ∃ (f : Subframe) (before after : List UInt8), payload = before ++ f.bytes ++ after ∧
    packet = f.packet

lemma Inside.of_suffix {payload packet : List UInt8} (h : Inside payload packet)
    (before : List UInt8) : Inside (before ++ payload) packet := by
  obtain ⟨f, pre, after, rfl, rfl⟩ := h
  exact ⟨f, before ++ pre, after, by simp, rfl⟩

lemma amsduLoop_inside (pdata : List UInt8) (acc : List (List UInt8)) :
    ∀ p ∈ amsduLoop cfg pdata acc, p ∈ acc ∨ Inside pdata p := by
  induction hn : pdata.length using Nat.strongRecOn generalizing pdata acc with
  | ind n ih =>
    subst hn
    rcases amsduLoop_stop_or cfg pdata acc with hstop | ⟨hlong, f, rest, rfl⟩
    · rw [hstop]
      exact fun p hp => .inl hp
    have hacc : ∀ p ∈ f.added cfg acc, p ∈ acc ∨ Inside (f.bytes ++ rest) p := by
      intro p hp
      unfold Subframe.added at hp
      split_ifs at hp
      · rcases mem_append.1 hp with hp | hp
        · exact .inl hp
        · exact .inr ⟨f, [], rest, rfl, mem_singleton.1 hp⟩
      · exact .inl hp
    rw [amsduLoop_subframe cfg f rest acc hlong]
    split_ifs with hv hmax hpad
    · exact hacc
    · exact hacc
    · intro p hp
      have hlt : (rest.drop (amsduPadding f.msdu.length)).length < (f.bytes ++ rest).length := by
        rw [length_drop, length_append, f.length_bytes]
        omega
      rcases ih _ hlt _ _ rfl p hp with hp | hp
      · exact hacc p hp
      · have hin := hp.of_suffix (f.bytes ++ rest.take (amsduPadding f.msdu.length))
        rw [append_assoc, take_append_drop] at hin
        exact .inr hin
    · exact fun p hp => .inl hp

lemma amsduLoop_rfc1042 {cfg : AmsduCfg} (h : cfg.checked = true)
    (hda : pdata.take 6 = rtwRfc1042Header) (acc : List (List UInt8)) :
    amsduLoop cfg pdata acc = acc := by
  rcases amsduLoop_stop_or cfg pdata acc with hstop | ⟨hlong, f, rest, rfl⟩
  · exact hstop
  · rw [f.take_da] at hda
    rw [amsduLoop_subframe cfg f rest acc hlong, if_neg]
    simp [Subframe.Valid, validateAmsduContent, h, hda]

structure PaddedSubframe extends Subframe where
  pad : List UInt8
  pad_length : pad.length = amsduPadding msdu.length

@[local simp] def amsduOf : List PaddedSubframe → List UInt8
  | [] => []
  | [f] => f.bytes
  | f :: g :: fs => f.bytes ++ (f.pad ++ amsduOf (g :: fs))

@[local simp] def amsduPackets (cfg : AmsduCfg) (fs : List PaddedSubframe) : List (List UInt8) :=
  ((fs.takeWhile fun f => f.Valid cfg).filter fun f => f.Allowed cfg).map (·.packet)

/-- The last subframe has no MSDU, and would be given to the system. -/
def LastLost (cfg : AmsduCfg) : List PaddedSubframe → Prop
  | [] => False
  | [f] => f.msdu = [] ∧ f.Valid cfg ∧ f.Allowed cfg
  | f :: g :: fs => f.Valid cfg ∧ LastLost cfg (g :: fs)

def amsduSeen : List PaddedSubframe → List PaddedSubframe
  | [] => []
  | [f] => if f.msdu = [] then [] else [f]
  | f :: g :: fs => f :: amsduSeen (g :: fs)

lemma amsduPackets_cons (f : PaddedSubframe) (fs : List PaddedSubframe) :
    amsduPackets cfg (f :: fs)
      = if f.Valid cfg then f.added cfg [] ++ amsduPackets cfg fs else [] := by
  unfold amsduPackets Subframe.added
  by_cases hv : f.Valid cfg
  · by_cases ha : f.Allowed cfg <;> simp [hv, ha]
  · simp [hv]

lemma amsduLoop_of_length_le (h : pdata.length ≤ 14) (acc : List (List UInt8)) :
    amsduLoop cfg pdata acc = acc := by
  rw [amsduLoop, if_neg (Nat.not_lt.2 h)]

lemma amsduLoop_last (f : Subframe) (acc : List (List UInt8)) : amsduLoop cfg f.bytes acc
      = if f.msdu ≠ [] ∧ f.Valid cfg then f.added cfg acc else acc := by
  by_cases hmsdu : f.msdu = []
  · have hlen : f.bytes.length ≤ 14 := by simp [f.length_bytes, hmsdu]
    rw [amsduLoop_of_length_le cfg hlen, if_neg fun h => h.1 hmsdu]
  have hpos := length_pos_iff.2 hmsdu
  have hlong : 14 < (f.bytes ++ []).length := by
    rw [append_nil, f.length_bytes]
    omega
  have hend : ∀ acc, amsduLoop cfg [] acc = acc := amsduLoop_of_length_le cfg (by simp)
  have hstep := amsduLoop_subframe cfg f [] acc hlong
  simp [hend] at hstep
  rw [hstep]
  simp [hmsdu]

lemma amsduLoop_padded {cfg : AmsduCfg} {f : PaddedSubframe} {acc : List (List UInt8)}
    (hlt : (f.added cfg acc).length < 64) {rest : List UInt8} (hrest : rest ≠ []) :
    amsduLoop cfg (f.bytes ++ (f.pad ++ rest)) acc
      = if f.Valid cfg then amsduLoop cfg rest (f.added cfg acc) else acc := by
  have hpos := length_pos_iff.2 hrest
  have hlong : 14 < (f.bytes ++ (f.pad ++ rest)).length := by
    simp [f.length_bytes]
    omega
  have hpad : ¬ ((f.pad ++ rest).length ≠ 0 ∧
      (f.pad ++ rest).length < amsduPadding f.msdu.length) := by
    rw [length_append, f.pad_length]
    omega
  have hdrop : (f.pad ++ rest).drop (amsduPadding f.msdu.length) = rest := by
    rw [← f.pad_length, drop_left]
  rw [amsduLoop_subframe cfg f.toSubframe _ acc hlong, if_neg (Nat.not_le.2 hlt), if_neg hpad,
    hdrop]

lemma amsduOf_ne_nil : ∀ (f : PaddedSubframe) (fs : List PaddedSubframe), amsduOf (f :: fs) ≠ []
  | f, [], h => by
    have hlen := f.length_bytes
    rw [show f.bytes = [] from h, length_nil] at hlen
    omega
  | f, g :: fs, h => by
    simp at h
    exact amsduOf_ne_nil g fs h.2.2

lemma amsduLoop_amsduOf (cfg : AmsduCfg) : ∀ (fs : List PaddedSubframe) (acc : List (List UInt8)),
    acc.length + fs.length ≤ 64 →
    amsduLoop cfg (amsduOf fs) acc = acc ++ amsduPackets cfg (amsduSeen fs)
  | [], acc, _ => by
    rw [amsduLoop_of_length_le cfg (by simp)]
    simp [amsduSeen]
  | [f], acc, _ => by
    rw [amsduOf, amsduLoop_last, amsduSeen]
    by_cases hmsdu : f.msdu = []
    · simp [hmsdu]
    · rw [if_neg hmsdu, amsduPackets_cons, f.added_eq]
      by_cases hv : f.Valid cfg <;> simp [hmsdu, hv]
  | f :: g :: fs, acc, hle => by
    have hadded : (f.added cfg acc).length ≤ acc.length + 1 := by
      unfold Subframe.added
      split_ifs <;> simp
    simp at hle
    have ih := amsduLoop_amsduOf cfg (g :: fs) (f.added cfg acc) (by
      simp
      omega)
    rw [amsduOf, amsduLoop_padded (by omega) (amsduOf_ne_nil g fs), amsduSeen, amsduPackets_cons]
    split_ifs
    · rw [ih, f.added_eq cfg acc, append_assoc]
    · rw [append_nil]

lemma amsduPackets_seen_iff (cfg : AmsduCfg) : ∀ fs : List PaddedSubframe,
    amsduPackets cfg (amsduSeen fs) = amsduPackets cfg fs ↔ ¬ LastLost cfg fs
  | [] => by simp [amsduSeen, LastLost]
  | [f] => by
    rw [amsduSeen, LastLost, amsduPackets_cons]
    by_cases hmsdu : f.msdu = []
    · rw [if_pos hmsdu]
      by_cases hv : f.Valid cfg
      · by_cases ha : f.Allowed cfg <;> simp [Subframe.added, hmsdu, hv, ha]
      · simp [hv]
    · rw [if_neg hmsdu, amsduPackets_cons]
      simp [hmsdu]
  | f :: g :: fs => by
    have ih := amsduPackets_seen_iff cfg (g :: fs)
    rw [amsduSeen, LastLost, amsduPackets_cons, amsduPackets_cons]
    by_cases hv : f.Valid cfg
    · rw [if_pos hv, if_pos hv, append_cancel_left_eq, ih]
      simp [hv]
    · simp [hv]

theorem amsdu_exact_iff (cfg : AmsduCfg) (f : RecvFrame) :
    (∀ fs, f.amsdu = amsduOf fs → fs.length ≤ 64 →
      (amsduToMsdu cfg f = amsduPackets cfg fs ↔ ¬ LastLost cfg fs))
    ∧ (∀ p ∈ amsduToMsdu cfg f, Inside f.amsdu p)
    ∧ (cfg.checked = true → f.amsdu.take 6 = rtwRfc1042Header → amsduToMsdu cfg f = []) := by
  refine ⟨fun fs hfs hcount => ?_, fun p hp => ?_, fun hcheck hda => ?_⟩
  · rw [amsduToMsdu, hfs, amsduLoop_amsduOf cfg fs [] (by simpa using hcount), nil_append]
    exact amsduPackets_seen_iff cfg fs
  · rcases amsduLoop_inside cfg f.amsdu [] p hp with hp | hp
    · exact absurd hp not_mem_nil
    · exact hp
  · exact amsduLoop_rfc1042 hcheck hda []

def amsduCfg : AmsduCfg := ⟨.nonSpp, .aes, 1, replicate 6 0, replicate 6 1, false, fun _ => false⟩

def subframeOf (msdu : List UInt8) (h : msdu.length < 65536) : PaddedSubframe :=
  ⟨⟨replicate 6 0, replicate 6 2, msdu, length_replicate, length_replicate, h⟩,
    replicate (amsduPadding msdu.length) 0, length_replicate⟩

def amsduFrame (payload : List UInt8) : RecvFrame :=
  { id := 0, rxReq := none, pkt := true, type := .data, mfrag := false, fragNum := 0, seqNum := 1
    hdrlen := 26, ivLen := 0, icvLen := 0, encrypt := .noPrivacy, keytrack := 0
    data := replicate 26 0 ++ payload, room := 100
    offset_lt := Nat.lt_of_sub_pos (Nat.succ_pos 229) }

lemma amsdu_amsduFrame (payload : List UInt8) : (amsduFrame payload).amsdu = payload := by
  rfl

def emptySubframe : PaddedSubframe := subframeOf [] (Nat.succ_pos 65535)

def byteSubframe : PaddedSubframe := subframeOf [7] (Nat.lt_of_sub_pos (Nat.succ_pos 65534))

/-- The subframe in front has no MSDU. -/
theorem amsdu_exact_two : amsduToMsdu amsduCfg (amsduFrame (amsduOf [emptySubframe, byteSubframe]))
      = amsduPackets amsduCfg [emptySubframe, byteSubframe] :=
  ((amsdu_exact_iff amsduCfg _).1 _ (amsdu_amsduFrame _) (by simp)).2
    fun h => absurd h.2.1 (cons_ne_nil 7 [])

/-- The only subframe has no MSDU, and nothing is given to the system. -/
theorem amsdu_last_lost : amsduToMsdu amsduCfg (amsduFrame (amsduOf [emptySubframe])) = []
      ∧ amsduPackets amsduCfg [emptySubframe] = [emptySubframe.packet] := by
  refine ⟨?_, ?_⟩
  · rw [amsduToMsdu, amsdu_amsduFrame, amsduLoop_of_length_le]
    simp [Subframe.length_bytes, emptySubframe, subframeOf]
  · rfl

end Rtl8852be

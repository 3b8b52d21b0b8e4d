import Rtl8852be.RecvData
import Rtl8852be.Proofs.Defrag

/-!
# Packet numbers and privacy bits of data frames

`VALID_PN_CHK` looks at one bit of a difference, so it compares numbers that are less than half of
the 48-bit range apart. Unprotected fragments pass as EAPOL frames if two of their bytes say so, and
the reassembly does not look at the privacy bit.
-/

namespace Rtl8852be

open Run Bytes Function List Option

lemma rtwIvToPn_lt (iv : Octets 8) (encrypt : SecurityType) :
    rtwIvToPn iv encrypt < 281474976710656 := by
  have h := fun i => (iv i).toNat_lt
  have h0 := h 0
  have h1 := h 1
  have h2 := h 2
  have h4 := h 4
  have h5 := h 5
  have h6 := h 6
  have h7 := h 7
  unfold rtwIvToPn
  split_ifs <;> omega

lemma validPnChk_iff {new old : ℕ} (hnew : new < 281474976710656)
    (hold : old < 281474976710656) : validPnChk new old = true ↔ old = 0 ∨
      old < new ∧ new ≤ old + 140737488355328 ∨ new + 140737488355328 ≤ old := by
  simp [validPnChk, pnLessChk]
  omega

structure GroupFrame where
  encrypt : SecurityType
  iv : Octets 8

def GroupFrame.pn (f : GroupFrame) : ℕ := rtwIvToPn f.iv f.encrypt

lemma GroupFrame.pn_lt (f : GroupFrame) : f.pn < 281474976710656 := rtwIvToPn_lt f.iv f.encrypt

def GroupFrame.keyId (f : GroupFrame) : Fin 4 := ivKeyId f.iv

/-- For each key the numbers of the frames accepted so far, behind the one installed with it. -/
structure PnHist where
  ivSeq : Fin 4 → ℕ
  accepted : Fin 4 → List ℕ

section Group

variable {h : PnHist} {f : GroupFrame}

/-- The packet number passes the check. -/
def Accepts (h : PnHist) (f : GroupFrame) : Prop :=
  (recvBcastPnDecache true f.encrypt f.iv h.ivSeq).isSome

def bcastPnStep (h : PnHist) (f : GroupFrame) : PnHist :=
  match recvBcastPnDecache true f.encrypt f.iv h.ivSeq with
  | none => h
  | some ivSeq =>
    ⟨ivSeq, if f.encrypt.decachesPn then
      update h.accepted f.keyId (h.accepted f.keyId ++ [f.pn]) else h.accepted⟩

/-- An accepted number is larger than all before it, unless these are all 0, and such is accepted.
-/
def ReplaySafe (h : PnHist) (f : GroupFrame) : Prop :=
  f.encrypt.decachesPn = true →
    (Accepts h f → (∀ c ∈ h.accepted f.keyId, c = 0) ∨ ∀ c ∈ h.accepted f.keyId, c < f.pn)
    ∧ ((∀ c ∈ h.accepted f.keyId, c < f.pn) → Accepts h f)

/-- The number is not more than half of the range above the one noted, and less below it. -/
def PnClose (h : PnHist) (f : GroupFrame) : Prop :=
  f.encrypt.decachesPn = true → h.ivSeq f.keyId ≠ 0 →
    f.pn ≤ h.ivSeq f.keyId + 140737488355328 ∧ h.ivSeq f.keyId < f.pn + 140737488355328
  deriving Decidable

structure PnInv (h : PnHist) : Prop where
  lt : ∀ k, h.ivSeq k < 281474976710656
  mem : ∀ k, h.ivSeq k ∈ h.accepted k
  le : ∀ k, ∀ c ∈ h.accepted k, c ≤ h.ivSeq k

lemma recvBcastPnDecache_eq (hp : f.encrypt.decachesPn = true) (ivSeq : Fin 4 → ℕ) :
    recvBcastPnDecache true f.encrypt f.iv ivSeq
      = if validPnChk f.pn (ivSeq f.keyId) then some (update ivSeq f.keyId f.pn) else none := by
  rw [recvBcastPnDecache, if_pos ⟨hp, rfl⟩]
  rfl

lemma accepts_iff (hp : f.encrypt.decachesPn = true) :
    Accepts h f ↔ validPnChk f.pn (h.ivSeq f.keyId) = true := by
  rw [Accepts, recvBcastPnDecache_eq hp]
  split_ifs with hv <;> simp [hv]

lemma PnInv.replaySafe_iff (hinv : PnInv h) : ReplaySafe h f ↔ PnClose h f := by
  refine imp_congr_right fun hp => ?_
  have hzero : (∀ c ∈ h.accepted f.keyId, c = 0) ↔ h.ivSeq f.keyId = 0 :=
    ⟨fun hall => hall _ (hinv.mem _), fun h0 c hc => Nat.le_zero.1 (h0 ▸ hinv.le _ c hc)⟩
  have hlt : (∀ c ∈ h.accepted f.keyId, c < f.pn) ↔ h.ivSeq f.keyId < f.pn :=
    ⟨fun hall => hall _ (hinv.mem _), fun h0 c hc => (hinv.le _ c hc).trans_lt h0⟩
  rw [hzero, hlt, accepts_iff hp, validPnChk_iff f.pn_lt (hinv.lt _)]
  omega

lemma PnInv.step (hinv : PnInv h) (hok : PnClose h f) : PnInv (bcastPnStep h f) := by
  unfold bcastPnStep
  by_cases hp : f.encrypt.decachesPn = true
  · rw [recvBcastPnDecache_eq hp]
    by_cases hv : validPnChk f.pn (h.ivSeq f.keyId) = true
    · have hle : h.ivSeq f.keyId ≤ f.pn := by
        have hc := hok hp
        rw [validPnChk_iff f.pn_lt (hinv.lt _)] at hv
        omega
      simp only [if_pos hv, if_pos hp]
      refine ⟨fun k => ?_, fun k => ?_, fun k c hc => ?_⟩ <;> by_cases hk : k = f.keyId
      · subst hk
        simpa using f.pn_lt
      · simpa [hk] using hinv.lt k
      · subst hk
        simp
      · simpa [hk] using hinv.mem k
      · subst hk
        simp only [update_self, mem_append, mem_singleton] at hc ⊢
        rcases hc with hc | rfl
        · exact (hinv.le _ c hc).trans hle
        · exact Nat.le_refl _
      · simp only [update_of_ne hk] at hc ⊢
        exact hinv.le k c hc
    · simp only [if_neg hv]
      exact hinv
  · have hsame : recvBcastPnDecache true f.encrypt f.iv h.ivSeq = some h.ivSeq :=
      if_neg fun hc => hp hc.1
    rw [hsame]
    simp only [if_neg hp]
    exact hinv

theorem group_replay_iff (ivSeq : Fin 4 → ℕ) (hseq : ∀ k, ivSeq k < 281474976710656)
    (fs : List GroupFrame) :
    RunOK bcastPnStep ReplaySafe ⟨ivSeq, fun k => [ivSeq k]⟩ fs
      ↔ RunOK bcastPnStep PnClose ⟨ivSeq, fun k => [ivSeq k]⟩ fs := by
  refine runOK_congr bcastPnStep ReplaySafe (P := PnInv) (fun _ _ hinv => hinv.replaySafe_iff)
    (fun _ _ hinv hok => hinv.step hok) fs _ ⟨hseq, fun k => by simp, fun k c hc => ?_⟩
  exact (mem_singleton.1 hc).le

def ccmpFrame (lo hi : UInt8) : GroupFrame :=
  ⟨.aes, fun i => [lo, 0, 0, 0x60, 0, 0, 0, hi].getD i 0⟩

theorem group_replay_small : RunOK bcastPnStep ReplaySafe ⟨fun _ => 0, fun _ => [0]⟩
    [ccmpFrame 1 0, ccmpFrame 1 0, ccmpFrame 2 0] :=
  (group_replay_iff (fun _ => 0) (fun _ => by simp) _).2
    ⟨by simp [PnClose], by decide, by decide, trivial⟩

/-- Behind the number 1 the number `2 ^ 47 + 2` is refused. -/
theorem group_replay_jump : ¬ RunOK bcastPnStep ReplaySafe ⟨fun _ => 0, fun _ => [0]⟩
    [ccmpFrame 1 0, ccmpFrame 2 128] := by
  rintro ⟨-, hsafe, -⟩
  have hacc := (hsafe rfl).2 (by decide)
  rw [accepts_iff rfl] at hacc
  exact absurd hacc (by decide)

end Group

section Pipeline

variable {σ : Type*} [DecidableEq σ] {cfg : RxCfg} {e : RxDataFrame σ} {s s' : RxState σ}
  {f : RecvFrame}

variable {g : RecvFrame} {frag : RxFragment σ}

lemma validateRecvDataFrame_accepted (h : validateRecvDataFrame cfg e s = (some f, s')) :
    ∃ psta, e.psta = some psta ∧ pnDecache cfg e psta s = some s' ∧ e.dropped cfg = false ∧
      f = e.attrib cfg := by
  unfold validateRecvDataFrame at h
  rcases hpsta : e.psta with _ | psta
  · simp [hpsta] at h
  rcases hpn : pnDecache cfg e psta s with _ | t
  · simp [hpsta, hpn] at h
  simp only [hpsta, hpn] at h
  split_ifs at h with hearly hdrop
  · simp at h
  · simp at h
  · obtain ⟨hf, rfl⟩ := Prod.mk.inj h
    exact ⟨psta, rfl, hpn, Bool.not_eq_true _ ▸ hdrop, (some.inj hf).symm⟩

/-- The packet numbers kept are the same. -/
def SamePns (s s' : RxState σ) : Prop := s'.ivSeq = s.ivSeq ∧ s'.iv = s.iv

/-- The packet number of the frame is not stored as a new one. -/
def PnNotAhead (cfg : RxCfg) (e : RxDataFrame σ) (s : RxState σ) : Prop :=
  e.frame.encrypt.decachesPn = true →
    if e.isMcast then
      cfg.isSta = true → s.ivSeq (ivKeyId e.iv) = rtwIvToPn e.iv e.frame.encrypt
    else ∀ psta ∈ e.psta, validPnChk (rtwIvToPn e.iv e.frame.encrypt)
      (rtwIvToPn (s.iv psta e.priority) e.frame.encrypt) = true → s.iv psta e.priority = e.iv

lemma samePns_iff (h : validateRecvDataFrame cfg e s = (some f, s')) :
    SamePns s s' ↔ PnNotAhead cfg e s := by
  obtain ⟨psta, hpsta, hpn, -, -⟩ := validateRecvDataFrame_accepted h
  unfold pnDecache at hpn
  unfold SamePns PnNotAhead
  split_ifs at hpn with hm
  · rw [map_eq_some_iff] at hpn
    obtain ⟨ivSeq, hdec, rfl⟩ := hpn
    unfold recvBcastPnDecache at hdec
    split_ifs at hdec with hnote hvalid
    · cases hdec
      simp [hm, hnote.1, hnote.2, eq_comm]
    · cases hdec
      refine iff_of_true ⟨rfl, rfl⟩ fun hp => ?_
      rw [if_pos hm]
      exact fun hs => absurd ⟨hp, hs⟩ hnote
  · cases hpn
    simp only [true_and, update_eq_self_iff, if_neg hm, hpsta, mem_some_iff, forall_eq',
      recvUcastPnDecache]
    split_ifs with hnote
    · simp [hnote.1, hnote.2, eq_comm]
    · refine iff_of_true rfl fun hp hv => absurd ⟨hp, hv⟩ hnote

theorem pns_kept_iff (h : validateRecvDataFrame cfg e s = (some f, s')) :
    (decryptor e.bdecrypted e.dec f = none → SamePns s s')
      ↔ (decryptor e.bdecrypted e.dec f = none → PnNotAhead cfg e s) :=
  imp_congr_right fun _ => samePns_iff h

def ccmpCfg : RxCfg := ⟨true, .aes, .aes, true, false⟩

lemma rxFragment_offset_lt : 24 + 0 < 256 := by decide

/-- A fragment from the access point that is not decrypted by the hardware; `body` stands behind the
header, and `dec` is what software makes of it. -/
def rxFragment (privacy mcast : Bool) (fragNum : Fin 16) (body : List UInt8)
    (dec : Option (List UInt8)) : RxDataFrame Unit where
  frame :=
    { id := 0, rxReq := none, pkt := true, type := .data, mfrag := fragNum = 0, fragNum := fragNum
      seqNum := 1, hdrlen := 24, ivLen := 0, icvLen := 0
      encrypt := if privacy then .aes else .noPrivacy
      keytrack := 0, data := [0x08, if privacy then 0x42 else 0x02] ++ replicate 22 0 ++ body
      room := 100, offset_lt := rxFragment_offset_lt }
  a4 := false
  qos := false
  order := false
  isMcast := mcast
  dstOwn := true
  bdecrypted := false
  hdrOk := true
  psta := some ()
  amsduDisable := false
  staPrivacy := .aes
  dup := false
  dec := dec
  ta := some ()
  keytrack := 0

def rxStart : RxState Unit := ⟨fun _ => 0, fun _ _ _ => 0, fun _ => []⟩

def forged (mcast : Bool) (pn : UInt8) : RxDataFrame Unit :=
  rxFragment true mcast 0 ([pn, 0, 0, 0x60, 0, 0, 0, 0] ++ replicate 16 0) none

def forgedNoted (pn : UInt8) : RxState Unit :=
  { rxStart with ivSeq := update rxStart.ivSeq 1 (rtwIvToPn (forged true pn).iv .aes) }

lemma rxFragment_privacy (privacy mcast : Bool) (fragNum : Fin 16) (body : List UInt8)
    (dec : Option (List UInt8)) :
    (rxFragment privacy mcast fragNum body dec).frame.privacy = privacy := by
  rcases privacy
  · exact show decide ((0x02 : UInt8) &&& 0x40 ≠ 0) = false by decide
  · exact show decide ((0x42 : UInt8) &&& 0x40 ≠ 0) = true by decide

lemma pnDecache_forged (pn : UInt8) :
    pnDecache ccmpCfg (forged true pn) () rxStart = some (forgedNoted pn) := by
  have hkey : ivKeyId (forged true pn).iv = 1 :=
    show Fin.ofNat 4 ((0x60 : UInt8).toNat / 64) = 1 by decide
  have hdec : recvBcastPnDecache true .aes (forged true pn).iv rxStart.ivSeq
      = some (forgedNoted pn).ivSeq := by
    rw [recvBcastPnDecache, if_pos ⟨rfl, rfl⟩, if_pos (by simp [validPnChk, rxStart]), hkey]
    rfl
  refine (if_pos rfl).trans ?_
  exact congrArg (Option.map fun ivSeq => { rxStart with ivSeq := ivSeq }) hdec

lemma validate_forged (pn : UInt8) : validateRecvDataFrame ccmpCfg (forged true pn) rxStart
    = (some ((forged true pn).attrib ccmpCfg), forgedNoted pn) := by
  have hpn := pnDecache_forged pn
  have hpass : (forged true pn).dropped ccmpCfg = false := congrArg not (rxFragment_privacy true ..)
  rw [validateRecvDataFrame, show (forged true pn).psta = some () from rfl]
  simp only [hpn, hpass]
  rfl

/-- A forged frame whose number is behind the one noted. -/
theorem pns_kept_behind :
    let s : RxState Unit := { rxStart with iv := fun _ _ => (forged false 9).iv }
    decryptor false none ((forged false 5).attrib ccmpCfg) = none ∧
      SamePns s (validateRecvDataFrame ccmpCfg (forged false 5) s).2 := by
  intro s
  have hval : (validateRecvDataFrame ccmpCfg (forged false 5) s).1 =
      some ((forged false 5).attrib ccmpCfg) := by decide +kernel
  refine ⟨rfl, (pns_kept_iff (Prod.ext hval rfl)).2 (fun _ _ _ _ hvalid => ?_) rfl⟩
  exact absurd hvalid (by decide +kernel +revert)

/-- A forged frame with the number 9 is dropped, and the number is noted. -/
theorem pns_ahead_of_forged : validateRecvDataFrame ccmpCfg (forged true 9) rxStart
      = (some ((forged true 9).attrib ccmpCfg), forgedNoted 9)
    ∧ decryptor false none ((forged true 9).attrib ccmpCfg) = none
    ∧ ¬ SamePns rxStart (forgedNoted 9) := by
  refine ⟨validate_forged 9, rfl, fun h => ?_⟩
  exact absurd (congrFun h.1 1) (by decide)

lemma RecvFrame.decrypted_eq (hlen : 2 ≤ f.hdrlen) (bytes : List UInt8) :
    (f.decrypted bytes).privacy = f.privacy ∧ (f.decrypted bytes).fragNum = f.fragNum := by
  unfold RecvFrame.decrypted
  split_ifs with h
  · exact ⟨rfl, rfl⟩
  refine ⟨?_, rfl⟩
  have hget : (f.data.take (f.hdrlen + f.ivLen) ++ bytes).getD 1 0 = f.data.getD 1 0 := by
    simp
    rw [getElem?_append_left (by rw [length_take]; omega), getElem?_take_of_lt (by omega)]
  simp only [RecvFrame.privacy, hget]

lemma decryptor_eq {b : Bool} {dec : Option (List UInt8)} (hlen : 2 ≤ f.hdrlen)
    (h : decryptor b dec f = some g) : g.privacy = f.privacy ∧ g.fragNum = f.fragNum := by
  unfold decryptor at h
  rcases dec with _ | bytes
  · simp at h
    split_ifs at h <;> obtain rfl := some.inj h <;> exact ⟨rfl, rfl⟩
  · split_ifs at h <;> cases h
    · exact ⟨rfl, rfl⟩
    · exact f.decrypted_eq hlen bytes
    · exact f.decrypted_eq hlen bytes
    · exact ⟨rfl, rfl⟩

structure Passed (cfg : RxCfg) (e : RxDataFrame σ) (s s' : RxState σ) (frag : RxFragment σ) :
    Prop where
  privacy : frag.frame.privacy = e.frame.privacy
  fragNum : frag.frame.fragNum = e.frame.fragNum
  sta : frag.sta = e.ta
  passed : e.dropped cfg = false
  defragQ : s'.defragQ = s.defragQ

lemma pnDecache_defragQ {psta : σ} (h : pnDecache cfg e psta s = some s') :
    s'.defragQ = s.defragQ := by
  unfold pnDecache at h
  split_ifs at h
  · obtain ⟨ivSeq, -, rfl⟩ := map_eq_some_iff.1 h
    rfl
  · cases h
    rfl

lemma rxToDefrag_defragQ : (rxToDefrag cfg e s).2.defragQ = s.defragQ := by
  simp only [rxToDefrag, validateRecvDataFrame]
  rcases e.psta with _ | psta
  · rfl
  rcases hpn : pnDecache cfg e psta s with _ | t
  · simp [hpn]
  simp only [hpn]
  split_ifs
  · rfl
  · exact pnDecache_defragQ hpn
  · exact pnDecache_defragQ hpn

lemma rxToDefrag_passed (h : rxToDefrag cfg e s = (some frag, s')) : Passed cfg e s s' frag := by
  have hq : (rxToDefrag cfg e s).2.defragQ = s.defragQ := rxToDefrag_defragQ
  rw [h] at hq
  rcases hval : validateRecvDataFrame cfg e s with ⟨f, t⟩
  simp only [rxToDefrag, hval, Prod.mk.injEq, map_eq_some_iff, bind_eq_some_iff] at h
  obtain ⟨⟨g, ⟨f, rfl, hdec⟩, rfl⟩, rfl⟩ := h
  obtain ⟨psta, -, -, hdrop, rfl⟩ := validateRecvDataFrame_accepted hval
  have hlen : 2 ≤ (e.attrib cfg).hdrlen := by
    simp only [RxDataFrame.attrib, RxDataFrame.hdrlen]
    split_ifs <;> simp
  obtain ⟨hpriv, hnum⟩ := decryptor_eq hlen hdec
  refine ⟨hpriv, hnum, ?_, hdrop, hq⟩
  rcases e.ta with _ | sta <;> simp [RxFragment.sta]

/-- A fragment behind others has the privacy bit of the first, unless it looks like EAPOL. -/
def SamePrivacy (cfg : RxCfg) (s : RxState σ) (e : RxDataFrame σ) : Prop :=
  ∀ sta ∈ e.ta, e.frame.fragNum ≠ 0 → ∀ g ∈ (s.defragQ sta).head?,
    if e.frame.privacy then g.privacy = true
    else e.isMcast = false → e.isEapol cfg = true → g.privacy = false

/-- The frame is a last fragment, and with it these are reassembled. -/
def Collects (cfg : RxCfg) (s : RxState σ) (e : RxDataFrame σ) (fs : List RecvFrame) : Prop :=
  ∃ frag s', rxToDefrag cfg e s = (some frag, s') ∧ frag.frame.IsLast ∧ ∃ sta ∈ frag.sta,
    fs = s'.defragQ sta ++ [frag.queued] ∧ (recvframeDefrag fs).1.isSome

/-- The privacy bits are the same, and the packet numbers of CCMP and GCMP are consecutive. -/
structure Unmixed (fs : List RecvFrame) : Prop where
  privacy : ∃ b, ∀ f ∈ fs, f.privacy = b
  pns : (∀ f ∈ fs, f.encrypt.hasPn = true) → fs.IsChain fun f g => g.pn = f.pn + 1

lemma Follows.isChain {keytrack n : ℕ} : ∀ {fs : List RecvFrame} {f : RecvFrame},
    Follows keytrack f.pn n fs → (∀ g ∈ fs, g.encrypt.hasPn = true) →
    (f :: fs).IsChain fun f g => g.pn = f.pn + 1
  | [], _, _, _ => by simp
  | g :: fs, f, ⟨hpn, _, _, h⟩, hall => by
    have hg := hall g (by simp)
    rw [RecvFrame.nextPn, if_pos hg] at h
    exact .cons_cons (hpn hg) (h.isChain fun x hx => hall x (by simp [hx]))

lemma Accepted.isChain {fs : List RecvFrame} (h : Accepted fs)
    (hall : ∀ f ∈ fs, f.encrypt.hasPn = true) : fs.IsChain fun f g => g.pn = f.pn + 1 := by
  cases fs with
  | nil => exact h.elim
  | cons f fs =>
    have hf := h.2
    rw [RecvFrame.nextPn, if_pos (hall f (by simp))] at hf
    exact hf.isChain fun g hg => hall g (by simp [hg])

section Protected

variable (hprot : cfg.privacyAlgrthm ≠ .noPrivacy) (h8021X : cfg.auth8021X = true)

include hprot h8021X

omit [DecidableEq σ] in
/-- In a protected network only what looks like EAPOL comes without the bit. -/
lemma Passed.head (h : Passed cfg e s s' frag) (hok : SamePrivacy cfg s e) {sta : σ}
    (hsta : sta ∈ frag.sta) (hnum : frag.frame.fragNum ≠ 0) :
    ∀ g ∈ (s.defragQ sta).head?, g.privacy = frag.frame.privacy := by
  intro g hg
  have hbit := hok sta (h.sta ▸ hsta) (h.fragNum ▸ hnum) g hg
  have hpass := h.passed
  rw [h.privacy]
  rcases hp : e.frame.privacy
  · rw [hp] at hbit
    simp only [RxDataFrame.dropped, if_neg hprot, h8021X, hp, if_true] at hpass
    split_ifs at hpass with hm
    · simp at hpass
    · simp only [Bool.not_false, Bool.true_and, Bool.or_eq_false_iff, Bool.not_eq_false'] at hpass
      exact hbit (Bool.not_eq_true _ ▸ hm) hpass.1.1
  · simpa [hp] using hbit

omit [DecidableEq σ] in
lemma Passed.joins (h : Passed cfg e s s' frag) (hok : SamePrivacy cfg s e) {sta : σ}
    (hsta : sta ∈ frag.sta) (hnum : frag.frame.fragNum ≠ 0)
    (hq : ∃ b, ∀ g ∈ s.defragQ sta, g.privacy = b) :
    ∃ b, ∀ g ∈ s.defragQ sta ++ [frag.queued], g.privacy = b := by
  have hhead := h.head hprot h8021X hok hsta hnum
  obtain ⟨b, hb⟩ := hq
  refine ⟨frag.queued.privacy, fun g hg => ?_⟩
  rcases mem_append.1 hg with hg | hg
  · rcases hcons : s.defragQ sta with _ | ⟨g0, gs⟩
    · simp [hcons] at hg
    · have h0 : g0.privacy = frag.queued.privacy := hhead g0 (by rw [hcons]; rfl)
      rw [hb g hg, ← hb g0 (by simp [hcons]), h0]
  · rw [mem_singleton.1 hg]

lemma unmixed_queue_step (hs : ∀ sta, ∃ b, ∀ g ∈ s.defragQ sta, g.privacy = b)
    (hok : SamePrivacy cfg s e) (sta : σ) :
    ∃ b, ∀ g ∈ (rxDataStep cfg s e).defragQ sta, g.privacy = b := by
  rcases hrx : rxToDefrag cfg e s with ⟨_ | frag, s'⟩
  · have hq : (rxToDefrag cfg e s).2.defragQ = s.defragQ := rxToDefrag_defragQ
    simp only [rxDataStep, hrx] at hq ⊢
    rw [hq]
    exact hs sta
  · have hp := rxToDefrag_passed hrx
    simp only [rxDataStep, hrx, hp.defragQ]
    rcases defragStep_queue s.defragQ frag sta with h | h | ⟨hsta, hnum, h⟩ | h <;> rw [h]
    · exact hs sta
    · exact ⟨frag.queued.privacy, by simp⟩
    · exact hp.joins hprot h8021X hok hsta hnum (hs sta)
    · exact ⟨true, by simp⟩

theorem no_mixed_fragments_run (ivSeq : Fin 4 → ℕ) (iv : σ → Fin 16 → Octets 8)
    (es : List (RxDataFrame σ))
    (hok : RunOK (rxDataStep cfg) (SamePrivacy cfg) ⟨ivSeq, iv, fun _ => []⟩ es)
    (before : List (RxDataFrame σ)) (e : RxDataFrame σ) (hp : before ++ [e] <+: es)
    (fs : List RecvFrame)
    (hfs : Collects cfg (run (rxDataStep cfg) ⟨ivSeq, iv, fun _ => []⟩ before) e fs) :
    Unmixed fs := by
  have hpre := hok.of_prefix hp
  have hqueues := run_inv (rxDataStep cfg) (SamePrivacy cfg)
    (P := fun s => ∀ sta, ∃ b, ∀ g ∈ s.defragQ sta, g.privacy = b)
    (fun _ _ hs hok => unmixed_queue_step hprot h8021X hs hok) before
    ⟨ivSeq, iv, fun _ => []⟩ (fun _ => ⟨true, by simp⟩) (hpre.of_prefix (prefix_append _ _))
  obtain ⟨frag, s', hrx, hlast, sta, hsta, rfl, hsome⟩ := hfs
  have hpass := rxToDefrag_passed hrx
  rw [hpass.defragQ] at hsome ⊢
  obtain ⟨g, hg⟩ := isSome_iff_exists.1 hsome
  exact ⟨hpass.joins hprot h8021X hpre.last hsta hlast.2 (hqueues sta),
    (accepted_of_eq_some hg).isChain⟩

end Protected

def ccmpFragment (fragNum : Fin 16) (pn : UInt8) : RxDataFrame Unit :=
  rxFragment true false fragNum ([pn, 0, 0, 0x20] ++ replicate 20 0)
    (some (replicate 16 0))

def eapolFragment : RxDataFrame Unit := rxFragment false false 1 [0, 0, 0, 0, 0, 0, 0x88, 0x8e] none

lemma rxToDefrag_rxFragment (privacy : Bool) (fragNum : Fin 16) (body : List UInt8)
    (dec : Option (List UInt8)) {s : RxState Unit}
    (hpass : (rxFragment privacy false fragNum body dec).dropped ccmpCfg = false)
    (hdec : decryptor false dec ((rxFragment privacy false fragNum body dec).attrib ccmpCfg) =
      some g) :
    ∃ s', rxToDefrag ccmpCfg (rxFragment privacy false fragNum body dec) s
      = (some ⟨g, some (), none, 0⟩, s') := by
  refine ⟨_, Prod.ext ?_ rfl⟩
  simp only [rxToDefrag, validateRecvDataFrame, pnDecache, hpass]
  exact congrArg (Option.map fun f => (⟨f, some (), none, 0⟩ : RxFragment Unit)) hdec

def ccmpQueued (fragNum : Fin 16) (pn : UInt8) : RecvFrame :=
  (((ccmpFragment fragNum pn).attrib ccmpCfg).decrypted (replicate 16 0))

lemma first_waits : (rxDataStep ccmpCfg rxStart (ccmpFragment 0 1)).defragQ ()
    = [ccmpQueued 0 1] := by
  decide +kernel

lemma collects_behind_first (privacy : Bool) (body : List UInt8) (dec : Option (List UInt8))
    (hpass : (rxFragment privacy false 1 body dec).dropped ccmpCfg = false)
    (hdec : decryptor false dec ((rxFragment privacy false 1 body dec).attrib ccmpCfg) = some g)
    (hg : g.mfrag = false ∧ g.fragNum ≠ 0 ∧ g.keytrack = 0)
    (hsome : (recvframeDefrag [ccmpQueued 0 1, g]).1.isSome) :
    Collects ccmpCfg (run (rxDataStep ccmpCfg) rxStart [ccmpFragment 0 1])
      (rxFragment privacy false 1 body dec) [ccmpQueued 0 1, g] := by
  obtain ⟨s', h⟩ := rxToDefrag_rxFragment privacy 1 body dec hpass hdec
  refine ⟨_, s', h, ⟨hg.1, hg.2.1⟩, (), rfl, ?_, hsome⟩
  rw [(rxToDefrag_passed h).defragQ]
  simp only [run, foldl, first_waits]
  rw [singleton_append, RxFragment.queued, ← hg.2.2]

theorem no_mixed_fragments_ccmp : Unmixed [ccmpQueued 0 1, ccmpQueued 1 2] := by
  refine no_mixed_fragments_run (by decide) rfl _ _ [ccmpFragment 0 1, ccmpFragment 1 2]
    ⟨fun _ _ h => absurd rfl h, fun sta _ _ g hg => ?_, trivial⟩ [ccmpFragment 0 1]
    (ccmpFragment 1 2) (prefix_refl _) _ (collects_behind_first true _ _ (by decide +kernel)
      (by decide +kernel) (by decide +kernel) (by decide +kernel))
  cases hg
  decide +kernel

/-- The last fragment is taken for EAPOL, and is put together with a protected one. -/
theorem mixed_fragments :
    Collects ccmpCfg (run (rxDataStep ccmpCfg) rxStart [ccmpFragment 0 1]) eapolFragment
      [ccmpQueued 0 1, eapolFragment.attrib ccmpCfg]
    ∧ ¬ Unmixed [ccmpQueued 0 1, eapolFragment.attrib ccmpCfg] := by
  refine ⟨collects_behind_first false _ none (by decide +kernel) (by decide +kernel)
    (by decide +kernel) (by decide +kernel), fun h => ?_⟩
  obtain ⟨b, hb⟩ := h.privacy
  have hfirst : true = b := hb (ccmpQueued 0 1) (by simp)
  have hlast : false = b := hb (eapolFragment.attrib ccmpCfg) (by simp)
  exact absurd (hfirst.trans hlast.symm) (by decide)

end Pipeline

end Rtl8852be

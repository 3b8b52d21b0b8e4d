import Rtl8852be.WpTag
import Rtl8852be.Proofs.WdRing
import Rtl8852be.Lib.Slots
import Mathlib.Data.Nat.Bitwise
import Mathlib.Tactic.IntervalCases

/-!
# A report finds its request

The channel and the sequence number that a report is turned into are those the request was stored
under, provided the request's type goes with the ring it was in.
-/

namespace Rtl8852be

open Function List Nat

variable {oob : ℕ → ℕ}

section Echo

variable {r : XmitReq}

/-- A request whose type goes with its ring. -/
structure Matched (r : XmitReq) : Prop where
  band : r.band = 0
  tid : r.tid < 10
  wmm : r.wmm < 2
  pktlen : 0 < r.pktlen ∧ r.pktlen ≤ txpktsizeMsk
  type : r.tid = ringCatMgnt ∧ r.type = .mgnt ∨ r.tid ≠ ringCatMgnt ∧ r.type = .data

instance (r : XmitReq) : Decidable (Matched r) :=
  decidable_of_iff (r.band = 0 ∧ r.tid < 10 ∧ r.wmm < 2 ∧ (0 < r.pktlen ∧ r.pktlen ≤ txpktsizeMsk)
      ∧ (r.tid = ringCatMgnt ∧ r.type = .mgnt ∨ r.tid ≠ ringCatMgnt ∧ r.type = .data))
    ⟨fun ⟨h1, h2, h3, h4, h5⟩ => ⟨h1, h2, h3, h4, h5⟩, fun h => ⟨h.1, h.2, h.3, h.4, h.5⟩⟩

def qselOf (tid wmm : ℕ) : ℕ :=
  if tid = ringCatMgnt then 18 else if tid = ringCatHiq then 17
  else wmm <<< 2 ||| qselL[tid]?.getD 0

lemma qselOf_to_tid : ∀ tid < 10, ∀ wmm < 2, qselOf tid wmm % 0x20 &&& 8 = 0
      ∧ halQselToTid (qselOf tid wmm % 0x20) (halGetTidIndic tid) = tid := by
  decide

lemma Matched.body (h : Matched r) :
    macBuildTxdesc oob r = some (r.macid &&& macidMsk, qselOf r.tid r.wmm) := by
  obtain ⟨id, type, macid, tid, band, wmm, pktlen⟩ := r
  obtain ⟨rfl, htid, hwmm, ⟨hpos, hle⟩, htype⟩ := h
  simp only [] at htid hwmm hpos hle htype
  have hlen : ¬ (txpktsizeMsk < pktlen ∨ pktlen = 0) := by omega
  rcases htype with ⟨rfl, rfl⟩ | ⟨hne, rfl⟩
  · simp [macBuildTxdesc, txdesProcMgnt, hlen, packBody, qselOf, qselMsk]
  -- ten rings and two queue sets; on the management ring there is no data
  interval_cases tid <;> interval_cases wmm <;>
    first
    | exact absurd rfl hne
    | simp [macBuildTxdesc, txdesProcData, hlen, packBody, qselOf, qselMsk, qselL, XmitReq.dmaCh,
        halMappingHwTxChnl, macAxDataHiq, hiqB0QueueIdx, ringCatMgnt, ringCatHiq]

lemma seq_with_indic {s : ℕ} (hs : s < 0x1000) :
    (s ||| wpTidIndicReservedBit) % 0x8000 &&& wpTidIndicReservedBit ≠ 0
      ∧ (s ||| wpTidIndicReservedBit) % 0x8000 &&& wpReservedSeq = s := by
  have hor : (s ||| wpTidIndicReservedBit) % 0x8000 = s ||| wpTidIndicReservedBit :=
    Nat.mod_eq_of_lt (Nat.or_lt_two_pow (n := 15) (by omega) (by decide))
  rw [hor]
  constructor
  · rw [Nat.and_or_distrib_right, Nat.and_self]
    exact fun h => absurd (Nat.or_eq_zero_iff.mp h).2 (by decide)
  · rw [wpReservedSeq, show 0xFFF = 2 ^ 12 - 1 by rfl, Nat.and_two_pow_sub_one_eq_mod,
      Nat.or_mod_two_pow, Nat.mod_eq_of_lt (by omega : s < 2 ^ 12)]
    simp [wpTidIndicReservedBit]

lemma seq_without_indic {s : ℕ} (hs : s < 0x1000) :
    s % 0x8000 &&& wpTidIndicReservedBit = 0 ∧ s % 0x8000 &&& wpReservedSeq = s := by
  rw [mod_eq_of_lt (by omega : s < 0x8000)]
  constructor
  · rw [wpTidIndicReservedBit, show 0x4000 = 2 ^ 14 by rfl, and_two_pow,
      testBit_lt_two_pow (by omega)]
    rfl
  · rw [wpReservedSeq, show 0xFFF = 2 ^ 12 - 1 by rfl, and_two_pow_sub_one_eq_mod,
      mod_eq_of_lt (by omega : s < 2 ^ 12)]

lemma Matched.echo (h : Matched r) {wpSeq : ℕ} (hs : wpSeq < 0x1000) (old : Option WdMem)
    (txSts : ℕ) (polluted : Bool) :
    let rpt := halHandleRxReport ((halUpdateWd oob r wpSeq old).1.report txSts polluted)
    rpt.dmaCh = r.dmaCh ∧ rpt.wpSeq = wpSeq := by
  obtain ⟨hband, htid⟩ := qselOf_to_tid r.tid h.tid r.wmm h.wmm
  simp only [halUpdateWd, h.body, Option.getD_some, WdMem.report, halHandleRxReport]
  rw [if_neg (not_not.mpr hband)]
  by_cases hind : halGetTidIndic r.tid = 1
  · obtain ⟨hbit, hseq⟩ := seq_with_indic hs
    rw [if_pos hind, if_pos hbit, ← hind, htid, hseq, XmitReq.dmaCh, h.band]
    exact ⟨rfl, rfl⟩
  · have hzero : halGetTidIndic r.tid = 0 := by
      unfold halGetTidIndic at hind ⊢
      split <;> simp_all
    obtain ⟨hbit, hseq⟩ := seq_without_indic hs
    rw [hzero] at htid
    rw [if_neg hind, if_neg (not_not.mpr hbit), htid, hseq, XmitReq.dmaCh, h.band]
    exact ⟨rfl, rfl⟩

end Echo

section Tags

variable {ρ ω : Type*} {c c' : TxChan ρ ω}

structure SameTags (c c' : TxChan ρ ω) : Prop where
  wpSeq : c'.ring.wpSeq = c.ring.wpSeq
  wpTag : c'.ring.wpTag = c.ring.wpTag
  rptBusyCnt : c'.ring.rptBusyCnt = c.ring.rptBusyCnt
  recycled : c'.recycled = c.recycled

lemma SameTags.refl (c : TxChan ρ ω) : SameTags c c := ⟨rfl, rfl, rfl, rfl⟩

lemma SameTags.trans {c'' : TxChan ρ ω} (h : SameTags c c') (h' : SameTags c' c'') :
    SameTags c c'' :=
  ⟨h'.wpSeq.trans h.wpSeq, h'.wpTag.trans h.wpTag, h'.rptBusyCnt.trans h.rptBusyCnt,
    h'.recycled.trans h.recycled⟩

lemma SameTags.update {cs : ℕ → TxChan ρ ω} {ch₀ : ℕ} (h : SameTags (cs ch₀) c') (ch : ℕ) :
    SameTags (cs ch) (update cs ch₀ c' ch) :=
  (forall_update_iff cs fun ch c => SameTags (cs ch) c).mpr ⟨h, fun _ _ => .refl _⟩ ch

lemma recycleBusyWd_tags (n hwIdx : ℕ) (c : TxChan ρ ω) :
    SameTags c (recycleBusyWd n hwIdx c).2 := by
  have h : SameTags c { c with ring := (phlHandleBusyWd n hwIdx c.ring).2 } := by
    refine phlHandleBusyWd_rule (P := fun r => SameTags c { c with ring := r }) ?_ n hwIdx c.ring
      (.refl c)
    intro r wd rest h _
    refine h.trans ?_
    unfold enqueueWdWorkRing
    split <;> exact ⟨rfl, rfl, rfl, rfl⟩
  exact ⟨h.wpSeq, h.wpTag, h.rptBusyCnt, h.recycled⟩

lemma phlHandlePendingWd_tags (n : ℕ) (io : TxIo) (txcnt : ℕ) (c : TxChan ρ ω) :
    SameTags c (phlHandlePendingWd n io txcnt c).2 := by
  obtain ⟨-, hl⟩ := pendingLoop_rule (n := n) io (P := fun _ c' => SameTags c c')
    (fun _ _ h => h.trans ⟨rfl, rfl, rfl, rfl⟩) (fun _ _ _ _ h _ => h.trans ⟨rfl, rfl, rfl, rfl⟩)
    (fun _ _ _ _ h _ => h.trans ⟨rfl, rfl, rfl, rfl⟩) txcnt 0 .failure c (.refl c)
  unfold phlHandlePendingWd
  split
  · rename_i heq
    rw [heq] at hl
    split
    · exact hl.trans ⟨rfl, rfl, rfl, rfl⟩
    · exact hl
  · exact hl

lemma phlTxPcieCh_tags (n : ℕ) (io : TxIo) (c : TxChan ρ ω) :
    SameTags c (phlTxPcieCh n io c).2 := by
  have hb := recycleBusyWd_tags n (halGetAvailTxbd n c.bd).2 c
  unfold phlTxPcieCh
  split
  · exact .refl c
  simp only []
  split
  · exact hb
  split
  · exact hb
  split
  · exact hb
  · exact hb.trans (phlHandlePendingWd_tags n io _ _)

structure Stores (txReq : ρ) (c c' : TxChan ρ ω) : Prop where
  free : c.ring.wpTag c.ring.wpSeq = none
  wpSeq : c'.ring.wpSeq = nextWpSeq c.ring.wpSeq
  wpTag : c'.ring.wpTag = update c.ring.wpTag c.ring.wpSeq (some txReq)
  rptBusyCnt : c'.ring.rptBusyCnt = c.ring.rptBusyCnt + 1
  recycled : c'.recycled = c.recycled

lemma phlPrepareTxPcie_tags (fill : ρ → ℕ → Option ω → ω × ℕ) (ok : Bool) (txReq : ρ)
    (c : TxChan ρ ω) :
    (phlPrepareTxPcie fill ok txReq c).1 ≠ .success
        ∧ SameTags c (phlPrepareTxPcie fill ok txReq c).2
      ∨ (phlPrepareTxPcie fill ok txReq c).1 = .success
        ∧ Stores txReq c (phlPrepareTxPcie fill ok txReq c).2 := by
  unfold phlPrepareTxPcie queryIdleWdPage
  split
  · exact .inl ⟨nofun, .refl c⟩
  rename_i hfree
  rcases c.ring.idle.items with _ | ⟨wd, rest⟩
  · exact .inl ⟨nofun, .refl c⟩
  simp
  split
  · exact .inr ⟨rfl, not_not.mp hfree, rfl, rfl, rfl, rfl⟩
  · exact .inl ⟨nofun, rfl, rfl, rfl, rfl⟩

end Tags

section Runs

open Slots

variable {n total : ℕ} {s : WpSys}
variable {e : SentWd} {k : ℕ}

/-- Every WD written whose report has not been taken has its request under its tag, and no tag holds
anything else. -/
structure WpInv (s : WpSys) : Prop where
  seq : ∀ ch, 1 ≤ (s.cs ch).ring.wpSeq ∧ (s.cs ch).ring.wpSeq < wpMaxSeqNumber
  cnt : ∀ ch, (s.cs ch).ring.rptBusyCnt = (occupied wpMaxSeqNumber (s.cs ch).ring.wpTag).length
  live : ∀ k e, s.sent[k]? = some e → k ∉ s.reported →
    (s.cs e.dmaCh).ring.wpTag e.wpSeq = some e.req
  stored : ∀ ch i r, (s.cs ch).ring.wpTag i = some r →
    ∃ k e, s.sent[k]? = some e ∧ k ∉ s.reported ∧ e.dmaCh = ch ∧ e.wpSeq = i
  older : ∀ j k e e', j < k → s.sent[j]? = some e → s.sent[k]? = some e' →
    e.dmaCh = e'.dmaCh → e.wpSeq = e'.wpSeq → j ∈ s.reported
  range : ∀ e ∈ s.sent, e.wpSeq < wpMaxSeqNumber
  echo : ∀ e ∈ s.sent, ∀ txSts polluted,
    (halHandleRxReport (e.mem.report txSts polluted)).dmaCh = e.dmaCh
      ∧ (halHandleRxReport (e.mem.report txSts polluted)).wpSeq = e.wpSeq
  known : ∀ k ∈ s.reported, k < s.sent.length

lemma wpInit_inv (pages work : ℕ → List ℕ) : WpInv (wpInit pages work) where
  seq _ := ⟨le_rfl, Nat.lt_of_sub_eq_succ rfl⟩
  cnt _ := by simp
  live := by simp
  stored := by simp
  older := by simp
  range := by simp
  echo := by simp
  known := by simp

lemma WpInv.of_sameTags (h : WpInv s) {cs' : ℕ → TxChan XmitReq WdMem}
    (hsame : ∀ ch, SameTags (s.cs ch) (cs' ch)) : WpInv { s with cs := cs' } where
  seq ch := by
    rw [(hsame ch).wpSeq]
    exact h.seq ch
  cnt ch := by
    rw [(hsame ch).rptBusyCnt, (hsame ch).wpTag]
    exact h.cnt ch
  live k e hk hr := by
    rw [(hsame e.dmaCh).wpTag]
    exact h.live k e hk hr
  stored ch i r hi := by
    rw [(hsame ch).wpTag] at hi
    exact h.stored ch i r hi
  older := h.older
  range := h.range
  echo := h.echo
  known := h.known

lemma wpTag_update {cs : ℕ → TxChan ρ ω} {c' : TxChan ρ ω} {ch₀ i₀ : ℕ} {v : Option ρ}
    (hc : c'.ring.wpTag = update (cs ch₀).ring.wpTag i₀ v) (ch i : ℕ) :
    (update cs ch₀ c' ch).ring.wpTag i = if ch = ch₀ ∧ i = i₀ then v else (cs ch).ring.wpTag i := by
  rcases eq_or_ne ch ch₀ with rfl | hne
  · rw [update_self, hc]
    simp [update_apply]
  · rw [update_of_ne hne, if_neg (fun hc => hne hc.1)]

lemma WpInv.tag_unique (h : WpInv s) {j : ℕ} {e' : SentWd} (hj : s.sent[j]? = some e)
    (hk : s.sent[k]? = some e') (hjr : j ∉ s.reported) (hkr : k ∉ s.reported)
    (hch : e.dmaCh = e'.dmaCh) (hseq : e.wpSeq = e'.wpSeq) : j = k := by
  rcases lt_trichotomy j k with hlt | heq | hgt
  · exact absurd (h.older j k e e' hlt hj hk hch hseq) hjr
  · exact heq
  · exact absurd (h.older k j e' e hgt hk hj hch.symm hseq.symm) hkr

/-- No later WD has the tag. -/
def FreshTag (s : WpSys) (k : ℕ) : Prop :=
  ∀ e ∈ s.sent[k]?, ∀ e' ∈ s.sent.drop (k + 1), ¬ (e'.dmaCh = e.dmaCh ∧ e'.wpSeq = e.wpSeq)
  deriving Decidable

section

variable (h : WpInv s) (hk : s.sent[k]? = some e)
include h hk

lemma WpInv.tag (hfresh : FreshTag s k) :
    (s.cs e.dmaCh).ring.wpTag e.wpSeq = if k ∈ s.reported then none else some e.req := by
  split
  · rename_i hrep
    by_contra hne
    obtain ⟨r, hr⟩ := Option.ne_none_iff_exists'.mp hne
    obtain ⟨j, e', hj, hjr, hch, hseq⟩ := h.stored _ _ r hr
    rcases lt_trichotomy j k with hlt | rfl | hgt
    · exact hjr (h.older j k e' e hlt hj hk hch hseq)
    · exact hjr hrep
    · refine hfresh e hk e' (mem_of_getElem? (i := j - (k + 1)) ?_) ⟨hch, hseq⟩
      rwa [getElem?_drop, show k + 1 + (j - (k + 1)) = j by omega]
  · rename_i hrep
    exact h.live k e hk hrep

lemma WpInv.report_cs (txSts : ℕ) (polluted ok : Bool) : (wpReport s k txSts polluted ok).cs
      = update s.cs e.dmaCh (phlRecyclePayload ok e.wpSeq (s.cs e.dmaCh)) := by
  obtain ⟨hch, hseq⟩ := h.echo e (mem_of_getElem? hk) txSts polluted
  unfold wpReport
  rw [hk]
  simp only [phlRxHandleWpReport]
  rw [hch, hseq, ite_self]

lemma WpInv.report_recycled (hfresh : FreshTag s k) (txSts : ℕ) (polluted ok : Bool) (ch : ℕ) :
    ((wpReport s k txSts polluted ok).cs ch).recycled = (s.cs ch).recycled
        ++ if ch = e.dmaCh ∧ ok = true ∧ k ∉ s.reported then [e.req] else [] := by
  rw [h.report_cs hk]
  rcases eq_or_ne ch e.dmaCh with rfl | hne
  · rw [update_self, phlRecyclePayload, h.tag hk hfresh]
    by_cases hrep : k ∈ s.reported
    · simp [hrep]
    · cases ok <;> simp [hrep]
  · simp [hne]

lemma WpInv.report_again (hfresh : FreshTag s k)
    (txSts : ℕ) (polluted ok : Bool) (hno : ok = false ∨ k ∈ s.reported) :
    WpInv (wpReport s k txSts polluted ok) := by
  have hcs : (wpReport s k txSts polluted ok).cs = s.cs := by
    rw [h.report_cs hk]
    refine (congrArg _ ?_).trans (update_eq_self _ _)
    rw [phlRecyclePayload, h.tag hk hfresh]
    rcases hno with rfl | hrep
    · split <;> rfl
    · simp [hrep]
  have hsent : (wpReport s k txSts polluted ok).sent = s.sent := by
    simp only [wpReport, hk]
  have hrep : ∀ j, j ∈ (wpReport s k txSts polluted ok).reported ↔ j ∈ s.reported := by
    intro j
    simp only [wpReport, hk]
    rcases hno with rfl | hrep
    · simp
    cases ok
    · simp
    · simp only [if_true, mem_append, mem_singleton]
      exact ⟨fun hj => hj.elim id fun he => he ▸ hrep, .inl⟩
  constructor
  · rw [hcs]
    exact h.seq
  · rw [hcs]
    exact h.cnt
  · simp only [hcs, hsent, hrep]
    exact h.live
  · simp only [hcs, hsent, hrep]
    exact h.stored
  · simp only [hsent, hrep]
    exact h.older
  · rw [hsent]
    exact h.range
  · rw [hsent]
    exact h.echo
  · simp only [hsent, hrep]
    exact h.known

lemma WpInv.report_first (hrep : k ∉ s.reported)
    (txSts : ℕ) (polluted : Bool) : WpInv (wpReport s k txSts polluted true) := by
  have hlive := h.live k e hk hrep
  have hrange := h.range e (mem_of_getElem? hk)
  have hcs := h.report_cs hk txSts polluted true
  rw [phlRecyclePayload, hlive] at hcs
  simp at hcs
  have htag : ∀ ch i, ((wpReport s k txSts polluted true).cs ch).ring.wpTag i
      = if ch = e.dmaCh ∧ i = e.wpSeq then none else (s.cs ch).ring.wpTag i := by
    rw [hcs]
    exact wpTag_update rfl
  have hsent : (wpReport s k txSts polluted true).sent = s.sent := by
    simp only [wpReport, hk]
  have hmem : ∀ j, j ∈ (wpReport s k txSts polluted true).reported ↔ j ∈ s.reported ∨ j = k := by
    intro j
    simp [wpReport, hk]
  constructor
  · rw [hcs]
    exact (forall_update_iff s.cs fun _ c => 1 ≤ c.ring.wpSeq ∧ c.ring.wpSeq < _).mpr
      ⟨h.seq _, fun ch _ => h.seq ch⟩
  · rw [hcs]
    refine (forall_update_iff s.cs fun _ c =>
      c.ring.rptBusyCnt = (occupied wpMaxSeqNumber c.ring.wpTag).length).mpr
      ⟨?_, fun ch _ => h.cnt ch⟩
    simp only [length_clear hrange hlive, h.cnt]
  · intro j e' hj hjr
    rw [hsent] at hj
    rw [hmem, not_or] at hjr
    rw [htag, if_neg fun hc => hjr.2 (h.tag_unique hj hk hjr.1 hrep hc.1 hc.2)]
    exact h.live j e' hj hjr.1
  · intro ch i r hr
    rw [htag] at hr
    split at hr
    · cases hr
    rename_i hne
    obtain ⟨j, e', hj, hjr, rfl, rfl⟩ := h.stored ch i r hr
    refine ⟨j, e', hsent ▸ hj, ?_, rfl, rfl⟩
    rw [hmem, not_or]
    refine ⟨hjr, ?_⟩
    rintro rfl
    rw [hk] at hj
    cases hj
    exact hne ⟨rfl, rfl⟩
  · intro j l e₁ e₂ hlt hj hl hch hseq
    rw [hsent] at hj hl
    exact (hmem j).mpr (.inl (h.older j l e₁ e₂ hlt hj hl hch hseq))
  · rw [hsent]
    exact h.range
  · rw [hsent]
    exact h.echo
  · intro j hj
    rw [hsent]
    rcases (hmem j).mp hj with hj | rfl
    · exact h.known j hj
    · exact (List.getElem?_eq_some_iff.mp hk).1

end

lemma WpInv.report (h : WpInv s) (hfresh : FreshTag s k) (txSts : ℕ) (polluted ok : Bool) :
    WpInv (wpReport s k txSts polluted ok) := by
  rcases hk : s.sent[k]? with _ | e
  · simp only [wpReport, hk]
    exact h
  by_cases hno : ok = false ∨ k ∈ s.reported
  · exact h.report_again hk hfresh txSts polluted ok hno
  · rw [not_or, Bool.not_eq_false] at hno
    obtain ⟨rfl, hrep⟩ := hno
    exact h.report_first hk hrep txSts polluted

lemma nextWpSeq_range {w : ℕ} : 1 ≤ nextWpSeq w ∧ nextWpSeq w < wpMaxSeqNumber := by
  have hlt : (w + 1) % wpMaxSeqNumber < wpMaxSeqNumber := mod_lt _ (by decide)
  unfold nextWpSeq
  split
  · exact ⟨le_rfl, by decide⟩
  · omega

lemma WpInv.stores (h : WpInv s) {r : XmitReq} {c' : TxChan XmitReq WdMem} (hr : Matched r)
    (hs : Stores r (s.cs r.dmaCh) c') :
    WpInv { s with
      cs := update s.cs r.dmaCh c', sent := s.sent ++ [s.nextWd oob r] } := by
  obtain ⟨hpos, hlt⟩ := h.seq r.dmaCh
  have htag := wpTag_update hs.wpTag
  -- the tag is free, so every WD written under it before has had its report
  have hdone : ∀ j e, s.sent[j]? = some e → e.dmaCh = r.dmaCh →
      e.wpSeq = (s.cs r.dmaCh).ring.wpSeq → j ∈ s.reported := by
    intro j e hj hch hseq
    by_contra hjr
    have hl := h.live j e hj hjr
    rw [hch, hseq, hs.free] at hl
    cases hl
  have hnew : s.sent.length ∉ s.reported := fun hm => lt_irrefl _ (h.known _ hm)
  constructor
  · refine (forall_update_iff s.cs fun _ c => 1 ≤ c.ring.wpSeq ∧ c.ring.wpSeq < _).mpr
      ⟨?_, fun ch _ => h.seq ch⟩
    rw [hs.wpSeq]
    exact nextWpSeq_range
  · refine (forall_update_iff s.cs fun _ c =>
      c.ring.rptBusyCnt = (occupied wpMaxSeqNumber c.ring.wpTag).length).mpr
      ⟨?_, fun ch _ => h.cnt ch⟩
    rw [hs.rptBusyCnt, hs.wpTag, length_fill hlt hs.free, h.cnt]
  · intro j e hj hjr
    simp only [htag]
    rcases Circ.getElem?_concat_cases hj with hj | ⟨rfl, rfl⟩
    · rw [if_neg (fun hc => hjr (hdone j e hj hc.1 hc.2))]
      exact h.live j e hj hjr
    · rw [if_pos ⟨rfl, rfl⟩]
      rfl
  · intro ch i r' hr'
    simp only [htag] at hr'
    split at hr'
    · rename_i hc
      exact ⟨s.sent.length, s.nextWd oob r, getElem?_concat_length, hnew, hc.1.symm, hc.2.symm⟩
    · obtain ⟨j, e, hj, hjr, hch, hi⟩ := h.stored ch i r' hr'
      exact ⟨j, e, Circ.getElem?_of_prefix (prefix_append _ _) hj, hjr, hch, hi⟩
  · intro j k e e' hjk hj hk hch hseq
    rcases Circ.getElem?_concat_cases hj with hj | ⟨rfl, rfl⟩
    · rcases Circ.getElem?_concat_cases hk with hk | ⟨rfl, rfl⟩
      · exact h.older j k e e' hjk hj hk hch hseq
      · exact hdone j e hj hch hseq
    · have := (List.getElem?_eq_some_iff.mp hk).1
      rw [List.length_append, List.length_singleton] at this
      omega
  · intro e he
    rcases mem_append.mp he with he | he
    · exact h.range e he
    · rwa [mem_singleton.mp he]
  · intro e he
    rcases mem_append.mp he with he | he
    · exact h.echo e he
    · rw [mem_singleton.mp he]
      exact hr.echo (hlt.trans (by decide)) _
  · intro k hk
    have := h.known k hk
    simp
    omega

lemma WpInv.prepare (h : WpInv s) {r : XmitReq} (hr : Matched r) : WpInv (wpPrepare oob s r) := by
  unfold wpPrepare
  rcases phlPrepareTxPcie_tags (halUpdateWd oob) true r (s.cs r.dmaCh) with
    ⟨hst, hsame⟩ | ⟨hst, hstores⟩
  · simp only [if_neg hst]
    exact h.of_sameTags hsame.update
  · simp only [if_pos hst]
    exact h.stores hr hstores

/-- A request's type goes with its ring, and a report comes again before its tag is used again. -/
def WpSafe (s : WpSys) : WpEvent → Prop
  | .prepare r => Matched r
  | .report k _ _ _ => FreshTag s k
  | .tx _ => True
  | .hw _ _ => True

instance (s : WpSys) : ∀ e, Decidable (WpSafe s e)
  | .prepare r => inferInstanceAs (Decidable (Matched r))
  | .report k _ _ _ => inferInstanceAs (Decidable (FreshTag s k))
  | .tx _ | .hw _ _ => inferInstanceAs (Decidable True)

lemma wpStep_inv (s : WpSys) (e : WpEvent) (h : WpInv s) (hok : WpSafe s e) :
    WpInv (wpStep oob n total s e) := by
  cases e with
  | prepare r => exact h.prepare hok
  | report k txSts polluted ok => exact h.report hok txSts polluted ok
  | tx io =>
    refine h.of_sameTags fun ch => ?_
    rw [phlTxPcie, forTxCh_apply]
    split
    · exact phlTxPcieCh_tags n (io ch) (s.cs ch)
    · exact .refl _
  | hw ch' k =>
    exact h.of_sameTags (SameTags.update ⟨rfl, rfl, rfl, rfl⟩)

/-- In every run whose steps are safe: a request is only stored under a free tag, a report is turned
into the tag of its WD, and the first report gives the request back, a later one nothing. -/
theorem wp_report_once (oob : ℕ → ℕ) (n total : ℕ) (pages work : ℕ → List ℕ) (es : List WpEvent)
    (hok : Run.RunOK (wpStep oob n total) WpSafe (wpInit pages work) es) :
    ∀ es', es' <+: es → let s := Run.run (wpStep oob n total) (wpInit pages work) es'
      (∀ ch, 1 ≤ (s.cs ch).ring.wpSeq ∧ (s.cs ch).ring.wpSeq ≤ 0xFFE
          ∧ (s.cs ch).ring.rptBusyCnt = (occupied wpMaxSeqNumber (s.cs ch).ring.wpTag).length)
        ∧ (∀ r, (phlPrepareTxPcie (halUpdateWd oob) true r (s.cs r.dmaCh)).1 = .success →
          (s.cs r.dmaCh).ring.wpTag (s.cs r.dmaCh).ring.wpSeq = none)
        ∧ (∀ (k : ℕ) (e : SentWd), s.sent[k]? = some e → ∀ txSts polluted,
          (halHandleRxReport (e.mem.report txSts polluted)).dmaCh = e.dmaCh
            ∧ (halHandleRxReport (e.mem.report txSts polluted)).wpSeq = e.wpSeq)
        ∧ ∀ (k : ℕ) (e : SentWd), s.sent[k]? = some e → FreshTag s k → ∀ txSts polluted ok ch,
          ((wpStep oob n total s (.report k txSts polluted ok)).cs ch).recycled = (s.cs ch).recycled
              ++ if ch = e.dmaCh ∧ ok = true ∧ k ∉ s.reported then [e.req] else [] := by
  intro es' hp s
  have h : WpInv s := Run.run_inv _ WpSafe wpStep_inv es' _ (wpInit_inv pages work)
    (hok.of_prefix hp)
  refine ⟨fun ch => ⟨(h.seq ch).1, le_of_lt_succ (h.seq ch).2, h.cnt ch⟩, ?_, ?_, ?_⟩
  · intro r hst
    rcases phlPrepareTxPcie_tags (halUpdateWd oob) true r (s.cs r.dmaCh) with
      ⟨hne, -⟩ | ⟨-, hstores⟩
    · exact absurd hst hne
    · exact hstores.free
  · intro k e hk
    exact h.echo e (mem_of_getElem? hk)
  · intro k e hk hfresh txSts polluted ok ch
    exact h.report_recycled hk hfresh txSts polluted ok ch

/-- Voice and background requests of one station, with the reports the other way round, and one of
them twice. -/
def wpSampleRun : List WpEvent :=
  [.prepare ⟨1, .data, 5, 7, 0, 0, 100⟩, .prepare ⟨2, .data, 5, 2, 0, 1, 200⟩,
    .tx fun _ => .succeed fun _ => 0, .report 1 0 false true, .report 0 0 false true,
    .report 1 0 false true]

theorem wp_report_once_sample :
    let s :=
      Run.run (wpStep (fun _ => 0) 4 10) (wpInit (fun _ => [10, 11]) fun _ => [20]) wpSampleRun
    (s.cs 1).recycled = [⟨2, .data, 5, 2, 0, 1, 200⟩]
      ∧ (s.cs 3).ring.rptBusyCnt = (occupied wpMaxSeqNumber (s.cs 3).ring.wpTag).length := by
  have h := wp_report_once (fun _ => 0) 4 10 (fun _ => [10, 11]) (fun _ => [20]) wpSampleRun
    (by decide +kernel) wpSampleRun (prefix_refl _)
  exact ⟨by decide +kernel, ((h.1 3).2.2)⟩

/-- A data frame injected in monitor mode is sent as management through the ring of TID 7. Its
report takes another's request. -/
theorem wp_report_wrong_request : let mgmt : XmitReq := ⟨1, .mgnt, 5, 8, 0, 0, 100⟩
    let injected : XmitReq := ⟨2, .mgnt, 5, 7, 0, 0, 100⟩
    let s := Run.run (wpStep (fun _ => 0) 4 10) (wpInit (fun _ => [10, 11]) fun _ => [20])
      [.prepare mgmt, .prepare injected, .report 1 0 false true]
    (s.sent[1]?.map fun e => (e.req, e.dmaCh, e.wpSeq)) = some (injected, 3, 1)
      ∧ (s.cs 3).recycled = [] ∧ (s.cs 3).ring.wpTag 1 = some injected
      ∧ (s.cs 8).recycled = [mgmt] := by
  decide +kernel

end Runs

/-!
## Where a report can point

The sequence number is cut to 12 bits, and the tags are one less than 12 bits can tell.
-/

@[local simp] def wpCalls : List UInt8 → List RecycleCall
  | a :: b :: c :: d :: rest => (RxRp.ofWord (Frames.ofLe32 a b c d)).call :: wpCalls rest
  | _ => []

lemma four_mul_length_wpCalls_le (pkt : List UInt8) :
    rxRpPacketSize * (wpCalls pkt).length ≤ pkt.length := by
  fun_induction wpCalls pkt with
  | case1 a b c d rest ih =>
    simp [rxRpPacketSize] at ih ⊢
    omega
  | case2 => simp

lemma phlRxHandleWpReportLoop_eq : ∀ (turns : ℕ) (pkt : List UInt8), pkt.length < turns →
    phlRxHandleWpReportLoop turns pkt = some (wpCalls pkt, rxRpPacketSize * (wpCalls pkt).length)
  | 0, pkt, h => by simp at h
  | turns + 1, a :: b :: c :: d :: rest, h => by
    simp at h
    have ih := phlRxHandleWpReportLoop_eq turns rest (by omega)
    simp [phlRxHandleWpReportLoop, halHandleRxReport8852be, rxRpPacketSize] at ih ⊢
    simp [ih, mul_add, add_comm]
  | turns + 1, [], _ | turns + 1, [_], _ | turns + 1, [_, _], _ | turns + 1, [_, _, _], _ => by
    simp [phlRxHandleWpReportLoop, halHandleRxReport8852be]

lemma halMappingHwTxChnl_lt (macid cat band : ℕ) :
    halMappingHwTxChnl macid cat band < txDmaChannelEntry := by
  unfold halMappingHwTxChnl
  split
  · split <;> simp [txDmaChannelEntry, mgqB0QueueIdx, hiqB0QueueIdx]
  · simp [txDmaChannelEntry]

lemma RxRp.call_dmaCh_lt (rp : RxRp) : rp.call.dmaCh < txDmaChannelEntry := by
  simp only [RxRp.call, halHandleRxReport]
  exact halMappingHwTxChnl_lt _ _ _

lemma wpSeq_ofWord (a b c d : UInt8) :
    (RxRp.ofWord (Frames.ofLe32 a b c d)).call.wpSeq = c.toNat + 256 * (d.toNat % 16) := by
  have ha := a.toNat_lt
  have hb := b.toNat_lt
  have hc := c.toNat_lt
  have hand : ∀ n, n &&& wpReservedSeq = n % 4096 := fun n => and_two_pow_sub_one_eq_mod n 12
  simp only [RxRp.call, halHandleRxReport, RxRp.ofWord, hand, leBits, Frames.ofLe32]
  omega

def RecycleCall.Inside (c : RecycleCall) : Prop :=
  c.wpSeq < wpMaxSeqNumber ∧ c.dmaCh < txDmaChannelEntry

/-- The number of the report has all its bits set. -/
def SeqAllOnes (c d : UInt8) : Prop := c = 0xFF ∧ d.toNat % 16 = 15

lemma inside_ofWord_iff (a b c d : UInt8) :
    (RxRp.ofWord (Frames.ofLe32 a b c d)).call.Inside ↔ ¬ SeqAllOnes c d := by
  have hch := (RxRp.ofWord (Frames.ofLe32 a b c d)).call_dmaCh_lt
  have hc := c.toNat_lt
  have hff : c = 0xFF ↔ c.toNat = 255 := by
    rw [← UInt8.toNat_inj]
    rfl
  simp [RecycleCall.Inside, hch, wpSeq_ofWord, SeqAllOnes, hff, wpMaxSeqNumber]
  omega

/-- Every call stays inside the arrays, and the loop ends behind a whole number of records. -/
def WpReportSafe (pkt : List UInt8) : Prop :=
  ∃ calls used, (∀ turns, pkt.length < turns →
      phlRxHandleWpReportLoop turns pkt = some (calls, used))
    ∧ (∀ c ∈ calls, c.Inside) ∧ rxRpPacketSize ∣ used ∧ used ≤ pkt.length

lemma forall_wpCalls_inside_iff : ∀ pkt : List UInt8, (∀ c ∈ wpCalls pkt, c.Inside)
      ↔ ∀ k, 4 * k + 4 ≤ pkt.length → ¬ SeqAllOnes (pkt.getD (4 * k + 2) 0) (pkt.getD (4 * k + 3) 0)
  | a :: b :: c :: d :: rest => by
    rw [wpCalls, forall_mem_cons, forall_wpCalls_inside_iff rest, inside_ofWord_iff]
    constructor
    · rintro ⟨hfirst, hrest⟩ (_ | k) hk
      · exact hfirst
      · simp at hk
        exact hrest k (by omega)
    · intro h
      refine ⟨h 0 (by simp), fun k hk => ?_⟩
      exact h (k + 1) (by simp; omega)
  | [] | [_] | [_, _] | [_, _, _] => by
    refine iff_of_true (by simp) fun k hk => ?_
    simp only [length_cons, length_nil] at hk
    omega

/-- A packet is safe exactly when none of its whole records has a sequence number that ends in 12
ones. -/
theorem wp_report_safe_iff (pkt : List UInt8) : WpReportSafe pkt ↔ ∀ k, 4 * k + 4 ≤ pkt.length →
        ¬ SeqAllOnes (pkt.getD (4 * k + 2) 0) (pkt.getD (4 * k + 3) 0) := by
  rw [← forall_wpCalls_inside_iff]
  constructor
  · rintro ⟨calls, used, hloop, hin, -⟩
    have h := hloop (pkt.length + 1) (lt_succ_self _)
    rw [phlRxHandleWpReportLoop_eq _ _ (lt_succ_self _)] at h
    simp at h
    rwa [h.1]
  · intro hin
    exact ⟨wpCalls pkt, rxRpPacketSize * (wpCalls pkt).length,
      fun turns h => phlRxHandleWpReportLoop_eq turns pkt h, hin, dvd_mul_right _ _,
      four_mul_length_wpCalls_le pkt⟩

/-- One record with the sequence number 0xFFF: it is one past the last tag. -/
theorem wp_report_all_ones :
    phlRxHandleWpReportLoop 5 [0x00, 0x00, 0xFF, 0x0F] = some ([⟨0, 0xFFF, 0⟩], 4)
    ∧ ¬ WpReportSafe [0x00, 0x00, 0xFF, 0x0F] := by
  refine ⟨rfl, ?_⟩
  rintro ⟨calls, used, hall, hin, -⟩
  have h : some ([⟨0, 0xFFF, 0⟩], 4) = some (calls, used) := hall 5 (by simp)
  simp at h
  have := (hin ⟨0, 0xFFF, 0⟩ (by simp [← h.1])).1
  simp [wpMaxSeqNumber] at this

end Rtl8852be

import Rtl8852be.VendorAttr
import Rtl8852be.Lib.AttrWalk

/-!
# When the search for an attribute is exact

The size of an attribute with 65533 bytes of data or more, or 65532 for WPS, does not fit 16 bits.
The search for a WPS attribute does not look at the length of the element.
-/

namespace Rtl8852be

open AttrWalk Loop Function Option Prod

variable {p : ℕ} {r : Option ℕ} {x : Option (ℕ × ℕ)}

lemma map_attrContent {a : Attrs} (h0 : 0 < a.hdr) (h : ∀ q, a.dataLen q < 65536)
    (r : Option ℕ) : attrContent a.hdr (r.map a.found) = r.map a.content := by
  rcases r with _ | q
  · rfl
  have hq := h q
  have hmod : (a.hdr + a.dataLen q + 4294967296 - a.hdr) % 4294967296 = a.dataLen q := by omega
  have hne : a.hdr + a.dataLen q ≠ 0 := by omega
  refine (if_neg hne).trans ?_
  rw [hmod]
  rfl

section Wfa

variable (k : WfaAttrs) (ie : ℕ → UInt8) (ielen : ℕ) (target : UInt8)

def WfaAttrs.isIe : Bool := isVendorIe 0x50 0x6F 0x9A k.ouiType ie

def WfaAttrs.attrs : Attrs where
  hdr := 3
  dataLen p := k.dataLen ie (p + 1)
  Ends p := ielen < p + 3 ∨ k.dataLen ie (p + 1) < 65533 ∧ ielen < p + 3 + k.dataLen ie (p + 1)
  Here p := k.dataLen ie (p + 1) < 65533 ∧ p + 3 + k.dataLen ie (p + 1) ≤ ielen ∧ ie p = target
  Goes p := p + 3 ≤ ielen ∧ ie p ≠ target ∧ k.dataLen ie (p + 1) ≠ 65533 ∧
    (k.dataLen ie (p + 1) < 65533 → p + 3 + k.dataLen ie (p + 1) ≤ ielen)

def WfaAttrs.FirstAttr : ℕ → ℕ → Prop := First (k.attrs ie ielen target) (ie · = target) ielen

/-- The search returns the first attribute with the id, with its whole length, and the search for
the content the length of its data. -/
def WfaExact (search content : ℕ → Option (Option (ℕ × ℕ))) : Prop :=
  ∃ r : Option ℕ, (∃ fuel, search fuel = some (r.map (k.attrs ie ielen target).found)
      ∧ content fuel = some (r.map (k.attrs ie ielen target).content))
    ∧ ∀ q, r = some q ↔ k.isIe ie = true ∧ k.FirstAttr ie ielen target 6 q

/-- No attribute that is read has 65533 bytes or more, except that the walk from inside one of 65534
or 65535 still has the right result. -/
def WfaSafe (p : ℕ) : Prop :=
  Safe (k.attrs ie ielen target) (fun p r => ∀ q, r = some q ↔ k.FirstAttr ie ielen target p q) p

variable {k ie ielen target}

lemma wfaReads_iff : Reads (k.attrs ie ielen target) p r
    ↔ Returns (wfaAttrStep k ie ielen target) p (r.map (k.attrs ie ielen target).found) := by
  constructor
  · intro h
    refine h.returns (fun p hp => (returns_of_inr ?_).2 rfl) (fun p hp => ?_) fun p hp => ?_
    · rcases hp with hp | ⟨hlt, hp⟩
      · rw [wfaAttrStep, if_neg (by omega)]
      · simp only [wfaAttrStep]
        rw [if_pos (by omega : ielen < p + (k.dataLen ie (p + 1) + 3) % 65536), ite_self]
    · obtain ⟨hlt, hin, hid⟩ := hp
      simp [wfaAttrStep, hid]
      rw [if_pos (by omega), if_neg (by omega)]
      simp [Attrs.found, WfaAttrs.attrs, some.injEq, mk.injEq]
      omega
    · obtain ⟨hin, hid, hne, hfits⟩ := hp
      have hlt := k.dataLen_lt ie (p + 1)
      simp [wfaAttrStep, hid]
      rw [if_pos hin, if_neg (by omega)]
      rfl
  · intro h
    generalize hx : r.map (k.attrs ie ielen target).found = x at h
    refine h.rec_on (P := fun p x => ∀ r, r.map (k.attrs ie ielen target).found = x →
        Reads (k.attrs ie ielen target) p r)
      (fun p x hs r hx => ?_) (fun p p' x hs hret ih r hx => ?_) r hx
    · simp only [wfaAttrStep] at hs
      split_ifs at hs with hin hlen hid
      · obtain rfl := Sum.inr.inj hs
        obtain rfl := map_eq_none_iff.1 hx
        have hlt := k.dataLen_lt ie (p + 1)
        exact .ends (.inr ⟨by omega, by omega⟩)
      · obtain rfl := Sum.inr.inj hs
        obtain ⟨q, rfl, hq⟩ := map_eq_some_iff.1 hx
        simp [Attrs.found, WfaAttrs.attrs] at hq
        obtain ⟨rfl, hq⟩ := hq
        exact .here ⟨by omega, by omega, hid⟩
      · obtain rfl := Sum.inr.inj hs
        obtain rfl := map_eq_none_iff.1 hx
        exact .ends (.inl (by omega))
    · have hs' := hs
      simp only [wfaAttrStep] at hs
      split_ifs at hs with hin hlen hid
      obtain rfl := Sum.inl.inj hs
      refine .next ⟨hin, hid, fun h => ?_, fun h => by omega⟩ (ih r hx)
      rw [h] at hs' hret
      exact not_returns_of_fixed hs' hret

lemma wfaSafe_iff : WfaSafe k ie ielen target p
    ↔ ∃ r : Option ℕ, Returns (wfaAttrStep k ie ielen target) p
        (r.map (k.attrs ie ielen target).found)
      ∧ ∀ q, r = some q ↔ k.FirstAttr ie ielen target p q := by
  simp only [← wfaReads_iff]
  refine (safe_iff (fun p hp q => ?_) (fun p hp q => ?_) fun p r hp hlt _ => ?_).symm
  · refine iff_of_false (by simp) fun hq => ?_
    have hin : p + 3 + k.dataLen ie (p + 1) ≤ ielen := hq.complete
    rcases hp with hp | ⟨-, hp⟩ <;> omega
  · rw [some.injEq]
    exact (First.here_iff hp.2.2 hp.2.1).symm
  · have hin : p + 3 + k.dataLen ie (p + 1) ≤ ielen := hp.2.2.2 (Nat.lt_of_add_lt_add_right hlt)
    exact forall_congr' fun q => iff_congr Iff.rfl (First.next_iff hp.2.1 hin)

lemma wfaExact_iff : WfaExact k ie ielen target (wfaAttr k · (some ie) ielen target)
      (fun fuel => (wfaAttr k fuel (some ie) ielen target).map (attrContent 3))
    ↔ (k.isIe ie = true → WfaSafe k ie ielen target 6) := by
  have hshort : ielen ≤ 6 → ∀ q, ¬ k.FirstAttr ie ielen target 6 q := fun h q hq => by
    have hin : 6 + 3 + k.dataLen ie (6 + 1) ≤ ielen := hq.complete
    omega
  by_cases hie : k.isIe ie = true ∧ 6 < ielen
  · have hsearch : ∀ fuel, wfaAttr k fuel (some ie) ielen target
        = iter (wfaAttrStep k ie ielen target) fuel 6 := fun fuel => by
      have h := hie.1
      simp only [WfaAttrs.isIe] at h
      simp [wfaAttr, h, Nat.not_le.2 hie.2]
    simp only [WfaExact, hsearch, hie.1, true_implies, true_and, wfaSafe_iff, Returns]
    refine exists_congr fun r => and_congr_left fun _ => exists_congr fun fuel => ?_
    refine and_iff_left_of_imp fun h => ?_
    rw [h, Option.map_some, ← map_attrContent (Nat.succ_pos 2) fun q => k.dataLen_lt ie (q + 1)]
    rfl
  · have hsearch : ∀ fuel, wfaAttr k fuel (some ie) ielen target = some none := fun fuel => by
      simp [WfaAttrs.isIe] at hie
      simp only [wfaAttr]
      rw [if_pos]
      by_cases h : isVendorIe 0x50 0x6F 0x9A k.ouiType ie = true
      · exact .inl (hie h)
      · exact .inr (Bool.eq_false_iff.2 h)
    refine iff_of_true ⟨none, ⟨0, hsearch 0, congrArg (Option.map _) (hsearch 0)⟩, fun q => ?_⟩
      fun h => ?_
    · refine iff_of_false (by simp) fun hq => ?_
      exact hshort (Nat.le_of_not_lt fun hlt => hie ⟨hq.1, hlt⟩) q hq.2
    · exact .ends (.inl (Nat.lt_of_le_of_lt (Nat.le_of_not_lt fun hlt => hie ⟨h, hlt⟩) (by omega)))

theorem attr_search_exact_iff (ie : ℕ → UInt8) (ielen : ℕ) (target : UInt8) :
    (WfaExact p2pAttrs ie ielen target (rtwGetP2pAttr · (some ie) ielen target)
        (rtwGetP2pAttrContent · (some ie) ielen target)
      ↔ (p2pAttrs.isIe ie = true → WfaSafe p2pAttrs ie ielen target 6))
    ∧ (WfaExact wfdAttrs ie ielen target (rtwGetWfdAttr · (some ie) ielen target)
        (rtwGetWfdAttrContent · (some ie) ielen target)
      ↔ (wfdAttrs.isIe ie = true → WfaSafe wfdAttrs ie ielen target 6)) :=
  ⟨wfaExact_iff, wfaExact_iff⟩

/-- A P2P element with one attribute whose length is 65533. -/
def p2pWrapped : ℕ → UInt8 := fun i => [221, 7, 0x50, 0x6F, 0x9A, 0x09, 1, 0xFD, 0xFF].getD i 0

/-- The search for another attribute does not return; the one for this finds it with length 0. -/
theorem attr_search_wrapped : (∀ fuel, rtwGetP2pAttr fuel (some p2pWrapped) 9 2 = none)
    ∧ rtwGetP2pAttr 1 (some p2pWrapped) 9 1 = some (some (6, 0))
    ∧ ¬ WfaExact p2pAttrs p2pWrapped 9 2 (rtwGetP2pAttr · (some p2pWrapped) 9 2)
      (rtwGetP2pAttrContent · (some p2pWrapped) 9 2) := by
  have hfixed : wfaAttrStep p2pAttrs p2pWrapped 9 2 6 = .inl 6 := rfl
  have hnone : ∀ fuel, rtwGetP2pAttr fuel (some p2pWrapped) 9 2 = none := fun fuel =>
    eq_none_iff_forall_ne_some.2 fun x hx => not_returns_of_fixed hfixed ⟨fuel, hx⟩
  refine ⟨hnone, rfl, ?_⟩
  rintro ⟨r, ⟨fuel, hsearch, -⟩, -⟩
  exact some_ne_none _ (hsearch.symm.trans (hnone fuel))

end Wfa

section Wps

variable (ie : ℕ → UInt8) (ielen target : ℕ)
variable {ie' : ℕ → UInt8}

@[local simp] def wpsAttrs : Attrs where
  hdr := 4
  dataLen p := rtwGetBe16 ie (p + 2)
  Ends p := ielen ≤ p ∨ p + 3 = ielen ∧ rtwGetBe16 ie p ≠ target ∧ ie (p + 2) ≠ 255
  Here p := rtwGetBe16 ie (p + 2) < 65532 ∧ p + 4 + rtwGetBe16 ie (p + 2) ≤ ielen ∧
    rtwGetBe16 ie p = target
  Goes p := p + 4 ≤ ielen ∧ rtwGetBe16 ie p ≠ target ∧ rtwGetBe16 ie (p + 2) ≠ 65532

def WpsFirst : ℕ → ℕ → Prop := First (wpsAttrs ie ielen target) (rtwGetBe16 ie · = target) ielen

/-- Whatever stands behind the element, the search returns the same, the first attribute with the
id, inside the element. -/
def WpsBounded : Prop :=
  ∃ r : Option ℕ, (∀ ie', (∀ i < ielen, ie' i = ie i) →
      ∃ fuel, rtwGetWpsAttr fuel ie' ielen target = some (r.map (wpsAttrs ie ielen target).found)
        ∧ rtwGetWpsAttrContent fuel ie' ielen target
          = some (r.map (wpsAttrs ie ielen target).content))
    ∧ ∀ q, r = some q → WpsFirst ie ielen target 6 q

/-- Attributes that are read are in the element, and their sizes fit 16 bits, except that the walk
from inside one that does not still finds the first. -/
def WpsSafe (p : ℕ) : Prop :=
  Safe (wpsAttrs ie ielen target) (fun p r => ∀ q, r = some q → WpsFirst ie ielen target p q) p

variable {ie ielen target}

lemma rtwGetBe16_congr (h : ∀ i < ielen, ie' i = ie i) (hp : p + 2 ≤ ielen) :
    rtwGetBe16 ie' p = rtwGetBe16 ie p := by
  rw [rtwGetBe16, rtwGetBe16, h p (by omega), h (p + 1) (by omega)]

lemma wpsAttrStep_goes (hp : p < ielen) (hid : rtwGetBe16 ie' p ≠ target) :
    wpsAttrStep ie' ielen target p = .inl (p + (rtwGetBe16 ie' (p + 2) + 4) % 65536) := by
  rw [wpsAttrStep, if_pos hp]
  exact if_neg hid

lemma wpsReturns_none (hp : ielen ≤ p) : Returns (wpsAttrStep ie' ielen target) p x ↔ none = x :=
  returns_of_inr (if_neg (Nat.not_lt.2 hp))

/-- In the last three bytes the search is not at the mercy of what follows only if the length cannot
be 65532. -/
lemma wps_stuck (hp : p < ielen) (hle : ielen ≤ p + 3) (hid : rtwGetBe16 ie p ≠ target)
    (hlen : p + 2 < ielen → ie (p + 2) = 255) :
    ∃ ie', (∀ i < ielen, ie' i = ie i) ∧ ¬ Returns (wpsAttrStep ie' ielen target) p x := by
  refine ⟨update (update ie (p + 2) 255) (p + 3) 252, fun i hi => ?_, not_returns_of_fixed ?_⟩
  · rw [update_of_ne (by omega)]
    by_cases h : i = p + 2
    · rw [h, update_self, hlen (h ▸ hi)]
    · rw [update_of_ne h]
  · rw [wpsAttrStep_goes hp]
    · simp [rtwGetBe16]
    · simpa [rtwGetBe16] using hid

lemma wpsReads_returns (h : Reads (wpsAttrs ie ielen target) p r)
    (hie : ∀ i < ielen, ie' i = ie i) :
    Returns (wpsAttrStep ie' ielen target) p (r.map (wpsAttrs ie ielen target).found) := by
  refine h.returns (fun p hp => ?_) (fun p hp => ?_) fun p hp => ?_
  · rcases hp with hp | ⟨hp, hid, hlen⟩
    · exact (wpsReturns_none hp).2 rfl
    · rw [← rtwGetBe16_congr hie (by omega)] at hid
      rw [returns_of_inl (wpsAttrStep_goes (by omega) hid)]
      refine (wpsReturns_none ?_).2 rfl
      rw [← hie (p + 2) (by omega), Ne, ← UInt8.toNat_inj] at hlen
      have h2 := (ie' (p + 2)).toNat_lt
      have h3 := (ie' (p + 2 + 1)).toNat_lt
      simp only [rtwGetBe16]
      rw [show (255 : UInt8).toNat = 255 from rfl] at hlen
      omega
  · obtain ⟨hlt, hin, hid⟩ := hp
    rw [← rtwGetBe16_congr hie (by omega)] at hid
    rw [wpsAttrStep, if_pos (by omega), rtwGetBe16_congr hie (by omega)]
    simp [hid, Attrs.found, some.injEq, mk.injEq]
    omega
  · obtain ⟨hin, hid, -⟩ := hp
    rw [← rtwGetBe16_congr hie (by omega)] at hid
    rw [wpsAttrStep_goes (by omega) hid, rtwGetBe16_congr hie (by omega)]
    rfl

lemma wpsReads_of_returns
    (h : ∀ ie', (∀ i < ielen, ie' i = ie i) →
      Returns (wpsAttrStep ie' ielen target) p (r.map (wpsAttrs ie ielen target).found))
    (hin : ∀ q, r = some q → q + 4 + rtwGetBe16 ie (q + 2) ≤ ielen) :
    Reads (wpsAttrs ie ielen target) p r := by
  generalize hx : r.map (wpsAttrs ie ielen target).found = x at h
  refine (h ie fun _ _ => rfl).rec_on (P := fun p x => r.map (wpsAttrs ie ielen target).found = x →
    (∀ ie', (∀ i < ielen, ie' i = ie i) → Returns (wpsAttrStep ie' ielen target) p x) →
    Reads (wpsAttrs ie ielen target) p r) (fun p x hs hx _ => ?_) (fun p p' x hs hret ih hx h => ?_)
    hx h
  · simp only [wpsAttrStep] at hs
    split_ifs at hs with hp hid
    · obtain rfl := Sum.inr.inj hs
      obtain ⟨q, rfl, hq⟩ := map_eq_some_iff.1 hx
      simp [Attrs.found] at hq
      obtain ⟨rfl, hq⟩ := hq
      exact .here ⟨by omega, hin q rfl, hid⟩
    · obtain rfl := Sum.inr.inj hs
      obtain rfl := map_eq_none_iff.1 hx
      exact .ends (.inl (Nat.le_of_not_lt hp))
  · have hs' := hs
    simp only [wpsAttrStep] at hs
    split_ifs at hs with hp hid
    obtain rfl := Sum.inl.inj hs
    rcases Nat.lt_or_ge ielen (p + 4) with hlt | hge
    · -- the length is not wholly in the element
      by_cases hlen : p + 2 < ielen → ie (p + 2) = 255
      · obtain ⟨ie', hie, hno⟩ := wps_stuck (x := x) hp (by omega) hid hlen
        exact absurd (h ie' hie) hno
      obtain ⟨h2, h255⟩ := Classical.not_imp.1 hlen
      obtain rfl : r = none := by
        refine map_eq_none_iff.1 (hx.trans ((wpsReturns_none ?_).1 hret).symm)
        rw [← UInt8.toNat_inj, show (255 : UInt8).toNat = 255 from rfl] at h255
        have h0 := (ie (p + 2)).toNat_lt
        have h1 := (ie (p + 2 + 1)).toNat_lt
        simp only [rtwGetBe16]
        omega
      exact .ends (.inr ⟨by omega, hid, h255⟩)
    · refine .next ⟨hge, hid, fun hd => ?_⟩ (ih hx fun ie' hie => ?_)
      · rw [hd] at hs' hret
        exact not_returns_of_fixed hs' hret
      · have hid' := hid
        rw [← rtwGetBe16_congr hie (by omega)] at hid'
        have hnext := (returns_of_inl (wpsAttrStep_goes hp hid')).1 (h ie' hie)
        rwa [rtwGetBe16_congr hie (by omega)] at hnext

lemma wpsSafe_iff : WpsSafe ie ielen target p
    ↔ ∃ r : Option ℕ, (∀ ie', (∀ i < ielen, ie' i = ie i) →
        Returns (wpsAttrStep ie' ielen target) p (r.map (wpsAttrs ie ielen target).found))
      ∧ ∀ q, r = some q → WpsFirst ie ielen target p q := by
  refine (safe_iff (fun p _ q hq => ?_) (fun p hp q hq => ?_) fun p r hp hlt hr => ?_).symm.trans
    (exists_congr fun r => and_congr_left fun hfirst => ⟨fun h _ => wpsReads_returns h, fun h =>
      wpsReads_of_returns h fun q hq => (hfirst q hq).inside.1⟩)
  · cases hq
  · cases hq
    exact .here hp.2.1 hp.2.2
  · refine forall_congr' fun q => imp_congr_right fun hq => ?_
    subst hq
    obtain ⟨hle, -, hin, -⟩ := hr.le_some
    refine First.next_iff hp.2.1 ?_
    omega

/-- The element has the WPS header. -/
structure WpsIe (ie : ℕ → UInt8) (ielen : ℕ) : Prop where
  header : isVendorIe 0x00 0x50 0xF2 0x04 ie = true
  inside : 6 ≤ ielen

lemma WpsIe.search (h : WpsIe ie ielen) (hie : ∀ i < ielen, ie' i = ie i) (fuel : ℕ) :
    rtwGetWpsAttr fuel ie' ielen target = iter (wpsAttrStep ie' ielen target) fuel 6 := by
  have hin := h.inside
  have hvendor : isVendorIe 0x00 0x50 0xF2 0x04 ie' = true := by
    have hheader := h.header
    simp only [isVendorIe] at hheader ⊢
    rwa [hie 0 (by omega), hie 2 (by omega), hie 3 (by omega), hie 4 (by omega), hie 5 (by omega)]
  rw [rtwGetWpsAttr, if_pos hvendor]

theorem wps_attr_bounded_iff (h : WpsIe ie ielen) :
    WpsBounded ie ielen target ↔ WpsSafe ie ielen target 6 := by
  rw [wpsSafe_iff]
  refine exists_congr fun r => and_congr_left fun _ => forall_congr' fun ie' =>
    forall_congr' fun hie => exists_congr fun fuel => ?_
  rw [rtwGetWpsAttrContent, h.search hie]
  refine and_iff_left_of_imp fun hs => ?_
  rw [hs, map_some, ← map_attrContent (Nat.succ_pos 3) fun q => rtwGetBe16_lt ie (q + 2)]
  rfl

@[local simp] def wpsBuf (len : UInt8) : ℕ → UInt8 := fun i =>
  [221, 9, 0x00, 0x50, 0xF2, 0x04, 0x10, 0x4A, 0x00, len, 0x10].getD i 0

lemma wpsBuf_ie (len : UInt8) {ielen : ℕ} (h : 6 ≤ ielen) : WpsIe (wpsBuf len) ielen := ⟨rfl, h⟩

theorem wps_attr_bounded_one : WpsIe (wpsBuf 1) 11 ∧ WpsBounded (wpsBuf 1) 11 0x104A :=
  ⟨wpsBuf_ie 1 (by simp), (wps_attr_bounded_iff (wpsBuf_ie 1 (by simp))).2
    (.here ⟨by simp [rtwGetBe16], by simp [rtwGetBe16], by simp [rtwGetBe16]⟩)⟩

/-- An attribute of 200 bytes in an element that has one of them. -/
theorem wps_attr_past : rtwGetWpsAttrContent 1 (wpsBuf 200) 11 0x104A = some (some (10, 200))
    ∧ WpsIe (wpsBuf 200) 11 ∧ ¬ WpsBounded (wpsBuf 200) 11 0x104A := by
  have hie : WpsIe (wpsBuf 200) 11 := wpsBuf_ie 200 (by simp)
  refine ⟨rfl, hie, fun ⟨r, hsearch, hfirst⟩ => ?_⟩
  obtain ⟨fuel, hs, -⟩ := hsearch _ fun _ _ => rfl
  have hfound : (some (6, 204) : Option (ℕ × ℕ)) = r.map (wpsAttrs (wpsBuf 200) 11 0x104A).found :=
    (returns_of_inr (by rfl)).1 ⟨fuel, hs⟩
  obtain ⟨q, rfl, hq⟩ := map_eq_some_iff.1 hfound.symm
  obtain ⟨rfl, -⟩ := mk.inj hq
  exact absurd (hfirst _ rfl).inside.1 (by simp [rtwGetBe16])

end Wps

end Rtl8852be

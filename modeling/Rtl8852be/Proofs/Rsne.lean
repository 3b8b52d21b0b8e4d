import Rtl8852be.Lib.Tlv
import Rtl8852be.VendorAttr

/-!
# Which fields of an RSN element are reported

An element that ends behind the count of a list of suites is accepted, and the list is not reported.
-/

namespace Rtl8852be

open List Tlv RsneField

variable {ie : ℕ → UInt8} {ieLen pos : ℕ} {f : RsneField}

namespace RsneField

def place (f : RsneField) (pos : ℕ) : ℕ := if f.counted then pos + 2 else pos

def count (f : RsneField) (ie : ℕ → UInt8) (pos : ℕ) : ℕ :=
  if f.counted then rtwGetLe16 ie pos else 1

def stop (f : RsneField) (ie : ℕ → UInt8) (pos : ℕ) : ℕ := f.place pos + f.size * f.count ie pos

end RsneField

/-- Only the PMKIDs may be none. -/
def Complete (ie : ℕ → UInt8) (ieLen : ℕ) (f : RsneField) (pos : ℕ) : Prop :=
  f.stop ie pos ≤ ieLen ∧ (f.count ie pos = 0 → f = .pmkid)

def CutAtCount (ie : ℕ → UInt8) (ieLen : ℕ) (f : RsneField) (pos : ℕ) : Prop :=
  f.counted = true ∧ f ≠ .pmkid ∧ rtwGetLe16 ie pos ≠ 0 ∧ ieLen = pos + 2

/-- The element ends behind the count of a list of suites, and all fields before it are there. -/
def EndsAtCount (ie : ℕ → UInt8) (ieLen : ℕ) : List RsneField → ℕ → Prop
  | [], _ => False
  | f :: fs, pos => CutAtCount ie ieLen f pos ∨
      Complete ie ieLen f pos ∧ EndsAtCount ie ieLen fs (f.stop ie pos)

/-- What is reported is in the element, and what is not reported was not announced. -/
def Reported (ie : ℕ → UInt8) (ieLen : ℕ) : List RsneField → ℕ → List (ℕ × ℕ) → Prop
  | [], _, info => info = []
  | f :: _, pos, [] => f.counted = true → pos + 2 ≤ ieLen → rtwGetLe16 ie pos = 0
  | f :: fs, pos, x :: info =>
    x = (f.place pos, f.count ie pos) ∧ x.1 + f.size * x.2 ≤ ieLen ∧
      Reported ie ieLen fs (f.stop ie pos) info

lemma rsneField_found {x : ℕ × ℕ} : rsneField ie ieLen f pos = some (some x) ↔
    x = (f.place pos, f.count ie pos) ∧ Complete ie ieLen f pos := by
  unfold rsneField Complete RsneField.stop RsneField.place RsneField.count
  cases f <;> simp [RsneField.counted] <;> split_ifs <;> simp <;> grind

lemma rsneField_exit : rsneField ie ieLen f pos = some none ↔
    ieLen = pos ∨ CutAtCount ie ieLen f pos := by
  unfold rsneField CutAtCount
  cases f <;> simp [counted, size] <;> split_ifs <;> simp <;> omega

lemma reported_iff : ∀ {fs : List RsneField} {pos : ℕ} {info : List (ℕ × ℕ)},
    rsneParse ie ieLen fs pos = some info →
      (Reported ie ieLen fs pos info ↔ ¬ EndsAtCount ie ieLen fs pos)
  | [], pos, info, h => by
    have : info = [] := by simpa [rsneParse] using h.symm
    simp [Reported, EndsAtCount, this]
  | f :: fs, pos, info, h => by
    unfold rsneParse at h
    split at h
    · cases h
    · rename_i hexit
      cases h
      have hends : ¬ Complete ie ieLen f pos := fun hc => by
        simp [rsneField_found.2 ⟨rfl, hc⟩] at hexit
      unfold EndsAtCount CutAtCount
      rcases rsneField_exit.1 hexit with rfl | ⟨hc, hf, hn, hl⟩
      · exact iff_of_true (fun _ h2 => by omega) (by simp [hends])
      · simp [Reported, hc, hf, hn, hl]
    · rename_i p n hfound
      obtain ⟨hx, hcomplete⟩ := rsneField_found.1 hfound
      cases hx
      obtain ⟨info', hrest, rfl⟩ := Option.map_eq_some_iff.1 h
      have hcut : ¬ CutAtCount ie ieLen f pos := fun hc => by
        simp [rsneField_exit.2 (Or.inr hc)] at hfound
      unfold EndsAtCount Reported
      simp [hcut, hcomplete]
      exact (and_iff_right hcomplete.1).trans (reported_iff hrest)

lemma rsneParse_of_endsAtCount : ∀ {fs : List RsneField} {pos : ℕ},
    EndsAtCount ie ieLen fs pos → ∃ info, rsneParse ie ieLen fs pos = some info
  | f :: fs, pos, Or.inl h => by
    simp [rsneParse, rsneField_exit.2 (Or.inr h)]
  | f :: fs, pos, Or.inr ⟨hc, h⟩ => by
    obtain ⟨info, hinfo⟩ := rsneParse_of_endsAtCount h
    unfold stop at hinfo
    simp [rsneParse, rsneField_found.2 ⟨rfl, hc⟩, hinfo]

/-- The contents of one field, as the entries of its list. -/
structure RsneValue where
  field : RsneField
  entries : List (List UInt8)
  size : ∀ e ∈ entries, e.length = field.size
  count : if field.counted then entries.length < 65536 ∧ (entries = [] → field = .pmkid)
    else entries.length = 1

def RsneValue.bytes (v : RsneValue) : List UInt8 :=
  (if v.field.counted then
    [UInt8.ofNat v.entries.length, UInt8.ofNat (v.entries.length / 256)] else []) ++
      v.entries.flatten

@[local simp] def rsneElem (vs : List RsneValue) : List UInt8 :=
  [48, UInt8.ofNat (2 + (vs.flatMap RsneValue.bytes).length), 1, 0] ++ vs.flatMap RsneValue.bytes

def rsnePlaces : List RsneValue → ℕ → List (ℕ × ℕ)
  | [], _ => []
  | v :: vs, pos =>
    (v.field.place pos, v.entries.length) :: rsnePlaces vs (pos + v.bytes.length)

lemma RsneValue.length_bytes (v : RsneValue) :
    v.bytes.length = v.field.place 0 + v.field.size * v.entries.length := by
  have hmap : v.entries.map length = replicate v.entries.length v.field.size :=
    map_eq_replicate_iff.2 v.size
  unfold bytes place
  rw [length_append, length_flatten, hmap, sum_replicate_nat, Nat.mul_comm]
  split_ifs <;> simp

lemma RsneValue.count_eq {v : RsneValue} (h : Holds ie pos v.bytes) :
    v.field.count ie pos = v.entries.length := by
  have hcount := v.count
  unfold bytes at h
  unfold RsneField.count
  split_ifs at h hcount ⊢ with hc
  · obtain ⟨hlo, hhi, -⟩ := h
    unfold rtwGetLe16
    simp [hlo, hhi]
    omega
  · exact hcount.symm

lemma rsneParse_places : ∀ {vs : List RsneValue} {fs : List RsneField} {pos : ℕ},
    vs.map RsneValue.field <+: fs → Holds ie pos (vs.flatMap RsneValue.bytes) →
      ieLen = pos + (vs.flatMap RsneValue.bytes).length →
        rsneParse ie ieLen fs pos = some (rsnePlaces vs pos)
  | [], [], _, _, _, _ => rfl
  | [], f :: fs, pos, _, _, hl => by
    have hend : ieLen = pos := by simpa using hl
    simp [rsneParse, rsneField_exit.2 (Or.inl hend), rsnePlaces]
  | v :: vs, [], _, h, _, _ => by simp at h
  | v :: vs, f :: fs, pos, h, hmem, hl => by
    obtain ⟨rfl, hfs⟩ := cons_prefix_cons.1 h
    rw [flatMap_cons] at hmem hl
    obtain ⟨hv, hvs⟩ := holds_append.1 hmem
    have hn := v.count_eq hv
    have hstop : v.field.stop ie pos = pos + v.bytes.length := by
      rw [v.length_bytes, stop, hn]
      unfold place
      split_ifs <;> omega
    have hcomplete : Complete ie ieLen v.field pos := by
      refine ⟨by rw [hstop, hl, length_append]; omega, fun h0 => ?_⟩
      have hcount := v.count
      split_ifs at hcount
      · exact hcount.2 (length_eq_zero_iff.1 (hn ▸ h0))
      · omega
    have hrest := rsneParse_places hfs hvs (by rw [hl, length_append]; omega)
    unfold rsneParse
    rw [rsneField_found.2 ⟨rfl, hcomplete⟩]
    show Option.map _ (rsneParse ie ieLen fs (v.field.stop ie pos)) = _
    rw [hstop, hrest, hn]
    rfl

/-- The element id, the length and the version. -/
def RsneHeader (ie : ℕ → UInt8) (ieLen : ℕ) : Prop :=
  4 ≤ ieLen ∧ ie 0 = 48 ∧ (ie 1).toNat = ieLen - 2 ∧ ie 2 = 1

lemma rtwRsneInfoParse_eq (h : RsneHeader ie ieLen) :
    rtwRsneInfoParse ie ieLen = rsneParse ie ieLen rsneFields 4 := by
  obtain ⟨h4, hid, hlen, hver⟩ := h
  unfold rtwRsneInfoParse
  rw [if_neg (by simp [hid, hlen, hver]; omega)]

lemma rsneHeader_of_success {info : List (ℕ × ℕ)} (h : rtwRsneInfoParse ie ieLen = some info) :
    RsneHeader ie ieLen := by
  unfold rtwRsneInfoParse at h
  split_ifs at h with hhead
  simpa [RsneHeader] using hhead

/-- Every element that ends behind a field is reported as it is; and whatever is accepted is
reported, unless it ends behind the count of a list of suites. -/
theorem rsne_reported_iff (ie : ℕ → UInt8) (ieLen : ℕ) :
    (∀ vs : List RsneValue, vs.map RsneValue.field <+: rsneFields → (rsneElem vs).length < 258 →
      Holds ie 0 (rsneElem vs) →
        rtwRsneInfoParse ie (rsneElem vs).length = some (rsnePlaces vs 4)) ∧
    ((∀ info, rtwRsneInfoParse ie ieLen = some info → Reported ie ieLen rsneFields 4 info) ↔
      ¬ (RsneHeader ie ieLen ∧ EndsAtCount ie ieLen rsneFields 4)) := by
  refine ⟨fun vs hvs hlen hmem => ?_, ⟨?_, ?_⟩⟩
  · obtain ⟨⟨hid, hn, hver, -⟩, hbytes⟩ := holds_append.1 hmem
    have hhead : RsneHeader ie (rsneElem vs).length := by
      refine ⟨by simp, hid, ?_, hver⟩
      simp at hlen ⊢
      simp [hn]
      omega
    rw [rtwRsneInfoParse_eq hhead]
    exact rsneParse_places hvs hbytes (by simp; omega)
  · rintro h ⟨hhead, hends⟩
    obtain ⟨info, hinfo⟩ := rsneParse_of_endsAtCount hends
    exact (reported_iff hinfo).1 (h info ((rtwRsneInfoParse_eq hhead).trans hinfo)) hends
  · intro h info hinfo
    have hhead := rsneHeader_of_success hinfo
    rw [rtwRsneInfoParse_eq hhead] at hinfo
    exact (reported_iff hinfo).2 fun hends => h ⟨hhead, hends⟩

/-- One pairwise suite is announced, and the element ends. -/
def rsneCut (i : ℕ) : UInt8 := [48, 8, 1, 0, 0, 0x0f, 0xac, 4, 1, 0].getD i 0

theorem rsneCut_not_reported :
    rtwRsneInfoParse rsneCut 10 = some [(4, 1)] ∧ ¬ Reported rsneCut 10 rsneFields 4 [(4, 1)] := by
  refine ⟨by decide, fun h => ?_⟩
  have hpcs := h.2.2 (by decide) (by decide)
  revert hpcs
  decide

end Rtl8852be

import Rtl8852be.Lib.Tlv
import Rtl8852be.ParseElems

/-!
# What the parser finds

The parser goes by an element's own bytes, except at an extension element without a body: there it
goes by the byte that follows the element.
-/

namespace Rtl8852be

open Tlv List Option

variable {mem mem' : ℕ → UInt8} {pos fuel unknown : ℕ} {elems : Elems} {f : ElemField} {n : ℕ}
variable {e : Elem} {rest bs : List UInt8} {es : List Elem} {x : UInt8}

def vendorSelects : List UInt8 → Option ElemField
  | o₁ :: o₂ :: o₃ :: type :: rest =>
    if o₁ = 0x00 ∧ o₂ = 0x50 ∧ o₃ = 0xf2 then
      if type = 1 then some .wpaIe
      else if type = 2 then
        match rest with
        | [] => none
        | sub :: _ =>
          if sub = 0 ∨ sub = 1 then some .wme else if sub = 2 then some .wmeTspec else none
      else if type = 4 then some .wpsIe
      else none
    else if o₁ = 0x00 ∧ o₂ = 0x90 ∧ o₃ = 0x4c ∧ type = 0x33 then some .vendorHtCap
    else none
  | _ => none

def selects (e : Elem) : Option ElemField :=
  if e.id = wlanEidVendorSpecific then vendorSelects e.body
  else if e.id = wlanEidExtension then e.body.head?.bind extField
  else eidField e.id

/-- The body's place and the length of the last element that selects a field, in a buffer that
starts at `pos`. -/
def lastSelecting (f : ElemField) : ℕ → List Elem → Option (ℕ × ℕ)
  | _, [] => none
  | pos, e :: es =>
    (lastSelecting f (pos + 2 + e.body.length) es).or
      (if selects e = some f then some (pos + 2, e.body.length) else none)

/-- The parser is exact on a buffer, whatever lies behind it in memory. -/
structure ParseExact (bs : List UInt8) : Prop where
  failed : ∀ mem, Holds mem 0 bs →
    ((rtwIeee80211ParseElems mem bs.length).1 = .parseFailed ↔ ¬ ∃ es, bs = encode es)
  fields : ∀ mem, Holds mem 0 bs → ∀ es, bs = encode es →
    ∀ f, (rtwIeee80211ParseElems mem bs.length).2 f = lastSelecting f 0 es
  bytesOnly : ∀ mem mem', Holds mem 0 bs → Holds mem' 0 bs →
    rtwIeee80211ParseElems mem bs.length = rtwIeee80211ParseElems mem' bs.length

def IsEmptyExt (e : Elem) : Prop := e.id = wlanEidExtension ∧ e.body = []

/-- Each extension element without a body is followed by an element whose id is no id extension with
a field, or the field is selected by a later one. -/
def EmptyExtHarmless (es : List Elem) : Prop :=
  ∀ pre e post, es = pre ++ e :: post → IsEmptyExt e → ∃ next rest, post = next :: rest ∧
      ∀ f, extField next.id = some f → ∃ e' ∈ post, selects e' = some f

lemma rtwGetBe24_eq_iff {o₁ o₂ o₃ : UInt8} :
    rtwGetBe24 mem pos = o₁.toNat * 65536 + o₂.toNat * 256 + o₃.toNat ↔
      mem pos = o₁ ∧ mem (pos + 1) = o₂ ∧ mem (pos + 2) = o₃ := by
  simp only [rtwGetBe24, ← UInt8.toNat_inj]
  have := (mem (pos + 1)).toNat_lt
  have := (mem (pos + 2)).toNat_lt
  have := o₂.toNat_lt
  have := o₃.toNat_lt
  omega

lemma rtwGetBe24_microsoft : rtwGetBe24 mem pos = ouiMicrosoft ↔
      mem pos = 0x00 ∧ mem (pos + 1) = 0x50 ∧ mem (pos + 2) = 0xf2 :=
  @rtwGetBe24_eq_iff mem pos 0x00 0x50 0xf2

lemma rtwGetBe24_broadcom : rtwGetBe24 mem pos = ouiBroadcom ↔
      mem pos = 0x00 ∧ mem (pos + 1) = 0x90 ∧ mem (pos + 2) = 0x4c :=
  @rtwGetBe24_eq_iff mem pos 0x00 0x90 0x4c

lemma parseVendorSpecific_own {body : List UInt8} (h : Holds mem pos body) :
    parseVendorSpecific mem pos body.length = vendorSelects body := by
  match body, h with
  | [], _ | [_], _ | [_, _], _ | [_, _, _], _ => rfl
  | o₁ :: o₂ :: o₃ :: type :: rest, h =>
    obtain ⟨h₁, h₂, h₃, h₄, hrest⟩ := h
    have hlen : ¬ (o₁ :: o₂ :: o₃ :: type :: rest).length < 4 := by simp
    rw [parseVendorSpecific, if_neg hlen]
    simp only [rtwGetBe24_microsoft, rtwGetBe24_broadcom, h₁, h₂, h₃, h₄, vendorSelects]
    by_cases hm : o₁ = 0x00 ∧ o₂ = 0x50 ∧ o₃ = 0xf2
    · rw [if_pos hm, if_pos hm]
      cases rest with
      | nil => simp only [← UInt8.toNat_inj]; split <;> simp_all
      | cons sub rest =>
        have hsub : mem (pos + 4) = sub := hrest.1
        have h5 : ¬ (o₁ :: o₂ :: o₃ :: type :: sub :: rest).length < 5 := by simp
        simp only [← UInt8.toNat_inj, hsub, if_neg h5]
        split
        case h_2 htype =>
          split <;> simp_all
        all_goals simp_all
    · have htype : type = 0x33 ↔ type.toNat = vendorHtCapabOuiType := by
        rw [← UInt8.toNat_inj]
        rfl
      split_ifs <;> simp_all

lemma parseElemId_own (h : Holds mem pos e.body) (he : ¬ IsEmptyExt e) :
    parseElemId mem e.id pos e.body.length =
      (selects e, e.id != wlanEidExtension && (selects e).isNone) := by
  have hne : wlanEidVendorSpecific ≠ wlanEidExtension := by decide
  unfold parseElemId selects
  by_cases hv : e.id = wlanEidVendorSpecific
  · simp [hv, hne, parseVendorSpecific_own h]
  by_cases hx : e.id = wlanEidExtension
  · obtain ⟨b, bs, hb⟩ := exists_cons_of_ne_nil fun hnil => he ⟨hx, hnil⟩
    rw [hb, holds_cons] at h
    simp [hx, hne.symm, hb, parseExtElems, h.1]
  · simp [hv, hx]

lemma parseElemId_emptyExt (he : IsEmptyExt e) :
    parseElemId mem e.id pos e.body.length = (extField (mem pos), false) := by
  have hne : wlanEidExtension ≠ wlanEidVendorSpecific := by decide
  simp [parseElemId, he.1, hne, parseExtElems]

lemma selects_emptyExt (he : IsEmptyExt e) : selects e = none := by
  have hne : wlanEidExtension ≠ wlanEidVendorSpecific := by decide
  simp [selects, he.1, he.2, hne]

@[local simp] def storeAll (mem : ℕ → UInt8) : ℕ → Elems → List Elem → Elems
  | _, elems, [] => elems
  | pos, elems, e :: es =>
    storeAll mem (pos + 2 + e.body.length)
      (elems.store (parseElemId mem e.id (pos + 2) e.body.length).1 (pos + 2) e.body.length) es

lemma storeAll_append (es es' : List Elem) : storeAll mem pos elems (es ++ es') =
      storeAll mem (pos + (encode es).length) (storeAll mem pos elems es) es' := by
  induction es generalizing pos elems with
  | nil => simp
  | cons e es ih =>
    simp [ih, encode_cons]
    congr 1
    omega

lemma store_of_ne {field : Option ElemField} (h : field ≠ some f) :
    elems.store field pos n f = elems f := by
  cases field with
  | none => rfl
  | some g => exact Function.update_of_ne (fun hg => h (by rw [hg])) _ _

lemma store_self : elems.store (some f) pos n f = some (pos, n) := Function.update_self _ _ _

section

variable {id n : UInt8} (h : Holds mem pos (id :: n :: rest))
include h

lemma parseElemsLoop_cons (hfuel : (id :: n :: rest).length ≤ fuel) :
    parseElemsLoop mem fuel pos (id :: n :: rest).length unknown elems =
      if n.toNat ≤ rest.length then
        parseElemsLoop mem (fuel - 1) (pos + 2 + n.toNat) (rest.drop n.toNat).length
          (unknown + (parseElemId mem id (pos + 2) n.toNat).2.toNat)
          (elems.store (parseElemId mem id (pos + 2) n.toNat).1 (pos + 2) n.toNat)
      else (.parseFailed, elems) := by
  obtain ⟨hid, hlen, -⟩ := h
  obtain ⟨k, rfl⟩ : ∃ k, fuel = k + 1 := ⟨fuel - 1, by simp at hfuel; omega⟩
  rw [parseElemsLoop, if_neg (by simp), hid, hlen, ← ite_not]
  simp

lemma holds_rest (hn : n.toNat ≤ rest.length) :
    Holds mem (pos + 2) (headElem id n rest).body ∧
      Holds mem (pos + 2 + n.toNat) (rest.drop n.toNat) := by
  have hrest : Holds mem (pos + 2) (rest.take n.toNat ++ rest.drop n.toNat) := by
    rw [take_append_drop]
    exact h.2.2
  have := holds_append.1 hrest
  rwa [length_take, Nat.min_eq_left hn] at this

end

lemma parseElemsLoop_decoded (hdec : decode bs = some es) (h : Holds mem pos bs)
    (hfuel : bs.length ≤ fuel) :
    (parseElemsLoop mem fuel pos bs.length unknown elems).1 ≠ .parseFailed ∧
      (parseElemsLoop mem fuel pos bs.length unknown elems).2 = storeAll mem pos elems es := by
  fun_induction decode bs generalizing pos fuel unknown elems es with
  | case1 =>
    obtain rfl : [] = es := by simpa using hdec
    cases fuel <;> simp [parseElemsLoop, parseElemsEnd] <;> split_ifs <;> simp_all
  | case2 => simp at hdec
  | case3 id n rest hn ih =>
    obtain ⟨es', hes', rfl⟩ := map_eq_some_iff.1 hdec
    rw [parseElemsLoop_cons h hfuel, if_pos hn, storeAll, headElem_length hn]
    refine ih hes' (holds_rest h hn).2 ?_
    simp at hfuel ⊢
    omega
  | case4 => simp at hdec

lemma parseElemsLoop_undecoded (hdec : decode bs = none) (h : Holds mem pos bs)
    (hfuel : bs.length ≤ fuel) :
    (parseElemsLoop mem fuel pos bs.length unknown elems).1 = .parseFailed := by
  fun_induction decode bs generalizing pos fuel unknown elems with
  | case1 => simp at hdec
  | case2 b => cases fuel <;> simp [parseElemsLoop, parseElemsEnd]
  | case3 id n rest hn ih =>
    rw [parseElemsLoop_cons h hfuel, if_pos hn]
    refine ih (map_eq_none_iff.1 hdec) (holds_rest h hn).2 ?_
    simp at hfuel ⊢
    omega
  | case4 id n rest hn => rw [parseElemsLoop_cons h hfuel, if_neg hn]

lemma parseElemId_congr (h : Holds mem pos e.body) (h' : Holds mem' pos e.body)
    (hread : IsEmptyExt e → mem pos = mem' pos) :
    parseElemId mem e.id pos e.body.length = parseElemId mem' e.id pos e.body.length := by
  by_cases he : IsEmptyExt e
  · rw [parseElemId_emptyExt he, parseElemId_emptyExt he, hread he]
  · rw [parseElemId_own h he, parseElemId_own h' he]

lemma parseElemsLoop_congr (hlast : ∀ es e, decode bs = some (es ++ [e]) → ¬ IsEmptyExt e)
    (h : Holds mem pos bs) (h' : Holds mem' pos bs) (hfuel : bs.length ≤ fuel) :
    parseElemsLoop mem fuel pos bs.length unknown elems =
      parseElemsLoop mem' fuel pos bs.length unknown elems := by
  fun_induction decode bs generalizing pos fuel unknown elems with
  | case1 | case2 => cases fuel <;> simp [parseElemsLoop]
  | case3 id n rest hn ih =>
    have hread : IsEmptyExt (headElem id n rest) → mem (pos + 2) = mem' (pos + 2) := by
      intro he
      cases rest with
      | nil => exact absurd he (hlast [] _ (by simp [decode]))
      | cons b rest => exact h.2.2.1.trans h'.2.2.1.symm
    have hid := parseElemId_congr (holds_rest h hn).1 (holds_rest h' hn).1 hread
    rw [headElem_length hn] at hid
    rw [parseElemsLoop_cons h hfuel, parseElemsLoop_cons h' hfuel, if_pos hn, if_pos hn,
      show parseElemId mem id (pos + 2) n.toNat = parseElemId mem' id (pos + 2) n.toNat from hid]
    refine ih (fun es e hes => hlast (headElem id n rest :: es) e (by simp [hes]))
      (holds_rest h hn).2 (holds_rest h' hn).2 ?_
    simp at hfuel ⊢
    omega
  | case4 id n rest hn => 
    rw [parseElemsLoop_cons h hfuel, parseElemsLoop_cons h' hfuel, if_neg hn, if_neg hn]

lemma EmptyExtHarmless.tail (h : EmptyExtHarmless (e :: es)) : EmptyExtHarmless es :=
  fun pre e' post hes => h (e :: pre) e' post (by rw [hes, cons_append])

lemma storeAll_harmless {v : Option (ℕ × ℕ)} (hes : EmptyExtHarmless es)
    (h : Holds mem pos (encode es)) (hv : elems f = v ∨ ∃ e ∈ es, selects e = some f) :
    storeAll mem pos elems es f = (lastSelecting f pos es).or v := by
  induction es generalizing pos elems v with
  | nil => simpa [lastSelecting] using hv
  | cons e es ih =>
    obtain ⟨-, -, hbody⟩ := h
    obtain ⟨hown, hrest⟩ := holds_append.1 hbody
    rw [storeAll, lastSelecting, Option.or_assoc]
    by_cases he : IsEmptyExt e
    · obtain ⟨next, rest, rfl, hnext⟩ := hes [] e es rfl he
      have hread : mem (pos + 2) = next.id := by
        have := hrest.1
        simpa [he.2] using this
      rw [parseElemId_emptyExt he, hread, selects_emptyExt he, if_neg (by simp), Option.none_or]
      refine ih hes.tail hrest ?_
      by_cases hf : extField next.id = some f
      · exact .inr (hnext f hf)
      rw [store_of_ne hf]
      exact hv.imp_right fun ⟨e', he', hsel⟩ => ⟨e', by
        rcases mem_cons.1 he' with rfl | he'
        · simp [selects_emptyExt he] at hsel
        · exact he', hsel⟩
    · rw [parseElemId_own hown he]
      split_ifs with hf
      · rw [Option.some_or]
        exact ih hes.tail hrest (.inl (by rw [hf, store_self]))
      refine ih hes.tail hrest ?_
      rw [store_of_ne hf]
      exact hv.imp_right fun ⟨e', he', hsel⟩ => ⟨e', by
        rcases mem_cons.1 he' with rfl | he'
        · exact absurd hsel hf
        · exact he', hsel⟩

section

variable (h : extField x = some f)
include h

lemma extField_eq_some : f = .heCapabilities ∨ f = .heOperation := by
  unfold extField at h
  split at h <;> simp_all

lemma eidField_ne_extField {id : UInt8} : eidField id ≠ some f := by
  intro hid
  unfold eidField at hid
  rcases extField_eq_some h with rfl | rfl <;> split at hid <;> simp at hid

lemma body_ne_nil (hsel : selects e = some f) : e.body ≠ [] := by
  intro hnil
  simp only [selects, hnil, vendorSelects, head?_nil, bind_none] at hsel
  split_ifs at hsel
  exact eidField_ne_extField h hsel

lemma lastSelecting_pos {p : ℕ} (hlast : lastSelecting f pos es = some (p, n)) : 0 < n := by
  induction es generalizing pos with
  | nil => cases hlast
  | cons e es ih =>
    rcases or_eq_some_iff.1 hlast with hlast | ⟨-, hlast⟩
    · exact ih hlast
    · split_ifs at hlast with hsel
      obtain ⟨-, rfl⟩ : pos + 2 = p ∧ e.body.length = n := by simpa using hlast
      exact length_pos_of_ne_nil (body_ne_nil h hsel)

end

lemma storeAll_zero (h : Holds mem pos (encode es)) (hnone : ∀ e ∈ es, selects e ≠ some f)
    (hzero : ∃ p, elems f = some (p, 0)) : ∃ p, storeAll mem pos elems es f = some (p, 0) := by
  induction es generalizing pos elems with
  | nil => exact hzero
  | cons e es ih =>
    obtain ⟨-, -, hbody⟩ := h
    obtain ⟨hown, hrest⟩ := holds_append.1 hbody
    refine ih hrest (fun e' he' => hnone e' (by simp [he'])) ?_
    by_cases he : IsEmptyExt e
    · rw [parseElemId_emptyExt he]
      by_cases hf : extField (mem (pos + 2)) = some f
      · rw [hf, store_self, he.2]
        exact ⟨pos + 2, rfl⟩
      · rwa [store_of_ne hf]
    · rwa [parseElemId_own hown he, store_of_ne (hnone e (by simp))]

def memWith (bs : List UInt8) (i : ℕ) : UInt8 := bs[i]?.getD 35

lemma holds_memWith (bs : List UInt8) : Holds (memWith bs) 0 bs :=
  holds_of_getElem fun i hi => by simp [memWith, hi]

/-- Where the condition fails, a field ends up with a length of 0, which no element that selects it
can have. -/
lemma exists_zero_of_not_harmless (h : ¬ EmptyExtHarmless es) : ∃ x f p, extField x = some f ∧
      storeAll (memWith (encode es)) 0 (fun _ => none) es f = some (p, 0) := by
  simp only [EmptyExtHarmless, not_forall] at h
  obtain ⟨pre, e, post, rfl, he, hpost⟩ := h
  have hmem := holds_memWith (encode (pre ++ e :: post))
  have hafter : memWith (encode (pre ++ e :: post)) ((encode pre).length + 2) =
      (encode post).head?.getD 35 := by
    rw [memWith, encode_append, getElem?_append_right (Nat.le_add_right _ _)]
    simp [he.2, head?_eq_getElem?]
  generalize memWith (encode (pre ++ e :: post)) = mem at hmem hafter ⊢
  simp only [encode_append, encode_cons, holds_append, holds_cons, he.2, length_nil,
    Nat.zero_add] at hmem
  obtain ⟨-, -, -, -, hmem⟩ := hmem
  rw [storeAll_append, storeAll, parseElemId_emptyExt he, Nat.zero_add, hafter, he.2]
  cases post with
  | nil => exact ⟨35, .heCapabilities, (encode pre).length + 2, rfl, store_self⟩
  | cons next rest =>
    obtain ⟨f, hf, hnone⟩ :
        ∃ f, extField next.id = some f ∧ ∀ e' ∈ next :: rest, selects e' ≠ some f := by
      by_contra hno
      push Not at hno
      exact hpost ⟨next, rest, rfl, hno⟩
    rw [encode_cons, head?_cons, getD_some, hf]
    obtain ⟨p, hp⟩ := storeAll_zero hmem hnone ⟨_, store_self⟩
    exact ⟨next.id, f, p, hf, hp⟩

lemma parse_decoded (hdec : decode bs = some es) (h : Holds mem 0 bs) :
    (rtwIeee80211ParseElems mem bs.length).1 ≠ .parseFailed ∧
      (rtwIeee80211ParseElems mem bs.length).2 = storeAll mem 0 (fun _ => none) es :=
  parseElemsLoop_decoded hdec h (Nat.le_refl _)

/-- The parser is exact on a buffer if and only if its extension elements without a body do no
harm. -/
theorem parse_elems_exact_iff (bs : List UInt8) :
    ParseExact bs ↔ ∀ es, bs = encode es → EmptyExtHarmless es := by
  constructor
  · rintro hex es rfl
    by_contra hharm
    obtain ⟨x, f, p, hf, hzero⟩ := exists_zero_of_not_harmless hharm
    have hmem := holds_memWith (encode es)
    have hfield := hex.fields _ hmem es rfl f
    rw [(parse_decoded (decode_encode es) hmem).2, hzero] at hfield
    exact absurd (lastSelecting_pos hf hfield.symm) (Nat.lt_irrefl 0)
  · intro hharm
    refine ⟨fun mem hmem => ?_, fun mem hmem es hes f => ?_, fun mem mem' hmem hmem' => ?_⟩
    · rw [← decode_eq_none_iff]
      cases hdec : decode bs with
      | none => simp [rtwIeee80211ParseElems, parseElemsLoop_undecoded hdec hmem]
      | some es => simp [(parse_decoded hdec hmem).1]
    · rw [(parse_decoded (decode_eq_some_iff.2 hes) hmem).2,
        storeAll_harmless (hharm es hes) (hes ▸ hmem) (.inl rfl), or_none]
    · refine parseElemsLoop_congr (fun es e hes he => ?_) hmem hmem' (Nat.le_refl _)
      obtain ⟨next, rest, hnil, -⟩ := hharm _ (decode_eq_some_iff.1 hes) es e [] rfl he
      cases hnil

/-- An extension element without a body before an element with id 35: the HE capabilities. -/
theorem parse_elems_empty_ext : ¬ ParseExact [255, 0, 35, 0] := by
  intro hex
  have hfield := hex.fields _ (holds_memWith _) [⟨255, [], by decide⟩, ⟨35, [], by decide⟩] rfl
    .heCapabilities
  exact absurd hfield (by decide)

end Rtl8852be

import Rtl8852be.Lib.Loop

/-!
# Searching for an attribute

The size of an attribute is kept in 16 bits. An address is an offset in the buffer, and the result
is the offset and the reported length, or none for `NULL`; a search that runs out of fuel has no
result.
-/

namespace Rtl8852be

variable (buf : ℕ → UInt8)

def rtwGetLe16 (a : ℕ) : ℕ := 256 * (buf (a + 1)).toNat + (buf a).toNat

def rtwGetBe16 (a : ℕ) : ℕ := 256 * (buf a).toNat + (buf (a + 1)).toNat

lemma rtwGetLe16_lt (a : ℕ) : rtwGetLe16 buf a < 65536 := by
  have h0 := (buf a).toNat_lt
  have h1 := (buf (a + 1)).toNat_lt
  unfold rtwGetLe16
  omega

lemma rtwGetBe16_lt (a : ℕ) : rtwGetBe16 buf a < 65536 := by
  have h0 := (buf a).toNat_lt
  have h1 := (buf (a + 1)).toNat_lt
  unfold rtwGetBe16
  omega

/-- The test of the first bytes: `WLAN_EID_VENDOR_SPECIFIC` and, behind the length, an OUI with its
type. -/
def isVendorIe (o0 o1 o2 o3 : UInt8) (ie : ℕ → UInt8) : Bool :=
  ie 0 == 221 && ie 2 == o0 && ie 3 == o1 && ie 4 == o2 && ie 5 == o3

def attrContent (hdr : ℕ) : Option (ℕ × ℕ) → Option (ℕ × ℕ)
  | none => none
  | some (attrPtr, attrLen) =>
    if attrLen = 0 then none else some (attrPtr + hdr, (attrLen + 4294967296 - hdr) % 4294967296)

/-- What the searches for P2P and WFD attributes differ in. -/
structure WfaAttrs where
  ouiType : UInt8
  dataLen : (ℕ → UInt8) → ℕ → ℕ
  dataLen_lt : ∀ buf a, dataLen buf a < 65536

def wfaAttrStep (k : WfaAttrs) (ie : ℕ → UInt8) (ielen : ℕ) (targetAttrId : UInt8)
    (attrPtr : ℕ) : ℕ ⊕ Option (ℕ × ℕ) :=
  if attrPtr + 3 ≤ ielen then
    let attrLen := (k.dataLen ie (attrPtr + 1) + 3) % 65536
    if ielen < attrPtr + attrLen then .inr none
    else if ie attrPtr = targetAttrId then .inr (some (attrPtr, attrLen))
    else .inl (attrPtr + attrLen)
  else .inr none

def wfaAttr (k : WfaAttrs) (fuel : ℕ) (ie : Option (ℕ → UInt8)) (ielen : ℕ)
    (targetAttrId : UInt8) : Option (Option (ℕ × ℕ)) :=
  match ie with
  | none => some none
  | some ie =>
    if ielen ≤ 6 ∨ isVendorIe 0x50 0x6F 0x9A k.ouiType ie = false then some none
    else Loop.iter (wfaAttrStep k ie ielen targetAttrId) fuel 6

def p2pAttrs : WfaAttrs := ⟨0x09, rtwGetLe16, rtwGetLe16_lt⟩

def wfdAttrs : WfaAttrs := ⟨0x0A, rtwGetBe16, rtwGetBe16_lt⟩

def rtwGetP2pAttr := wfaAttr p2pAttrs

def rtwGetWfdAttr := wfaAttr wfdAttrs

def rtwGetP2pAttrContent (fuel : ℕ) (ie : Option (ℕ → UInt8)) (ielen : ℕ) (targetAttrId : UInt8) :
    Option (Option (ℕ × ℕ)) :=
  (rtwGetP2pAttr fuel ie ielen targetAttrId).map (attrContent 3)

def rtwGetWfdAttrContent (fuel : ℕ) (ie : Option (ℕ → UInt8)) (ielen : ℕ) (targetAttrId : UInt8) :
    Option (Option (ℕ × ℕ)) :=
  (rtwGetWfdAttr fuel ie ielen targetAttrId).map (attrContent 3)

def wpsAttrStep (ie : ℕ → UInt8) (ielen targetAttrId attrPtr : ℕ) : ℕ ⊕ Option (ℕ × ℕ) :=
  if attrPtr < ielen then
    let attrLen := (rtwGetBe16 ie (attrPtr + 2) + 4) % 65536
    if rtwGetBe16 ie attrPtr = targetAttrId then .inr (some (attrPtr, attrLen))
    else .inl (attrPtr + attrLen)
  else .inr none

def rtwGetWpsAttr (fuel : ℕ) (ie : ℕ → UInt8) (ielen targetAttrId : ℕ) :
    Option (Option (ℕ × ℕ)) :=
  if isVendorIe 0x00 0x50 0xF2 0x04 ie then Loop.iter (wpsAttrStep ie ielen targetAttrId) fuel 6
  else some none

def rtwGetWpsAttrContent (fuel : ℕ) (ie : ℕ → UInt8) (ielen targetAttrId : ℕ) :
    Option (Option (ℕ × ℕ)) :=
  (rtwGetWpsAttr fuel ie ielen targetAttrId).map (attrContent 4)

/-!
## The RSN element

Behind the version there are six fields, all of them optional, and the element may end behind each.
-/

inductive RsneField where
  | gcs
  | pcs
  | akm
  | cap
  | pmkid
  | gmcs
  deriving DecidableEq

def rsneFields : List RsneField := [.gcs, .pcs, .akm, .cap, .pmkid, .gmcs]

/-- Of one selector, of the capabilities or of one PMKID. -/
def RsneField.size : RsneField → ℕ
  | cap => 2
  | pmkid => 16
  | _ => 4

def RsneField.counted : RsneField → Bool
  | pcs | akm | pmkid => true
  | _ => false

/-- A field at `pos`: none for an error, and otherwise its place and count if the element does not
end. A field without a count is there once. -/
def rsneField (ie : ℕ → UInt8) (ieLen : ℕ) (f : RsneField) (pos : ℕ) : Option (Option (ℕ × ℕ)) :=
  if f.counted then
    if ieLen < pos + 2 then if ieLen ≠ pos then none else some none
    else
      let cnt := rtwGetLe16 ie pos
      let pos := pos + 2
      if cnt = 0 ∧ f ≠ .pmkid then none
      else if ieLen < pos + f.size * cnt then
        if ieLen ≠ pos ∨ f = .pmkid ∧ cnt ≠ 0 then none else some none
      else some (some (pos, cnt))
  else if ieLen < pos + f.size then if ieLen ≠ pos then none else some none
  else some (some (pos, 1))

def rsneParse (ie : ℕ → UInt8) (ieLen : ℕ) : List RsneField → ℕ → Option (List (ℕ × ℕ))
  | [], _ => some []
  | f :: fs, pos =>
    match rsneField ie ieLen f pos with
    | none => none
    | some none => some []
    | some (some (pos, cnt)) =>
      (rsneParse ie ieLen fs (pos + f.size * cnt)).map fun info => (pos, cnt) :: info

/-- With the place and the count of each field that is there; those behind are `NULL` or zero. -/
def rtwRsneInfoParse (ie : ℕ → UInt8) (ieLen : ℕ) : Option (List (ℕ × ℕ)) :=
  if ieLen < 4 ∨ ie 0 ≠ 48 ∨ (ie 1).toNat ≠ ieLen - 2 ∨ ie 2 ≠ 1 then none
  else rsneParse ie ieLen rsneFields 4

end Rtl8852be

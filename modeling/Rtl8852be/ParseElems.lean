import Mathlib.Tactic.Common

/-!
# Parsing the elements of a management frame

The parser remembers where the body of each element it knows stands. A vendor element is told apart
by the first bytes of its body, an extension element by the first one. Pointers are distances from
the buffer's start.
-/

namespace Rtl8852be

inductive ElemField where
  | ssid | suppRates | fhParams | dsParams | cfParams | tim | ibssParams | challenge | erpInfo
  | extSuppRates | wpaIe | rsnIe | wme | wmeTspec | wpsIe | powerCap | suppChannels | mdie | ftie
  | timeoutInt | htCapabilities | htOperation | vendorHtCap | vhtCapabilities | vhtOperation
  | vhtOpModeNotify | heCapabilities | heOperation | rmEnCap
  deriving DecidableEq

/-- `struct rtw_ieee802_11_elems`: a pointer and a length for each field, or a null pointer. -/
abbrev Elems := ElemField → Option (ℕ × ℕ)

def Elems.store (elems : Elems) (field : Option ElemField) (pos elen : ℕ) : Elems :=
  match field with
  | none => elems
  | some f => Function.update elems f (some (pos, elen))

inductive ParseRes where
  | parseOK
  | parseUnknown
  | parseFailed
  deriving DecidableEq

variable (mem : ℕ → UInt8)

def rtwGetBe24 (pos : ℕ) : ℕ :=
  (mem pos).toNat * 65536 + (mem (pos + 1)).toNat * 256 + (mem (pos + 2)).toNat

def ouiMicrosoft : ℕ := 0x0050f2

def ouiBroadcom : ℕ := 0x00904c

def vendorHtCapabOuiType : ℕ := 0x33

/-- `rtw_ieee802_11_parse_vendor_specific`: the field it stores the element in, and none where it
returns -1. -/
def parseVendorSpecific (pos elen : ℕ) : Option ElemField :=
  if elen < 4 then none
  else if rtwGetBe24 mem pos = ouiMicrosoft then
    match (mem (pos + 3)).toNat with
    | 1 => some .wpaIe
    | 2 =>
      if elen < 5 then none
      else
        match (mem (pos + 4)).toNat with
        | 0 | 1 => some .wme
        | 2 => some .wmeTspec
        | _ => none
    | 4 => some .wpsIe
    | _ => none
  else if rtwGetBe24 mem pos = ouiBroadcom then
    if (mem (pos + 3)).toNat = vendorHtCapabOuiType then some .vendorHtCap else none
  else none

def extField (id : UInt8) : Option ElemField :=
  match id.toNat with
  | 35 => some .heCapabilities
  | 36 => some .heOperation
  | _ => none

def parseExtElems (pos : ℕ) : Option ElemField := extField (mem pos)

def eidField (id : UInt8) : Option ElemField :=
  match id.toNat with
  | 0 => some .ssid
  | 1 => some .suppRates
  | 2 => some .fhParams
  | 3 => some .dsParams
  | 4 => some .cfParams
  | 5 => some .tim
  | 6 => some .ibssParams
  | 16 => some .challenge
  | 42 => some .erpInfo
  | 50 => some .extSuppRates
  | 48 => some .rsnIe
  | 33 => some .powerCap
  | 36 => some .suppChannels
  | 54 => some .mdie
  | 55 => some .ftie
  | 56 => some .timeoutInt
  | 45 => some .htCapabilities
  | 61 => some .htOperation
  | 191 => some .vhtCapabilities
  | 192 => some .vhtOperation
  | 199 => some .vhtOpModeNotify
  | 70 => some .rmEnCap
  | _ => none

def wlanEidVendorSpecific : UInt8 := 221

def wlanEidExtension : UInt8 := 255

def parseElemId (id : UInt8) (pos elen : ℕ) : Option ElemField × Bool :=
  if id = wlanEidVendorSpecific then
    (parseVendorSpecific mem pos elen, (parseVendorSpecific mem pos elen).isNone)
  else if id = wlanEidExtension then (parseExtElems mem pos, false)
  else (eidField id, (eidField id).isNone)

def parseElemsEnd (left unknown : ℕ) (elems : Elems) : ParseRes × Elems :=
  if left ≠ 0 then (.parseFailed, elems)
  else if unknown ≠ 0 then (.parseUnknown, elems)
  else (.parseOK, elems)

/-- Each pass takes two bytes or more from `left`, so `left` passes are enough. -/
def parseElemsLoop : ℕ → ℕ → ℕ → ℕ → Elems → ParseRes × Elems
  | 0, _, left, unknown, elems => parseElemsEnd left unknown elems
  | fuel + 1, pos, left, unknown, elems =>
    if left < 2 then parseElemsEnd left unknown elems
    else if left - 2 < (mem (pos + 1)).toNat then (.parseFailed, elems)
    else
      let elen := (mem (pos + 1)).toNat
      let res := parseElemId mem (mem pos) (pos + 2) elen
      parseElemsLoop fuel (pos + 2 + elen) (left - 2 - elen) (unknown + res.2.toNat)
        (elems.store res.1 (pos + 2) elen)

def rtwIeee80211ParseElems (len : ℕ) : ParseRes × Elems :=
  parseElemsLoop mem len 0 len 0 fun _ => none

end Rtl8852be

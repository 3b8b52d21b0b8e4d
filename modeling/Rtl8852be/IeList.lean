import Rtl8852be.Lib.Bytes
import Rtl8852be.Lib.PatchLog

/-!
# Elements in a buffer

Elements are searched for by their id and the first bytes of their body, removed, replaced and
merged. An address is an offset in the buffer, and the bytes behind its elements can be read too.
-/

namespace Rtl8852be

open Bytes PatchLog Tlv

variable (mem : ℕ → UInt8)

def rtwMemmove (dst src n : ℕ) : ℕ → UInt8 := store mem dst (load mem src n)

/-- What `rtw_get_ie_ex` looks for, and `rtw_get_ie` with no `oui`. The bytes that are compared need
not be in the element. -/
def ieTest (eid : UInt8) (oui : List UInt8) (pos : ℕ) : Prop :=
  mem pos = eid ∧ Holds mem (pos + 2) oui
  deriving Decidable

def ieStep (eid : UInt8) (oui : List UInt8) (_ : Unit) (pos : ℕ) : ℕ ⊕ Unit :=
  if ieTest mem eid oui pos then .inl pos else .inr ()

/-- A pass takes two bytes or more, so there are enough of them. -/
def rtwGetIeEx (inIe inLen : ℕ) (eid : UInt8) (oui : List UInt8) : Option ℕ :=
  (walk mem (inIe + inLen) (ieStep mem eid oui) inLen inIe ()).getLeft?

def rtwGetIe (pbuf : ℕ) (index : UInt8) (limit : ℕ) : Option ℕ := rtwGetIeEx mem pbuf limit index []

/-- With whether something was removed, and where the elements end. -/
def removeIeLoop (eid : UInt8) (oui : List UInt8) :
    ℕ → (ℕ → UInt8) → ℕ → ℕ → Bool × (ℕ → UInt8) × ℕ
  | 0, mem, _, stop => (false, mem, stop)
  | left + 1, mem, start, stop =>
    match rtwGetIeEx mem start (stop - start) eid oui with
    | none => (false, mem, stop)
    | some target =>
      let targetIelen := (mem (target + 1)).toNat + 2
      let remainIes := target + targetIelen
      (true, (removeIeLoop eid oui left (rtwMemmove mem target remainIes (stop - remainIes)) target
        (stop - targetIelen)).2)

def rtwIesRemoveIe (iesLen offset : ℕ) (eid : UInt8) (oui : List UInt8) : Bool × (ℕ → UInt8) × ℕ :=
  if iesLen ≤ offset then (false, mem, iesLen)
  else removeIeLoop eid oui iesLen mem offset iesLen

/-- `alloc` is whether there is memory for the elements behind. -/
def rtwIesUpdateIe (alloc : Bool) (mem : ℕ → UInt8) (iesLen iesOffset : ℕ) (eid : UInt8)
    (content : List UInt8) : (ℕ → UInt8) × ℕ :=
  if iesLen ≤ iesOffset then (mem, iesLen)
  else
    match rtwGetIe mem iesOffset eid (iesLen - iesOffset) with
    | none => (mem, iesLen)
    | some target =>
      let targetIelen := (mem (target + 1)).toNat
      let mem' := blit mem (target + 1) (UInt8.ofNat content.length :: content)
      let remainIes := target + (targetIelen + 2)
      if targetIelen = 0 then (mem, iesLen)
      else if targetIelen = content.length then (mem', iesLen)
      else if !alloc then (mem, iesLen)
      else (store mem' (target + (content.length + 2)) (load mem remainIes (iesLen - remainIes)),
        iesLen + content.length - targetIelen)

def rtwSetIe (pbuf : ℕ) (index : UInt8) (source : List UInt8) : ℕ → UInt8 :=
  blit mem pbuf (index :: UInt8.ofNat source.length :: source)

def wlanEidExtCap : UInt8 := 127

def rtwUpdateExtCapIe (alloc : Bool) (extCapData : List UInt8) (mem : ℕ → UInt8)
    (iesLen iesOffset : ℕ) : (ℕ → UInt8) × ℕ :=
  if extCapData ≠ [] then
    match rtwGetIe mem iesOffset wlanEidExtCap (iesLen - iesOffset) with
    | none => (rtwSetIe mem iesLen wlanEidExtCap extCapData, iesLen + (extCapData.length + 2))
    | some _ => rtwIesUpdateIe alloc mem iesLen iesOffset wlanEidExtCap extCapData
  else (rtwIesRemoveIe mem iesLen iesOffset wlanEidExtCap []).2

def rtwParseExtCapIe (extCapData : List UInt8) (mem : ℕ → UInt8) (iesLen iesOffset : ℕ) :
    List UInt8 :=
  match rtwGetIe mem iesOffset wlanEidExtCap (iesLen - iesOffset) with
  | none => extCapData
  | some extcapIe =>
    let n := (mem (extcapIe + 1)).toNat
    if extCapData = [] then List.ofFn (load mem (extcapIe + 2) n)
    else extCapData.mapIdx fun i b => if i < n then b ||| mem (extcapIe + 2 + i) else b

inductive RateSection where
  | cck
  | ofdm

def RateSection.rates : RateSection → List UInt8
  | .cck => [0x82, 0x84, 0x8B, 0x96]
  | .ofdm => [0x0C, 0x12, 0x18, 0x24, 0x30, 0x48, 0x60, 0x6C]

def rtwBasicRateOfdm : List UInt8 := [0x8C, 0x98, 0xB0]

/-- `rtw_is_cck_rate`, `rtw_is_ofdm_rate` and `rtw_is_basic_rate_ofdm`, by their tables. -/
def rateAmong (rates : List UInt8) (rate : UInt8) : Bool :=
  rates.any fun r => r &&& 0x7F == rate &&& 0x7F

/-- An array with room for 16 rates. -/
def newRate (keep : RateSection) (rates : List UInt8) : List UInt8 :=
  (rates.filter (rateAmong keep.rates)).map fun r =>
    if rateAmong rtwBasicRateOfdm r then r ||| 0x80 else r

def rtwFilterSuppportRateie (keep : RateSection) (ies : ℕ → UInt8) (ieLength : ℕ) :
    (ℕ → UInt8) × ℕ :=
  match rtwGetIe ies 12 1 (ieLength - 12) with
  | none => (ies, ieLength)
  | some p =>
    let ieOrilen := (ies (p + 1)).toNat
    let rates := newRate keep (List.ofFn (load ies (p + 2) ieOrilen))
    let remainIes := p + (ieOrilen + 2)
    (rtwMemmove (blit ies (p + 1) (UInt8.ofNat rates.length :: rates)) (p + (rates.length + 2))
      remainIes (ieLength - remainIes), ieLength - (ieOrilen - rates.length))

/-- `rtw_update_rate_bymode` on `IEs` and `IELength`. -/
def rtwUpdateRateBymode (mode dsConfig : ℕ) (ies : ℕ → UInt8) (ieLength : ℕ) : (ℕ → UInt8) × ℕ :=
  if mode = 1 then
    let bss := rtwFilterSuppportRateie .cck ies ieLength
    match rtwGetIe bss.1 12 50 (bss.2 - 12) with
    | none => bss
    | some p => ((rtwIesRemoveIe bss.1 ieLength 12 50 []).2.1, bss.2 - (bss.1 (p + 1)).toNat)
  else if 14 < dsConfig ∨ mode % 2 = 0 then rtwFilterSuppportRateie .ofdm ies ieLength
  else (ies, ieLength)

def p2pOui : List UInt8 := [0x50, 0x6f, 0x9a, 0x09]

def p2pLenStep (len : ℤ) (i : ℕ) : Empty ⊕ ℤ :=
  .inr (if ieTest mem 221 p2pOui i then len + ((mem (i + 1)).toNat - 4) else len)

def rtwGetP2pMergedIesLen (inLen : ℕ) : ℕ :=
  Sum.elim Empty.elim (fun len => ((len + 4) % 2 ^ 32).toNat)
    (walk mem inLen (p2pLenStep mem) inLen 0 0)

/-- The length, a byte, and what is written behind the header. A negative length is not copied. -/
def p2pMergeStep (out : UInt8 × List UInt8) (i : ℕ) : Unit ⊕ UInt8 × List UInt8 :=
  let n := (mem (i + 1)).toNat
  if ieTest mem 221 p2pOui i then
    if n < 4 then .inl ()
    else .inr (out.1 + UInt8.ofNat (n - 4), out.2 ++ List.ofFn (load mem (i + 6) (n - 4)))
  else .inr out

/-- `rtw_p2p_merge_ies` with a buffer to write to. -/
def rtwP2pMergeIes (inLen : ℕ) : Option (ℕ × List UInt8) :=
  (walk mem inLen (p2pMergeStep mem) inLen 0 (0, [])).getRight?.map fun out =>
    (out.1.toNat + 4, 221 :: 0 :: p2pOui ++ out.2)

/-- The last octet from `i` down that is not zero, except octet 0. -/
def timLast (timBmp : List UInt8) : ℕ → ℕ
  | 0 => 0
  | i + 1 => if timBmp.getD (i + 1) 0 ≠ 0 then i + 1 else timLast timBmp i

/-- `rtw_set_tim_ie`: the size it returns, and the octets it writes. -/
def rtwSetTimIe (dtimCnt dtimPeriod : UInt8) (timBmp : List UInt8) : UInt8 × List UInt8 :=
  let n1 := if timBmp.any (· != 0) then timBmp.findIdx (· != 0) / 2 * 2 else 0
  let n2 := if timBmp.any (· != 0) then timLast timBmp (timBmp.length - 1) else 0
  let bmpLen := n2 - n1 + 1
  let bit0 := if (timBmp.getD 0 0).toNat.testBit 0 then 1 else 0
  (.ofNat (2 + 2 + 1 + bmpLen), 5 :: .ofNat (2 + 1 + bmpLen) :: dtimCnt :: dtimPeriod ::
    .ofNat (bit0 ||| n1) :: (timBmp.drop n1).take bmpLen)

end Rtl8852be

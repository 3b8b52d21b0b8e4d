import Mathlib.Data.Int.Notation
import Mathlib.Tactic.Common

/-!
# The protection state of an access point

`rtw_ap.c`: counters of the stations that lack a capability, and the operation mode of the HT
information element that is computed from them.
-/

namespace Rtl8852be

open Function

def wlanStaShortPreamble : BitVec 32 := 0x80
def wlanStaHt : BitVec 32 := 0x800
def wlanStaNonerp : BitVec 32 := 0x80000000

def wlanCapabilityShortSlot : BitVec 16 := 0x400

def ieee80211HtCapSupWidth : BitVec 16 := 0x0002
def ieee80211HtCapGrnFld : BitVec 16 := 0x0010
def ieee80211HtCap40mhzIntolerant : BitVec 16 := 0x4000

inductive StaProp where
  | noShortPreamble
  | nonErp
  | noShortSlotTime
  | noHt
  | htNoGf
  | ht20mhz
  | ht40mhzIntolerant
  deriving DecidableEq

/-- What a station has told when it associated: `flags`, `capability`, and the `cap_info` of its HT
capabilities. -/
structure StaCap where
  flags : BitVec 32
  capability : BitVec 16
  htCapab : BitVec 16

/-- `struct sta_info`; `set` are its flags `no_short_preamble_set` to `ht_40mhz_intolerant`. -/
structure ApSta where
  aid : ℕ
  cap : StaCap
  set : StaProp → Bool

/-- The elements that `rtw_update_beacon` is called for; `all` is the call with 0xFF. -/
inductive BeaconIe where
  | tim
  | erpInfo
  | htCapability
  | htAddInfo
  | all
  deriving DecidableEq

def wlanMd11b : ℕ := 1
def wlanMd11n : BitVec 8 := 0x08

structure ApCfg where
  curWirelessMode : ℕ
  htEnable : Bool
  wirelessMode : BitVec 8
  htOption : Bool
  htCapInfo : BitVec 16

def ApCfg.isSupportedHt (cfg : ApCfg) : Bool := cfg.wirelessMode &&& wlanMd11n != 0

/-- `struct mlme_priv` and the stations, named by `ι`. `beaconUpdated` is the local variable. -/
structure ApBss (ι : Type*) where
  num : StaProp → ℤ
  htOpMode : BitVec 16
  olbcHt : Bool
  sta : ι → ApSta
  timBitmap : ℕ → Bool
  updates : List BeaconIe
  beaconUpdated : Bool

namespace ApBss

variable {ι : Type*} [DecidableEq ι] (s : ApBss ι)

def updateBeacon (ie : BeaconIe) : ApBss ι := { s with updates := s.updates ++ [ie] }

def noteBeacon (updated : Bool) : ApBss ι := { s with beaconUpdated := s.beaconUpdated || updated }

variable (p : ι) (k : StaProp)

@[simp] def write (set : Bool) (n : ℤ) : ApBss ι :=
  { s with
    num := update s.num k n
    sta := update s.sta p
      { s.sta p with set := update (s.sta p).set k set } }

def mark : ApBss ι :=
  if (s.sta p).set k then s else s.write p k true (s.num k + 1)

def unmark : ApBss ι :=
  if (s.sta p).set k then s.write p k false (s.num k - 1) else s

def follow (has : Bool) : ApBss ι :=
  if has then s.mark p k else s.unmark p k

def raise (has : Bool) : ApBss ι := if has then s.mark p k else s

def turned (s s' : ApBss ι) (k : StaProp) : Bool :=
  (s'.num k == s.num k + 1 && s'.num k == 1) || (s'.num k == s.num k - 1 && s'.num k == 0)

def followShort (cfg : ApCfg) (p : ι) (k : StaProp) (has : Bool) : ApBss ι :=
  (s.follow p k has).noteBeacon (decide (wlanMd11b < cfg.curWirelessMode) &&
    turned s (s.follow p k has) k)

def followErp (has : Bool) : ApBss ι :=
  if turned s (s.follow p .nonErp has) .nonErp then
    ((s.follow p .nonErp has).noteBeacon true).updateBeacon .erpInfo
  else s.follow p .nonErp has

end ApBss

def htInfoNonGfDevsPresent : BitVec 16 := 0x04
def htInfoNonHtStaPresent : BitVec 16 := 0x10
def htInfoOpModeMask : BitVec 16 := 0x03

def opModePure : BitVec 16 := 0
def opModeMayBeLegacyStas : BitVec 16 := 1
def opMode20mhzHtStaAssoced : BitVec 16 := 2
def opModeMixed : BitVec 16 := 3

def presenceBit (mask : BitVec 16) (present : Bool) (x : ℕ × BitVec 16) : ℕ × BitVec 16 :=
  if x.2 &&& mask = 0 ∧ present = true then (x.1 + 1, x.2 ||| mask)
  else if x.2 &&& mask ≠ 0 ∧ present = false then (x.1 + 1, x.2 &&& ~~~ mask)
  else x

def newOpMode (cfg : ApCfg) (num : StaProp → ℤ) (olbcHt : Bool) : BitVec 16 :=
  if num .noHt ≠ 0 then opModeMixed
  else if cfg.htCapInfo &&& ieee80211HtCapSupWidth ≠ 0 ∧ num .ht20mhz ≠ 0 then
    opMode20mhzHtStaAssoced
  else if olbcHt then opModeMayBeLegacyStas
  else opModePure

def replaceOpMode (new : BitVec 16) (x : ℕ × BitVec 16) : ℕ × BitVec 16 :=
  if x.2 &&& htInfoOpModeMask ≠ new then (x.1 + 1, x.2 &&& ~~~ htInfoOpModeMask ||| new) else x

variable [DecidableEq ι]

def rtwHtOperationUpdate (cfg : ApCfg) (s : ApBss ι) : ℕ × ApBss ι :=
  if cfg.htOption then
    let x := presenceBit htInfoNonGfDevsPresent (decide (s.num .htNoGf ≠ 0)) (0, s.htOpMode)
    let x := presenceBit htInfoNonHtStaPresent (decide (s.num .noHt ≠ 0) || s.olbcHt) x
    let x := replaceOpMode (newOpMode cfg s.num s.olbcHt) x
    (x.1, { s with htOpMode := x.2 })
  else (0, s)

def htBeacon (noted : Bool) (r : ℕ × ApBss ι) : ApBss ι :=
  if 0 < r.1 then ((r.2.updateBeacon .htCapability).updateBeacon .htAddInfo).noteBeacon noted
  else r.2

def endBeacon (s : ApBss ι) : ApBss ι := if s.beaconUpdated then s.updateBeacon .all else s

/-- The counters of the HT stations. The three properties of an HT station are only ever added. -/
def htOnStaJoin (p : ι) (s : ApBss ι) : ApBss ι :=
  let cap := (s.sta p).cap
  if cap.flags &&& wlanStaHt ≠ 0 then
    (((s.unmark p .noHt).raise p .htNoGf (cap.htCapab &&& ieee80211HtCapGrnFld == 0)).raise p
      .ht20mhz (cap.htCapab &&& ieee80211HtCapSupWidth == 0)).raise p
        .ht40mhzIntolerant (cap.htCapab &&& ieee80211HtCap40mhzIntolerant != 0)
  else s.mark p .noHt

def bssCapUpdateOnStaJoin (cfg : ApCfg) (p : ι) (s : ApBss ι) : ApBss ι :=
  let cap := (s.sta p).cap
  let s := { s with beaconUpdated := false }
  let s := s.followShort cfg p .noShortPreamble (cap.flags &&& wlanStaShortPreamble == 0)
  let s := s.followErp p (cap.flags &&& wlanStaNonerp != 0)
  let s := s.followShort cfg p .noShortSlotTime (cap.capability &&& wlanCapabilityShortSlot == 0)
  let s := if cfg.htEnable && cfg.isSupportedHt then
      htBeacon true (rtwHtOperationUpdate cfg (htOnStaJoin p s))
    else s
  endBeacon s

def timOnStaLeave (p : ι) (s : ApBss ι) : ApBss ι :=
  if s.timBitmap (s.sta p).aid then
    ({ s with timBitmap := update s.timBitmap (s.sta p).aid false }.noteBeacon
      true).updateBeacon .tim
  else s

def intolerantOnStaLeave (p : ι) (s : ApBss ι) : ApBss ι :=
  if (s.sta p).set .ht40mhzIntolerant then
    s.write p .ht40mhzIntolerant false
      (if 0 < s.num .ht40mhzIntolerant then s.num .ht40mhzIntolerant - 1
        else s.num .ht40mhzIntolerant)
  else s

/-- `bss_cap_update_on_sta_leave`; what it returns is `beaconUpdated`. -/
def bssCapUpdateOnStaLeave (cfg : ApCfg) (p : ι) (s : ApBss ι) : ApBss ι :=
  let s := timOnStaLeave p { s with beaconUpdated := false }
  let s := s.followShort cfg p .noShortPreamble false
  let s := s.followErp p false
  let s := s.followShort cfg p .noShortSlotTime false
  let s := ((s.unmark p .htNoGf).unmark p .noHt).unmark p .ht20mhz
  let s := htBeacon false (rtwHtOperationUpdate cfg (intolerantOnStaLeave p s))
  endBeacon s

inductive ApCall (ι : Type*) where
  | join (p : ι) (cap : StaCap)
  | leave (p : ι)

structure ApEvent (ι : Type*) where
  call : ApCall ι
  olbcHt : Bool

@[simp] def setCap (p : ι) (cap : StaCap) (s : ApBss ι) : ApBss ι :=
  { s with sta := update s.sta p { s.sta p with cap := cap } }

def apStep (cfg : ApCfg) (s : ApBss ι) (e : ApEvent ι) : ApBss ι :=
  let s := { s with olbcHt := e.olbcHt }
  match e.call with
  | .join p cap => bssCapUpdateOnStaJoin cfg p (setCap p cap s)
  | .leave p => bssCapUpdateOnStaLeave cfg p s

end Rtl8852be

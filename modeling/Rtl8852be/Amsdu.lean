import Rtl8852be.Defrag
import Rtl8852be.VendorAttr

/-!
# Taking an A-MSDU apart

`amsdu_to_msdu` walks over the subframes of a frame in station mode. A subframe has a destination, a
source, the length of its MSDU in two bytes, the MSDU, and padding to a multiple of four.
-/

namespace Rtl8852be

inductive AmsduMode where
  | nonSpp
  | spp
  | allDrop
  deriving DecidableEq

/-- What the walk asks of the adapter and of the frame; `gptrCheck` is `rtw_rx_wds_gptr_check`. -/
structure AmsduCfg where
  amsduMode : AmsduMode
  privacyAlgrthm : SecurityType
  toFrDs : ℕ
  ra : List UInt8
  ta : List UInt8
  useWds : Bool
  gptrCheck : List UInt8 → Bool

def rtwRfc1042Header : List UInt8 := [0xaa, 0xaa, 0x03, 0x00, 0x00, 0x00]

def rtwBridgeTunnelHeader : List UInt8 := [0xaa, 0xaa, 0x03, 0x00, 0x00, 0xf8]

variable (cfg : AmsduCfg)

def AmsduCfg.checked : Bool := cfg.amsduMode = .nonSpp ∧ cfg.privacyAlgrthm ≠ .noPrivacy

def validateAmsduContent (da sa : List UInt8) : Bool :=
  if cfg.checked then
    ¬ (cfg.toFrDs = 1 ∧ da ≠ cfg.ra) ∧ ¬ (cfg.toFrDs = 2 ∧ sa ≠ cfg.ta) ∧ da ≠ rtwRfc1042Header
  else true

def rtwRecvLlcParse (msdu : List UInt8) : Bool :=
  if msdu.length < 8 then false
  else
    let ethType := rtwGetBe16 (fun i => msdu.getD i 0) 6
    (msdu.take 6 = rtwRfc1042Header ∧ ethType ≠ 0x80f3 ∧ ethType ≠ 0x8137)
      ∨ msdu.take 6 = rtwBridgeTunnelHeader

def rtwStaRxAmsduActCheck (da sa : List UInt8) : Bool :=
  !(cfg.useWds && (da.getD 0 0 &&& 1 ≠ 0) && cfg.gptrCheck sa)

def htons (n : ℕ) : List UInt8 := [UInt8.ofNat (n / 256), UInt8.ofNat n]

def rtwOsAllocMsduPkt (da sa msdu : List UInt8) (llcHdl : Bool) : List UInt8 :=
  if llcHdl then da ++ sa ++ msdu.drop 6 else da ++ sa ++ htons msdu.length ++ msdu

def amsduPadding (len : ℕ) : ℕ := if 4 - (len + 14) % 4 = 4 then 0 else 4 - (len + 14) % 4

def amsduLoop (pdata : List UInt8) (subframes : List (List UInt8)) : List (List UInt8) :=
  if 14 < pdata.length then
    let len := rtwGetBe16 (fun i => pdata.getD i 0) 12
    let da := pdata.take 6
    let sa := (pdata.drop 6).take 6
    let msdu := (pdata.drop 14).take len
    if pdata.length < 14 + len then subframes
    else if validateAmsduContent cfg da sa = false then subframes
    else
      let subframes := if rtwStaRxAmsduActCheck cfg da sa then
        subframes ++ [rtwOsAllocMsduPkt da sa msdu (rtwRecvLlcParse msdu)] else subframes
      if 64 ≤ subframes.length then subframes
      else
        let rest := pdata.drop (14 + len)
        if rest.length ≠ 0 ∧ rest.length < amsduPadding len then subframes
        else amsduLoop (rest.drop (amsduPadding len)) subframes
  else subframes
termination_by pdata.length
decreasing_by
  simp only [List.length_drop]
  omega

def RecvFrame.amsdu (f : RecvFrame) : List UInt8 :=
  let f := f.recvframePull f.hdrlen
  let f := if 0 < f.ivLen then f.recvframePull f.ivLen else f
  (if f.encrypt ≠ .noPrivacy then f.recvframePullTail f.icvLen else f).data

def amsduToMsdu (f : RecvFrame) : List (List UInt8) := amsduLoop cfg f.amsdu []

end Rtl8852be

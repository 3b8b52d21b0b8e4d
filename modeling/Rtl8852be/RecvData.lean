import Rtl8852be.Defrag
import Rtl8852be.Lib.Bytes

/-!
# Data frames on their way to the reassembly

`validate_recv_data_frame` notes the packet number of a frame and drops unprotected frames of a
protected network. What it lets through is decrypted and handed to `recvframe_chk_defrag`.
-/

namespace Rtl8852be

open Bytes

instance neZeroKeyId : NeZero 4 := ⟨Nat.succ_ne_zero 3⟩

def SecurityType.decachesPn (encrypt : SecurityType) : Bool := encrypt = .tkip ∨ encrypt.hasPn

/-- `rtw_iv_to_pn` and `RTW_GET_LE64` of its result. -/
def rtwIvToPn (iv : Octets 8) (encAlgo : SecurityType) : ℕ :=
  (if encAlgo = .tkip then (iv 2).toNat + 256 * (iv 0).toNat else (iv 0).toNat + 256 * (iv 1).toNat)
  + 65536 * (iv 4).toNat + 16777216 * (iv 5).toNat + 4294967296 * (iv 6).toNat
  + 1099511627776 * (iv 7).toNat

def ivKeyId (iv : Octets 8) : Fin 4 := Fin.ofNat 4 ((iv 3).toNat / 64)

def pnLessChk (a b : ℕ) : Bool :=
  (a + 18446744073709551616 - b) % 18446744073709551616 / 140737488355328 % 2 = 1

def validPnChk (new old : ℕ) : Bool := old = 0 ∨ pnLessChk old new

/-- `recv_ucast_pn_decache`: a number that is not valid is not noted, and the frame goes on. -/
def recvUcastPnDecache (encrypt : SecurityType) (iv cached : Octets 8) : Octets 8 :=
  if encrypt.decachesPn ∧ validPnChk (rtwIvToPn iv encrypt) (rtwIvToPn cached encrypt) then iv
  else cached

/-- `recv_bcast_pn_decache`; none is `_FAIL`. -/
def recvBcastPnDecache (isSta : Bool) (encrypt : SecurityType) (iv : Octets 8)
    (ivSeq : Fin 4 → ℕ) : Option (Fin 4 → ℕ) :=
  if encrypt.decachesPn ∧ isSta then
    if validPnChk (rtwIvToPn iv encrypt) (ivSeq (ivKeyId iv)) then
      some (Function.update ivSeq (ivKeyId iv) (rtwIvToPn iv encrypt))
    else none
  else some ivSeq

structure RxCfg where
  auth8021X : Bool
  privacyAlgrthm : SecurityType
  grpPrivacy : SecurityType
  isSta : Bool
  isAp : Bool

structure RxState (σ : Type*) where
  ivSeq : Fin 4 → ℕ
  iv : σ → Fin 16 → Octets 8
  defragQ : σ → List RecvFrame

/-- `hdrOk` and `psta` from the validation of the addresses, `dup` from `recv_decache`, `dec` from
the decryption, and `ta` the station of the transmitter. -/
structure RxDataFrame (σ : Type*) where
  frame : RecvFrame
  a4 : Bool
  qos : Bool
  order : Bool
  isMcast : Bool
  dstOwn : Bool
  bdecrypted : Bool
  hdrOk : Bool
  psta : Option σ
  amsduDisable : Bool
  staPrivacy : SecurityType
  dup : Bool
  dec : Option (List UInt8)
  ta : Option σ
  keytrack : ℕ

def setIceIvLen : SecurityType → ℕ × ℕ
  | .wep40 | .wep104 => (4, 4)
  | .tkip => (8, 4)
  | .aes => (8, 8)
  | .gcmp | .gcmp256 | .ccmp256 => (8, 16)
  | .sms4 => (18, 16)
  | _ => (0, 0)

lemma setIceIvLen_le (encrypt : SecurityType) : (setIceIvLen encrypt).1 ≤ 18 := by
  cases encrypt <;> simp [setIceIvLen]

def RecvFrame.privacy (f : RecvFrame) : Bool := f.data.getD 1 0 &&& 0x40 ≠ 0

namespace RxDataFrame

variable {σ : Type*} (e : RxDataFrame σ)

def qosByte : UInt8 := e.frame.data.getD (24 + if e.a4 then 6 else 0) 0

def amsdu : Bool := e.qos ∧ e.qosByte &&& 0x80 ≠ 0

def priority : Fin 16 := if e.qos then Fin.ofNat 16 e.qosByte.toNat else 0

def hdrlen : ℕ := (if e.qos then 26 else 24) + (if e.a4 then 6 else 0) + (if e.order then 4 else 0)

lemma hdrlen_le : e.hdrlen ≤ 36 := by
  unfold hdrlen
  split_ifs <;> simp

def iv : Octets 8 := fun i => e.frame.data.getD (e.hdrlen + i) 0

variable (cfg : RxCfg)

def encrypt : SecurityType :=
  if e.frame.privacy then
    if cfg.auth8021X then if e.isMcast then cfg.grpPrivacy else e.staPrivacy
    else cfg.privacyAlgrthm
  else .noPrivacy

def attrib : RecvFrame :=
  { e.frame with
    hdrlen := e.hdrlen
    ivLen := (setIceIvLen (e.encrypt cfg)).1
    icvLen := (setIceIvLen (e.encrypt cfg)).2
    encrypt := e.encrypt cfg
    offset_lt := by
      have h := e.hdrlen_le
      have h' := setIceIvLen_le (e.encrypt cfg)
      omega }

def isEapol : Bool :=
  let etherPtr := e.hdrlen + (setIceIvLen (e.encrypt cfg)).1 + 6
  e.frame.data.getD etherPtr 0 = 0x88 ∧ e.frame.data.getD (etherPtr + 1) 0 = 0x8e

def dropped : Bool :=
  if cfg.privacyAlgrthm = .noPrivacy then false
  else if e.isMcast then !e.frame.privacy
  else if cfg.auth8021X then
    !e.frame.privacy && (!e.isEapol cfg || e.amsdu)
      || e.isEapol cfg && cfg.isAp && e.staPrivacy = .noPrivacy && !e.dstOwn
  else !e.frame.privacy

end RxDataFrame

section Pipeline

variable [DecidableEq σ]

def pnDecache (cfg : RxCfg) (e : RxDataFrame σ) (psta : σ) (s : RxState σ) : Option (RxState σ) :=
  if e.isMcast then
    (recvBcastPnDecache cfg.isSta e.frame.encrypt e.iv s.ivSeq).map fun ivSeq =>
      { s with ivSeq := ivSeq }
  else
    let cached := s.iv psta e.priority
    let iv := recvUcastPnDecache e.frame.encrypt e.iv cached
    some { s with iv := Function.update s.iv psta (Function.update (s.iv psta) e.priority iv) }

/-- `validate_recv_data_frame`; the frame is there if it is accepted. -/
def validateRecvDataFrame (cfg : RxCfg) (e : RxDataFrame σ) (s : RxState σ) :
    Option RecvFrame × RxState σ :=
  match e.psta with
  | none => (none, s)
  | some psta =>
    if e.hdrOk = false ∨ e.amsduDisable ∧ e.amsdu ∨ e.dup then (none, s)
    else
      match pnDecache cfg e psta s with
      | none => (none, s)
      | some s => (if e.dropped cfg then none else some (e.attrib cfg), s)

def RecvFrame.decrypted (f : RecvFrame) (bytes : List UInt8) : RecvFrame :=
  if f.data.length < f.hdrlen + f.ivLen then f
  else { f with data := f.data.take (f.hdrlen + f.ivLen) ++ bytes }

/-- `decryptor`, which can fail for the ciphers with packet numbers. -/
def decryptor (bdecrypted : Bool) (dec : Option (List UInt8)) (f : RecvFrame) : Option RecvFrame :=
  if bdecrypted then some f
  else if f.encrypt.decachesPn then dec.map f.decrypted
  else if f.encrypt = .wep40 ∨ f.encrypt = .wep104 then some ((dec.map f.decrypted).getD f)
  else some f

def rxToDefrag (cfg : RxCfg) (e : RxDataFrame σ) (s : RxState σ) :
    Option (RxFragment σ) × RxState σ :=
  let (f, s) := validateRecvDataFrame cfg e s
  ((f.bind (decryptor e.bdecrypted e.dec)).map fun f => ⟨f, e.ta, none, e.keytrack⟩, s)

def rxDataStep (cfg : RxCfg) (s : RxState σ) (e : RxDataFrame σ) : RxState σ :=
  match rxToDefrag cfg e s with
  | (none, s) => s
  | (some frag, s) => { s with defragQ := defragStep s.defragQ frag }

end Pipeline

end Rtl8852be

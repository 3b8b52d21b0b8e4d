import Rtl8852be.BrExt

/-!
# Sending for a bridge

`rtw_br_client_tx` of `core/rtw_xmit.c`: the frame of a client behind the bridge is recorded in the
database and gets the address of the adapter.
-/

namespace Rtl8852be

open Bytes

def vlanStrip (s : Skb) : Skb :=
  ((List.range 6).foldl (fun s i => s.move (14 - i * 2) (10 - i * 2) 2) s).pull 4

def vlanRestore (vlanHdr : Octets 2) (s : Skb) : Skb :=
  let s := (List.range 6).foldl (fun s i => s.move (i * 2) (4 + i * 2) 2) (s.push 4)
  (s.putBe16 12 ethP8021q).set 14 vlanHdr

def csumFold (sum : ℕ) : ℕ :=
  if sum / 2 ^ 16 = 0 then sum else csumFold (sum % 2 ^ 16 + sum / 2 ^ 16)
termination_by sum

/-- The broadcast flag of the DHCP request in the UDP datagram at `udph` is set. -/
def setBroadcastFlag (udph : ℕ) (s : Skb) : Skb :=
  let s := s.set (udph + 18) ![s.byte (udph + 18) ||| 0x80]
  let sum := csumFold (0xFFFF - s.le16 (udph + 6) + s.le16 (udph + 18))
  s.putLe16 (udph + 6) (0xFFFF - sum)

variable (cfg : BrCfg)

/-- `dhcp_flag_bcast`. The message is 8 behind the UDP header, its flags 10 further on, and its
cookie 236. -/
def dhcpFlagBcast (s : Skb) : Skb :=
  if cfg.dhcpBcstDisable then s
  else if s.protocol = ethPIp ∧ s.byte 23 = 17 then
    let udph := 14 + (s.byte 14).toNat % 16 * 4
    if s.be16 udph = 68 ∧ s.be16 (udph + 2) = 67 ∧
        s.get (udph + 8 + 236) 4 = ![0x63, 0x82, 0x53, 0x63] ∧
        (s.byte (udph + 18)).toNat / 128 = 0 then setBroadcastFlag udph s
    else s
  else s

/-- What the call finds: whether the device is in a bridge, the copy of the frame with the room
behind it, if there is memory for it, and whether the frame can be made linear. -/
structure BrTxEnv extends BrEnv where
  brPort : Bool
  skbCopy : Option ((ℕ → UInt8) × ℕ)
  skbLinearize : Bool

variable (env : BrTxEnv)

def rtwSkbCopy (s : Skb) : Option Skb :=
  env.skbCopy.map fun (behind, tailroom) =>
    ⟨fun a => if a < s.off + s.len then s.buf a else behind a, s.off, s.len, tailroom⟩

def BrExt.touch (jiffies : UInt64) (entry : ℕ) (s : BrExt) : BrExt :=
  { s with nethash := fun h => (s.nethash h).map fun db =>
      if db.addr = entry then { db with ageingTimer := jiffies } else db }

variable (skb : Skb) (s : BrExt)

def brShortcut : Option ℕ :=
  if (skb.byte 0).toNat % 2 = 0 ∧ env.brPort ∧ rtwMemcmp (skb.get 6 6) s.brMac ∧
      skb.protocol ≠ ethP8021q ∧ skb.protocol = ethPIp ∧
      !rtwMemcmp s.scdbMac (skb.get 6 6) then s.scdbEntry
  else none

/-- What is done for an IPv4 frame before the database is asked, and whether it still is
(`do_nat25`). -/
def brScdb : Bool × BrExt :=
  if skb.protocol = ethPIp then
    let s := if !rtwMemcmp (skb.get 6 6) s.brMac then { s with brIp := skb.get 26 4 } else s
    if rtwMemcmp s.scdbMac (skb.get 6 6) then
      let scdbEntry := scdbFindEntry cfg (skb.get 26 4) s
      let s := { s with scdbEntry := scdbEntry }
      match scdbEntry with
      | some entry => (false, { s with
          scdbMac := skb.get 6 6
          scdbIp := skb.get 26 4 }.touch env.jiffies entry)
      | none => (true, s)
    else
      match s.scdbEntry with
      | some entry => (false, s.touch env.jiffies entry)
      | none => (true, { s with scdbMac := 0, scdbIp := 0 })
  else (true, s)

/-- A copy is made of a frame that `NAT25_CHECK` answers 0 to, with the tag in place; `none` if
there is no memory. -/
def brCopy (isVlanTag : Bool) (vlanHdr : Octets 2) (skb : Skb) (s : BrExt) : Option (Option Skb) :=
  match nat25DbHandle cfg env.toBrEnv .check skb s with
  | none => none
  | some (res, _, _) =>
    if res = 0 then
      let skb := if isVlanTag then vlanRestore vlanHdr skb else skb
      some ((rtwSkbCopy env skb).map fun skb => if isVlanTag then vlanStrip skb else skb)
    else some (some skb)

def brRewrite (isVlanTag : Bool) (vlanHdr : Octets 2) (skb : Skb) : Skb :=
  let skb := dhcpFlagBcast cfg (skb.set 6 cfg.hwaddr)
  if isVlanTag then vlanRestore vlanHdr skb else skb

def brCheckSa : Nat25Result :=
  if rtwMemcmp (skb.get 6 6) cfg.hwaddr then (-1, skb, s) else (0, skb, s)

/-- The number it returns, the frame handed back, and the adapter; `none` if it does not return. -/
def rtwBrClientTx : Option Nat25Result :=
  match brShortcut env skb s with
  | some entry => some (brCheckSa cfg (skb.set 6 cfg.hwaddr) (s.touch env.jiffies entry))
  | none =>
    let isVlanTag := decide (skb.protocol = ethP8021q)
    let vlanHdr := skb.get 14 2
    let skb := if isVlanTag then vlanStrip skb else skb
    match brScdb cfg env skb s with
    | (false, s) => some (brCheckSa cfg (brRewrite cfg isVlanTag vlanHdr skb) s)
    | (true, s) =>
      match brCopy cfg env isVlanTag vlanHdr skb s with
      | none => none
      | some none =>
        some (-1, if isVlanTag then vlanRestore vlanHdr skb else skb, s)
      | some (some skb) =>
        if env.skbLinearize then
          match nat25DbHandle cfg env.toBrEnv .insert skb s with
          | none => none
          | some (res, skb, s) =>
            if res = -2 then some (-1, skb, s)
            else if res < 0 then some (0, skb, s)
            else some (brCheckSa cfg (brRewrite cfg isVlanTag vlanHdr skb) s)
        else some (-1, skb, s)

/-- `nat25_handle_frame`, with the settings `nat25_disable` and `nat25sc_disable`. -/
def nat25HandleFrame (env : BrEnv) (disable scDisable : Bool) (skb : Skb)
    (s : BrExt) : Option Nat25Result :=
  if (skb.byte 0).toNat % 2 = 1 then some (0, skb, s)
  else
    let isVlanTag := decide (skb.protocol = ethP8021q)
    let vlanHdr := skb.get 14 2
    let skb := if isVlanTag then vlanStrip skb else skb
    let res :=
      if disable then
        if skb.protocol = ethPIp ∧ !rtwMemcmp s.brIp (skb.get 30 4) ∨
            skb.protocol = ethPArp ∧ !rtwMemcmp s.brIp (skb.get 38 4) then
          nat25DbHandle cfg env .lookup skb s
        else some (0, skb, s)
      else if !scDisable ∧ skb.protocol = ethPIp ∧ !rtwMemcmp s.scdbIp (skb.get 30 4) then
        some (0, skb.set 0 s.scdbMac, s)
      else nat25DbHandle cfg env .lookup skb s
    res.map fun (retval, skb, s) =>
      (if retval = -1 then -1 else 0, if isVlanTag then vlanRestore vlanHdr skb else skb, s)

/-- `nat25_db_expire`. Which of the expired records are freed is left open, as `use_count` is. -/
def nat25DbExpire (env : BrEnv) (freed : Nat25Entry → Bool) (s : BrExt) : BrExt :=
  let gone := fun db => nat25HasExpired cfg env db && freed db
  let s' := { s with nethash := fun i => (s.nethash i).filter fun db => !gone db }
  if (List.range 16).any fun i => (s.nethash i).any fun db =>
      gone db && decide (s.scdbEntry = some db.addr) then
    { s' with scdbMac := 0, scdbIp := 0, scdbEntry := none }
  else s'

inductive BrEvent where
  | tx (env : BrTxEnv) (skb : Skb)
  | rx (env : BrEnv) (skb : Skb)
  | expire (env : BrEnv) (freed : Nat25Entry → Bool)

/-- A call that does not return changes nothing more. -/
def brStep (disable scDisable : Bool) (s : BrExt) : BrEvent → BrExt
  | .tx env skb => ((rtwBrClientTx cfg env skb s).map fun r => r.2.2).getD s
  | .rx env skb => ((nat25HandleFrame cfg env disable scDisable skb s).map fun r => r.2.2).getD s
  | .expire env freed => nat25DbExpire cfg env freed s

end Rtl8852be

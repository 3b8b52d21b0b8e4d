import Mathlib.Data.Fin.VecNotation
import Mathlib.Data.UInt
import Rtl8852be.Lib.Bytes

/-!
# Bridging with one MAC address

`core/rtw_br_ext.c`: the database that maps the network addresses behind the bridge to their MAC
addresses (NAT2.5), and the broadcast flag of DHCP requests. Frames are bytes in memory.
-/

namespace Rtl8852be

open Bytes

/-- The memory, where `data` points, and how many bytes are in use and free behind it. -/
structure Skb where
  buf : ℕ → UInt8
  off : ℕ
  len : ℕ
  tailroom : ℕ

variable (s : Skb)

namespace Skb

def byte (pos : ℕ) : UInt8 := s.buf (s.off + pos)

def get (pos n : ℕ) : Octets n := load s.buf (s.off + pos) n

def set {n : ℕ} (s : Skb) (pos : ℕ) (v : Octets n) : Skb :=
  { s with buf := store s.buf (s.off + pos) v }

def be16 (pos : ℕ) : ℕ := (s.byte pos).toNat * 256 + (s.byte (pos + 1)).toNat

/-- The two bytes at `pos` as the processor, which is little-endian, has them. -/
def le16 (pos : ℕ) : ℕ := (s.byte pos).toNat + 256 * (s.byte (pos + 1)).toNat

def putBe16 (pos v : ℕ) : Skb := s.set pos ![UInt8.ofNat (v / 256), UInt8.ofNat v]

def putLe16 (pos v : ℕ) : Skb := s.set pos ![UInt8.ofNat v, UInt8.ofNat (v / 256)]

def move (dst src n : ℕ) : Skb := s.set dst (s.get src n)

def pull (n : ℕ) : Skb :=
  if s.len < n then s else { s with off := s.off + n, len := s.len - n }

def push (n : ℕ) : Skb := { s with off := s.off - n, len := s.len + n }

def put (n : ℕ) : Skb := { s with len := s.len + n, tailroom := s.tailroom - n }

def trim (n : ℕ) : Skb := { s with len := s.len - n, tailroom := s.tailroom + n }

def protocol : ℕ := s.be16 12

end Skb

def ethPIp : ℕ := 0x0800
def ethPArp : ℕ := 0x0806
def ethPIpx : ℕ := 0x8137
def ethPAtalk : ℕ := 0x809B
def ethPAarp : ℕ := 0x80F3
def ethPPppDisc : ℕ := 0x8863
def ethPPppSes : ℕ := 0x8864
def ethPIpv6 : ℕ := 0x86DD
def ethP8021q : ℕ := 0x8100

@[simp] def rtwMemcmp {n : ℕ} (dst src : Octets n) : Bool := decide (dst = src)

abbrev NetworkAddr := Octets 17

structure Nat25Entry where
  addr : ℕ
  networkAddr : NetworkAddr
  macAddr : Octets 6
  ageingTimer : UInt64

structure BrExt where
  nethash : ℕ → List Nat25Entry
  pppoeConnectionInProgress : ℕ
  pppoeAddr : Octets 6
  scdbMac : Octets 6
  scdbIp : Octets 4
  scdbEntry : Option ℕ
  brMac : Octets 6
  brIp : Octets 4
  addPPPoETag : Bool

/-- The adapter's own address, the settings, the kernel's tick rate, and whether the kernel still
has `net/ipx.h`. -/
structure BrCfg where
  hwaddr : Octets 6
  dhcpBcstDisable : Bool
  hz : UInt64
  ipx : Bool

/-- The clock, the memory, the bytes on the stack, the kernel's checksum, and the bridge's address.
-/
structure BrEnv where
  jiffies : UInt64
  malloc : Option ℕ
  stack : ℕ → UInt8
  csum : Skb → Octets 2
  brNetdev : Option (Octets 6)

def timeBeforeEq (a b : UInt64) : Bool := decide ((b - a).toNat < 2 ^ 63)

variable (cfg : BrCfg) (env : BrEnv)

def nat25HasExpired (fdb : Nat25Entry) : Bool :=
  timeBeforeEq fdb.ageingTimer (env.jiffies - 300 * cfg.hz)

def networkAddrOf (type : UInt8) (fields : (ℕ → UInt8) → ℕ → UInt8) : NetworkAddr :=
  load (fields (Function.update (fun _ => 0) 0 type)) 0 17

def nat25GenerateIpv4NetworkAddr (ipAddr : Octets 4) : NetworkAddr :=
  networkAddrOf 1 fun mem => store mem 7 ipAddr

def nat25GenerateIpxNetworkAddrWithNode (net : Octets 4) (node : Octets 6) : NetworkAddr :=
  networkAddrOf 3 fun mem => store (store mem 1 net) 5 node

def nat25GenerateIpxNetworkAddrWithSocket (net : Octets 4) (sock : Octets 2) : NetworkAddr :=
  networkAddrOf 3 fun mem => store (store mem 1 net) 5 sock

def nat25GenerateAppleNetworkAddr (network : Octets 2) (node : Octets 1) : NetworkAddr :=
  networkAddrOf 4 fun mem => store (store mem 1 network) 3 node

def nat25GeneratePppoeNetworkAddr (acMac : Octets 6) (sid : Octets 2) : NetworkAddr :=
  networkAddrOf 5 fun mem => store (store mem 1 sid) 3 acMac

def nat25GenerateIpv6NetworkAddr (ipAddr : Octets 16) : NetworkAddr :=
  networkAddrOf 2 fun mem => store mem 1 ipAddr

/-- The bytes from `lo` to `hi`, exclusive, added bit by bit, and what `NAT25_HASH_SIZE - 1` leaves
of them. -/
def xorBytes (a : NetworkAddr) (lo hi : ℕ) : ℕ :=
  (((List.finRange 17).filter fun i => lo ≤ i.val ∧ i.val < hi).foldl
    (fun x i => x ^^^ a i) 0).toNat &&& 15

def nat25NetworkHash (a : NetworkAddr) : ℕ :=
  if a 0 = 1 then xorBytes a 7 11
  else if cfg.ipx ∧ a 0 = 3 then xorBytes a 1 11
  else if cfg.ipx ∧ a 0 = 4 then xorBytes a 1 4
  else if a 0 = 5 then xorBytes a 0 9
  else if a 0 = 2 then xorBytes a 1 17
  else xorBytes a 0 17

def insertWalk (jiffies : UInt64) (macAddr : Octets 6) (networkAddr : NetworkAddr) :
    List Nat25Entry → Option (List Nat25Entry)
  | [] => none
  | db :: rest =>
    if !rtwMemcmp db.networkAddr networkAddr then
      some ({ db with macAddr := macAddr, ageingTimer := jiffies } :: rest)
    else (insertWalk jiffies macAddr networkAddr rest).map (db :: ·)

def nat25DbNetworkInsert (macAddr : Octets 6) (networkAddr : NetworkAddr) (s : BrExt) : BrExt :=
  let hash := nat25NetworkHash cfg networkAddr
  match insertWalk env.jiffies macAddr networkAddr (s.nethash hash) with
  | some chain => { s with nethash := Function.update s.nethash hash chain }
  | none =>
    match env.malloc with
    | none => s
    | some addr =>
      let db : Nat25Entry := ⟨addr, networkAddr, macAddr, env.jiffies⟩
      { s with nethash := Function.update s.nethash hash (db :: s.nethash hash) }

variable (skb : Skb)

/-- `__nat25_db_network_lookup_and_replace`; `use_count` is left out, it only counts for expiry. -/
def nat25DbNetworkLookupAndReplace (networkAddr : NetworkAddr) (s : BrExt) : Bool × Skb :=
  match (s.nethash (nat25NetworkHash cfg networkAddr)).find?
      fun db => !rtwMemcmp db.networkAddr networkAddr with
  | some db => (true, if nat25HasExpired cfg env db then skb else skb.set 0 db.macAddr)
  | none => (false, skb)

def scdbFindEntry (ipAddr : Octets 4) (s : BrExt) : Option ℕ :=
  let networkAddr := nat25GenerateIpv4NetworkAddr ipAddr
  ((s.nethash (nat25NetworkHash cfg networkAddr)).find?
    fun db => !rtwMemcmp db.networkAddr networkAddr).map Nat25Entry.addr

/-- `__nat25_find_pppoe_tag`: where the tag is, counted from `data`. The tags start at 20. -/
def nat25FindPppoeTag (type length pos : ℕ) : Option ℕ :=
  if pos < length then
    if s.be16 (20 + pos) = type then some (20 + pos)
    else nat25FindPppoeTag type length (pos + 4 + s.be16 (20 + pos + 2))
  else none
termination_by length - pos

/-- `skb_pull_and_merge`; `none` is -1. -/
def skbPullAndMerge (src len : ℕ) : Option Skb :=
  if s.len < src + len ∨ s.len < len then none
  else
    let tailLen := s.len - (src + len)
    some ((if 0 < tailLen then s.move src (src + len) tailLen else s).trim len)

/-- `__nat25_add_pppoe_tag`; `none` is -1. The length of the tag is in network order. -/
def nat25AddPppoeTag (tag : ℕ → UInt8) : Option Skb :=
  let dataLen := (tag 2).toNat + 256 * (tag 3).toNat + 4
  if s.tailroom < dataLen then none
  else
    let length := s.be16 18
    let s := ((s.put dataLen).move (20 + dataLen) 20 length).putBe16 18 (length + dataLen)
    some (s.set 20 (load tag 0 dataLen))

def relayTag {n : ℕ} (stack : ℕ → UInt8) (client : Octets 6) (old : Octets n) : ℕ → UInt8 :=
  let tagLen := 2 + 6 + n
  store (store (store stack 12 old) 6 client) 0
    ![0x01, 0x10, UInt8.ofNat (tagLen / 256), UInt8.ofNat tagLen, 0x81, 0x86]

/-- The old tag is deleted first; that frame is handed back also when no tag could be added. -/
def addRelayTag (stack : ℕ → UInt8) (s : Skb) : Bool × Skb :=
  match nat25FindPppoeTag s 0x0110 (s.be16 18) 0 with
  | some pos =>
    let oldTagLen := s.be16 (pos + 2)
    if 40 < oldTagLen + 4 + 2 + 6 then (false, s)
    else
      let old := s.get (pos + 4) oldTagLen
      match skbPullAndMerge s pos (4 + oldTagLen) with
      | none => (false, s)
      | some s =>
        let s := s.putBe16 18 (s.be16 18 + 2 ^ 16 - 4 - oldTagLen)
        match nat25AddPppoeTag s (relayTag stack (s.get 6 6) old) with
        | some s => (true, s)
        | none => (false, s)
  | none =>
    match nat25AddPppoeTag s (relayTag stack (s.get 6 6) ![]) with
    | some s => (true, s)
    | none => (false, s)

/-- `scan_tlv`; `none` if it never ends, which an option of length 0 makes it do. -/
def scanTlv (tag len8b : UInt8) (pos len : ℕ) : Option (Option ℕ) :=
  if 0 < len then
    if s.byte pos = tag ∧ s.byte (pos + 1) = len8b ∧ len8b.toNat * 8 ≤ len then
      some (some (pos + 2))
    else if (s.byte (pos + 1)).toNat = 0 then none
    else scanTlv tag len8b (pos + (s.byte (pos + 1)).toNat * 8)
      (len - (s.byte (pos + 1)).toNat * 8)
  else some none
termination_by len

/-- Where the options of a message start, and which one has the address of the sender. -/
def ndOption (type : UInt8) : Option (ℕ × UInt8) :=
  if type = 133 then some (8, 1)
  else if type = 134 then some (16, 1)
  else if type = 135 then some (24, 1)
  else if type = 136 then some (24, 2)
  else if type = 137 then some (40, 2)
  else none

def updateNdLinkLayerAddr (pos len : ℕ) (replaceMac : Octets 6) : Option (Bool × Skb) :=
  match ndOption (s.byte pos) with
  | none => some (false, s)
  | some (start, tag) =>
    if len < start then some (false, s)
    else
      match scanTlv s tag 1 (pos + start) (len - start) with
      | none => none
      | some none => some (false, s)
      | some (some mac) => some (true, s.set mac replaceMac)

inductive Nat25Method where
  | check
  | insert
  | lookup
  | parse
  deriving DecidableEq

abbrev Nat25Result := ℤ × Skb × BrExt

def netdevBrInit (s : BrExt) : BrExt :=
  { s with brMac := env.brNetdev.getD s.brMac, addPPPoETag := true }

variable (method : Nat25Method)

def nat25HandleIp (skb : Skb) (s : BrExt) : Nat25Result :=
  -- 14 + ihl * 4 against 14 + len
  if skb.len ≤ (skb.byte 14).toNat % 16 * 4 then (-1, skb, s)
  else
    match method with
    | .check => (-1, skb, s)
    | .insert =>
      if skb.get 26 4 = 0 then (0, skb, s)
      else (0, skb, nat25DbNetworkInsert cfg env (skb.get 6 6)
        (nat25GenerateIpv4NetworkAddr (skb.get 26 4)) s)
    | .lookup =>
      match nat25DbNetworkLookupAndReplace cfg env skb
          (nat25GenerateIpv4NetworkAddr (skb.get 30 4)) s with
      | (true, skb) => (0, skb, s)
      | (false, skb) =>
        if skb.byte 33 = 0xFF then (0, skb.set 0 (fun _ : Fin 6 => 0xFF), s)
        else
          let s := if s.brMac = 0 then netdevBrInit env s else s
          (0, skb.set 0 s.brMac, s)
    | .parse => (-1, skb, s)

def nat25HandleArp (skb : Skb) (s : BrExt) : Nat25Result :=
  if skb.be16 16 ≠ ethPIp then (-1, skb, s)
  else
    let arHln := (skb.byte 18).toNat
    let arPln := (skb.byte 19).toNat
    match method with
    | .check => (0, skb, s)
    | .insert =>
      let skb := skb.set 22 cfg.hwaddr
      (0, skb, nat25DbNetworkInsert cfg env (skb.get 6 6)
        (nat25GenerateIpv4NetworkAddr (skb.get (22 + arHln) 4)) s)
    | .lookup =>
      let skb := (nat25DbNetworkLookupAndReplace cfg env skb
        (nat25GenerateIpv4NetworkAddr (skb.get (22 + arHln + (arHln + arPln)) 4)) s).2
      (0, skb.set (22 + (arHln + arPln)) (skb.get 0 6), s)
    | .parse => (-1, skb, s)

inductive IpxKind where
  | ipx (pos : ℕ)
  | aarp (pos : ℕ)
  | ddp (pos : ℕ)
  | none
  | unknown

/-- The headers before it. `_rtw_memcmp` is used here as if it were `memcmp`. -/
def ipxKind : IpxKind :=
  if skb.protocol = ethPIpx then .ipx 14
  else if !rtwMemcmp ![0xFF, 0xFF] (skb.get 14 2) then .ipx 14
  else if skb.byte 14 = 0xAA then
    if !rtwMemcmp ![0x00, 0x00, 0x00, 0x81, 0x37] (skb.get 17 5) then .ipx 22
    else if !rtwMemcmp ![0x00, 0x00, 0x00, 0x80, 0xF3] (skb.get 17 5) then .aarp 22
    else if !rtwMemcmp ![0x08, 0x00, 0x07, 0x80, 0x9B] (skb.get 17 5) then .ddp 22
    else .unknown
  else if skb.byte 14 = 0xE0 then
    if !rtwMemcmp ![0xFF, 0xFF] (skb.get 17 2) then .ipx 17 else .unknown
  else .none

/-- `struct ipxhdr` has the destination (network, node, socket) at 6 and the source at 18. -/
def nat25HandleIpxNet (pos : ℕ) (skb : Skb) (s : BrExt) : Nat25Result :=
  match method with
  | .check =>
    if !rtwMemcmp (skb.get 6 6) (skb.get (pos + 22) 6) then (0, skb, s) else (-1, skb, s)
  | .insert =>
    if !rtwMemcmp (skb.get 6 6) (skb.get (pos + 22) 6) then
      let networkAddr :=
        nat25GenerateIpxNetworkAddrWithSocket (skb.get (pos + 18) 4) (skb.get (pos + 28) 2)
      let skb := skb.set (pos + 22) cfg.hwaddr
      (0, skb, nat25DbNetworkInsert cfg env (skb.get 6 6) networkAddr s)
    else (0, skb, nat25DbNetworkInsert cfg env (skb.get 6 6)
      (nat25GenerateIpxNetworkAddrWithNode (skb.get (pos + 18) 4) (skb.get (pos + 22) 6)) s)
  | .lookup =>
    if !rtwMemcmp cfg.hwaddr (skb.get (pos + 10) 6) then
      let skb := (nat25DbNetworkLookupAndReplace cfg env skb
        (nat25GenerateIpxNetworkAddrWithSocket (skb.get (pos + 6) 4) (skb.get (pos + 16) 2)) s).2
      (0, skb.set (pos + 10) (skb.get 0 6), s)
    else (0, (nat25DbNetworkLookupAndReplace cfg env skb
      (nat25GenerateIpxNetworkAddrWithNode (skb.get (pos + 6) 4) (skb.get (pos + 10) 6)) s).2, s)
  | .parse => (-1, skb, s)

/-- `struct elapaarp`: lengths at 4 and 5, source at 8, 15, 17 and destination at 18, 25, 27. -/
def nat25HandleAarp (pos : ℕ) (skb : Skb) (s : BrExt) : Nat25Result :=
  if skb.byte (pos + 4) ≠ 6 ∨ skb.byte (pos + 5) ≠ 4 then (-1, skb, s)
  else
    match method with
    | .check => (0, skb, s)
    | .insert =>
      let skb := skb.set (pos + 8) cfg.hwaddr
      (0, skb, nat25DbNetworkInsert cfg env (skb.get 6 6)
        (nat25GenerateAppleNetworkAddr (skb.get (pos + 15) 2) (skb.get (pos + 17) 1)) s)
    | .lookup =>
      let skb := (nat25DbNetworkLookupAndReplace cfg env skb
        (nat25GenerateAppleNetworkAddr (skb.get (pos + 25) 2) (skb.get (pos + 27) 1)) s).2
      (0, skb.set (pos + 18) (skb.get 0 6), s)
    | .parse => (-1, skb, s)

/-- `struct ddpehdr` has the destination (network) at 4, the source at 6, and the nodes at 8 and
9. -/
def nat25HandleDdp (pos : ℕ) (skb : Skb) (s : BrExt) : Nat25Result :=
  match method with
  | .check => (-1, skb, s)
  | .insert => (0, skb, nat25DbNetworkInsert cfg env (skb.get 6 6)
      (nat25GenerateAppleNetworkAddr (skb.get (pos + 6) 2) (skb.get (pos + 9) 1)) s)
  | .lookup => (0, (nat25DbNetworkLookupAndReplace cfg env skb
      (nat25GenerateAppleNetworkAddr (skb.get (pos + 4) 2) (skb.get (pos + 8) 1)) s).2, s)
  | .parse => (-1, skb, s)

def nat25HandleIpx (skb : Skb) (s : BrExt) : Nat25Result :=
  match ipxKind skb with
  | .ipx pos => nat25HandleIpxNet cfg env method pos skb s
  | .aarp pos => nat25HandleAarp cfg env method pos skb s
  | .ddp pos => nat25HandleDdp cfg env method pos skb s
  | .none => (-1, skb, s)
  | .unknown => (-1, skb, s)

def padiCode : UInt8 := 0x09
def padoCode : UInt8 := 0x07
def padrCode : UInt8 := 0x19
def padsCode : UInt8 := 0x65

def waitTimePppoe : ℕ := 5

def nat25InsertPppoe (s : BrExt) : Nat25Result :=
  if skb.be16 16 = 0 then
    if skb.byte 15 = padiCode ∨ skb.byte 15 = padrCode then
      if s.addPPPoETag then
        match addRelayTag env.stack skb with
        | (true, skb) => (0, skb, s)
        | (false, skb) => (-1, skb, s)
      else if s.pppoeConnectionInProgress ≠ 0 ∧ rtwMemcmp (skb.get 6 6) s.pppoeAddr then
        (-2, skb, s)
      else
        let pppoeAddr := if s.pppoeConnectionInProgress = 0 then skb.get 6 6 else s.pppoeAddr
        (0, skb, { s with
          pppoeAddr := pppoeAddr
          pppoeConnectionInProgress := waitTimePppoe })
    else (-1, skb, s)
  else
    let s := nat25DbNetworkInsert cfg env (skb.get 6 6)
      (nat25GeneratePppoeNetworkAddr (skb.get 0 6) (skb.get 16 2)) s
    if !s.addPPPoETag ∧ s.pppoeConnectionInProgress ≠ 0 ∧ !rtwMemcmp (skb.get 6 6) s.pppoeAddr then
      (0, skb, { s with pppoeConnectionInProgress := 0 })
    else (0, skb, s)

def removeRelayTag : Bool × Skb :=
  match nat25FindPppoeTag skb 0x0110 (skb.be16 18) 0 with
  | none => (false, skb)
  | some pos =>
    let tagLen := skb.be16 (pos + 2)
    if tagLen < 2 + 6 ∨ skb.be16 (pos + 4) ≠ 0x8186 then (false, skb)
    else
      let skb := skb.set 0 (skb.get (pos + 6) 6)
      let offset := if 2 + 6 < tagLen then 4 else 0
      match skbPullAndMerge skb (pos + offset) (4 + 2 + 6 - offset) with
      | none => (false, skb)
      | some skb =>
        let skb := skb.putBe16 18 (skb.be16 18 + 2 ^ 16 - (4 + 2 + 6 - offset))
        (true, if 0 < offset then skb.putBe16 (pos + 2) (tagLen - 2 - 6) else skb)

def nat25LookupPppoe (s : BrExt) : Nat25Result :=
  if skb.byte 15 = padoCode ∨ skb.byte 15 = padsCode then
    if s.addPPPoETag then
      match removeRelayTag skb with
      | (true, skb) => (0, skb, s)
      | (false, skb) => (-1, skb, s)
    else if s.pppoeConnectionInProgress = 0 then (-1, skb, s)
    else (0, skb.set 0 s.pppoeAddr, { s with pppoeConnectionInProgress := waitTimePppoe })
  else if skb.be16 16 ≠ 0 then
    (0, (nat25DbNetworkLookupAndReplace cfg env skb
      (nat25GeneratePppoeNetworkAddr (skb.get 6 6) (skb.get 16 2)) s).2, s)
  else (-1, skb, s)

def nat25HandlePppoe (skb : Skb) (s : BrExt) : Nat25Result :=
  match method with
  | .check => if skb.be16 16 = 0 then (0, skb, s) else (1, skb, s)
  | .insert => nat25InsertPppoe cfg env skb s
  | .lookup => nat25LookupPppoe cfg env skb s
  | .parse => (-1, skb, s)

def nat25HandlePass (skb : Skb) (s : BrExt) : Nat25Result :=
  match method with
  | .check => (-1, skb, s)
  | .insert => (0, skb, s)
  | .lookup => (0, skb, s)
  | .parse => (-1, skb, s)

def nat25InsertIpv6 (s : BrExt) : Option Nat25Result :=
  if rtwMemcmp (skb.get 22 16) 0 then
    let s := nat25DbNetworkInsert cfg env (skb.get 6 6)
      (nat25GenerateIpv6NetworkAddr (skb.get 22 16)) s
    if skb.byte 20 = 58 ∧ 14 + 40 + 4 < skb.len then
      match updateNdLinkLayerAddr skb 54 (skb.len - 54) cfg.hwaddr with
      | none => none
      | some (false, skb) => some (0, skb, s)
      | some (true, skb) =>
        let skb := skb.set 56 (fun _ : Fin 2 => 0)
        some (0, skb.set 56 (env.csum skb), s)
    else some (0, skb, s)
  else some (0, skb, s)

def nat25HandleIpv6 (skb : Skb) (s : BrExt) : Option Nat25Result :=
  -- `skb->len - ETH_HLEN` is unsigned
  if (skb.len + 2 ^ 32 - 14) % 2 ^ 32 ≤ 40 then some (-1, skb, s)
  else
    match method with
    | .check => if (skb.byte 0).toNat % 2 = 1 then some (0, skb, s) else some (-1, skb, s)
    | .insert => nat25InsertIpv6 cfg env skb s
    | .lookup => some (0, (nat25DbNetworkLookupAndReplace cfg env skb
        (nat25GenerateIpv6NetworkAddr (skb.get 38 16)) s).2, s)
    | .parse => some (-1, skb, s)

/-- `nat25_db_handle`; `none` if it does not return. -/
def nat25DbHandle (skb : Skb) (s : BrExt) : Option Nat25Result :=
  if skb.protocol = ethPIp then some (nat25HandleIp cfg env method skb s)
  else if skb.protocol = ethPArp then some (nat25HandleArp cfg env method skb s)
  else if cfg.ipx ∧ (skb.protocol = ethPIpx ∨ skb.protocol = ethPAtalk ∨
      skb.protocol = ethPAarp) then some (nat25HandleIpx cfg env method skb s)
  else if skb.protocol = ethPPppDisc ∨ skb.protocol = ethPPppSes then
    some (nat25HandlePppoe cfg env method skb s)
  else if skb.protocol = 0x888E then some (nat25HandlePass method skb s)
  else if skb.protocol = 0xE2AE ∨ skb.protocol = 0xE2AF then
    some (nat25HandlePass method skb s)
  else if skb.protocol = ethPIpv6 then nat25HandleIpv6 cfg env method skb s
  else some (-1, skb, s)

end Rtl8852be

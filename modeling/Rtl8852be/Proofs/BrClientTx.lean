import Rtl8852be.BrClientTx
import Rtl8852be.Lib.Run
import Rtl8852be.Proofs.BrExt

/-!
# What a bridged frame looks like when it is sent

The check at the end of `rtw_br_client_tx` drops the frames that it has rewritten, and lets through
those that `NAT25_INSERT` refuses, without their 802.1Q tag.
-/

namespace Rtl8852be

open Bytes List Skb Option Nat UInt8

variable {skb' : Skb} {i : ℕ} {sk' : Skb}
variable (vlanHdr : Octets 2)

namespace Skb

def tagged (s : Skb) : Prop := s.protocol = ethP8021q
  deriving Decidable

def hdrLen (s : Skb) : ℕ := if s.tagged then 18 else 14

def tag (s : Skb) : Option (Octets 2) := if s.tagged then some (s.get 14 2) else none

def ethertype (s : Skb) : ℕ := s.be16 (s.hdrLen - 2)

def payload (s : Skb) (i : ℕ) : UInt8 := s.byte (s.hdrLen + i)

def payloadLen (s : Skb) : ℕ := s.len - s.hdrLen

def udph (s : Skb) : ℕ := (s.payload 0).toNat % 16 * 4

def IsDhcp (s : Skb) : Prop :=
  s.ethertype = ethPIp ∧ s.payload 9 = 17 ∧ s.be16 (s.hdrLen + s.udph) = 68 ∧
    s.be16 (s.hdrLen + s.udph + 2) = 67

def IsIcmpv6 (s : Skb) : Prop := s.ethertype = ethPIpv6 ∧ s.payload 6 = 58

def LinkAddrAt (s : Skb) (pos : ℕ) : Prop :=
  s.IsIcmpv6 ∧ ∃ start tag, ndOption (s.payload 40) = some (start, tag) ∧
    scanTlv s tag 1 (s.hdrLen + 40 + start) (s.payloadLen - 40 - start)
      = some (some (s.hdrLen + pos))

inductive MayBecome (s : Skb) : ℕ → UInt8 → UInt8 → Prop
  | kept (i : ℕ) (b : UInt8) : MayBecome s i b b
  | arpSender {i : ℕ} (b b' : UInt8) (h : s.ethertype = ethPArp) (hi : 8 ≤ i ∧ i < 14) :
    MayBecome s i b b'
  | icmpv6Cksum {i : ℕ} (b b' : UInt8) (h : s.IsIcmpv6) (hi : i = 42 ∨ i = 43) : MayBecome s i b b'
  | icmpv6Addr {i pos : ℕ} (b b' : UInt8) (h : s.LinkAddrAt pos) (hi : pos ≤ i ∧ i < pos + 6) :
    MayBecome s i b b'
  | dhcpFlag (b : UInt8) (h : s.IsDhcp) : MayBecome s (s.udph + 18) b (b ||| 0x80)
  | dhcpCksum {i : ℕ} (b b' : UInt8) (h : s.IsDhcp) (hi : i = s.udph + 6 ∨ i = s.udph + 7) :
    MayBecome s i b b'

def RelayTagAt (s : Skb) (pos n : ℕ) : Prop :=
  n = 0 ∨ 6 ≤ pos ∧ s.be16 (s.hdrLen + pos) = 0x0110 ∧ n = 4 + s.be16 (s.hdrLen + pos + 2) ∧
    pos + n ≤ s.payloadLen

def payloadCut (s : Skb) (pos n i : ℕ) : UInt8 := s.payload (if i < pos then i else i + n)

/-- Two PPPoE frames that differ in their relay tag, and accordingly in the length field. -/
def DiffersInRelayTag (s s' : Skb) : Prop :=
  ∃ pos n pos' n', s.RelayTagAt pos n ∧ s'.RelayTagAt pos' n' ∧
    s.payloadLen - n = s'.payloadLen - n' ∧
    (s.be16 (s.hdrLen + 4) + n') % 2 ^ 16 = (s'.be16 (s'.hdrLen + 4) + n) % 2 ^ 16 ∧
    ∀ i < s.payloadLen - n, i ≠ 4 → i ≠ 5 → s.payloadCut pos n i = s'.payloadCut pos' n' i

inductive PayloadKept (s s' : Skb) : Prop
  | bytes (hlen : s'.len = s.len)
    (hbytes : ∀ i < s.payloadLen, s.MayBecome i (s.payload i) (s'.payload i))
  | relay (h : s.ethertype = ethPPppDisc ∨ s.ethertype = ethPPppSes)
    (hrelay : s.DiffersInRelayTag s')

end Skb

/-- The own source, and all else as it was but for the exceptions in the payload. -/
structure Faithful (cfg : BrCfg) (skb skb' : Skb) : Prop where
  src : skb'.get 6 6 = cfg.hwaddr
  dst : skb'.get 0 6 = skb.get 0 6
  tag : skb'.tag = skb.tag
  ethertype : skb'.ethertype = skb.ethertype
  payload : skb.PayloadKept skb'

section Move

variable {skb : Skb} {pos n : ℕ}

lemma byte_move (dst src n i : ℕ) : (skb.move dst src n).byte i
    = if dst ≤ i ∧ i < dst + n then skb.byte (src + (i - dst)) else skb.byte i := by
  have hiff : (skb.off + dst ≤ skb.off + i ∧ skb.off + i < skb.off + dst + n)
      ↔ (dst ≤ i ∧ i < dst + n) := by omega
  have hpos : skb.off + src + (skb.off + i - (skb.off + dst)) = skb.off + (src + (i - dst)) := by
    omega
  have hstore : (skb.move dst src n).byte i
      = if skb.off + dst ≤ skb.off + i ∧ skb.off + i < skb.off + dst + n then
          skb.buf (skb.off + src + (skb.off + i - (skb.off + dst))) else skb.buf (skb.off + i) :=
    store_load (skb.off + src)
  rw [hstore, hpos]
  exact if_congr hiff rfl rfl

lemma pull_eq (skb : Skb) (h : n ≤ skb.len) : (skb.pull n).off = skb.off + n ∧
    (skb.pull n).len = skb.len - n ∧ ∀ i, (skb.pull n).byte i = skb.byte (n + i) := by
  rw [pull, if_neg (not_lt.2 h)]
  exact ⟨rfl, rfl, fun i => congrArg skb.buf (add_assoc skb.off n i)⟩

lemma get_congr (h : ∀ i < n, skb'.byte (pos + i) = skb.byte (pos + i)) :
    skb'.get pos n = skb.get pos n := by
  refine load_congr fun i hi => ?_
  rw [add_assoc, add_assoc]
  exact h i hi

lemma be16_congr {pos' : ℕ} (h : ∀ i < 2, skb'.byte (pos' + i) = skb.byte (pos + i)) :
    skb'.be16 pos' = skb.be16 pos := by
  have h0 : skb'.byte pos' = skb.byte pos := h 0 (by omega)
  rw [be16, be16, h0, h 1 (by omega)]

lemma byte_movesUp (k : ℕ) (hk : k ≤ 6) (i : ℕ) :
    ((range k).foldl (fun s i => s.move (14 - i * 2) (10 - i * 2) 2) skb).byte i
      = if 16 - k * 2 ≤ i ∧ i < 16 then skb.byte (i - 4) else skb.byte i := by
  induction k generalizing i with
  | zero => rw [if_neg (by omega)]; rfl
  | succ k ih =>
    have ih := ih (by omega)
    rw [range_succ, foldl_append, foldl_cons, foldl_nil, byte_move, ih, ih]
    by_cases hnew : 14 - k * 2 ≤ i ∧ i < 14 - k * 2 + 2
    · have hsrc : 10 - k * 2 + (i - (14 - k * 2)) = i - 4 := by omega
      rw [if_pos hnew, hsrc, if_neg (by omega), if_pos (by omega)]
    · rw [if_neg hnew]
      exact if_congr (by omega) rfl rfl

lemma byte_movesDown (k i : ℕ) :
    ((range k).foldl (fun s i => s.move (i * 2) (4 + i * 2) 2) skb).byte i
      = if i < k * 2 then skb.byte (i + 4) else skb.byte i := by
  induction k generalizing i with
  | zero => rw [if_neg (by omega)]; rfl
  | succ k ih =>
    rw [range_succ, foldl_append, foldl_cons, foldl_nil, byte_move, ih, ih]
    by_cases hnew : k * 2 ≤ i ∧ i < k * 2 + 2
    · have hsrc : 4 + k * 2 + (i - k * 2) = i + 4 := by omega
      rw [if_pos hnew, hsrc, if_neg (by omega), if_pos (by omega)]
    · rw [if_neg hnew]
      exact if_congr (by omega) rfl rfl

lemma vlanStrip_eq (skb : Skb) (h : 4 ≤ skb.len) : (vlanStrip skb).off = skb.off + 4 ∧
    (vlanStrip skb).len = skb.len - 4 ∧
    ∀ i, (vlanStrip skb).byte i = if i < 12 then skb.byte i else skb.byte (i + 4) := by
  obtain ⟨hoff, hlen, hbyte⟩ := pull_eq (n := 4)
    ((range 6).foldl (fun s i => s.move (14 - i * 2) (10 - i * 2) 2) skb) h
  refine ⟨hoff, hlen, fun i => ?_⟩
  refine (hbyte i).trans ?_
  rw [byte_movesUp 6 le_rfl]
  by_cases hi : i < 12
  · rw [if_pos (by omega), if_pos hi, Nat.add_sub_cancel_left]
  · rw [if_neg (by omega), if_neg hi, Nat.add_comm]

lemma vlanRestore_eq (h : 4 ≤ skb.off) : (vlanRestore vlanHdr skb).off = skb.off - 4 ∧
      (vlanRestore vlanHdr skb).len = skb.len + 4 ∧
      (∀ i < 12, (vlanRestore vlanHdr skb).byte i = skb.byte i) ∧
      ∀ i, 12 ≤ i → (vlanRestore vlanHdr skb).byte (i + 4) = skb.byte i := by
  have hpush : ∀ i, (skb.push 4).byte (i + 4) = skb.byte i := by
    intro i
    have hpos : skb.off - 4 + (i + 4) = skb.off + i := by omega
    exact congrArg skb.buf hpos
  refine ⟨rfl, rfl, fun i hi => ?_, fun i hi => ?_⟩
  · rw [vlanRestore, byte_set_of_lt vlanHdr (by omega), putBe16, byte_set_of_lt _ hi,
      byte_movesDown, if_pos (by omega), hpush]
  · rw [vlanRestore, byte_set_of_le vlanHdr (by omega), putBe16, byte_set_of_le _ (by omega),
      byte_movesDown, if_neg (by omega), hpush]

end Move

def Skb.untag (s : Skb) : Skb := if s.tagged then vlanStrip s else s

/-- The frame that `NAT25_INSERT` is called for: it has the bytes of `skb` without the tag, and room
for the tag. -/
structure IsAsked (skb sk : Skb) : Prop where
  off : skb.tagged → 4 ≤ sk.off
  len : sk.len + skb.hdrLen = skb.len + 14
  byte : ∀ i < sk.len, sk.byte i = skb.byte (if i < 12 then i else i + (skb.hdrLen - 14))

section Asked

variable {cfg : BrCfg} {env : BrTxEnv} {skb sk : Skb} {s : BrExt}

lemma hdrLen_of_tagged (h : skb.tagged) : skb.hdrLen = 18 := if_pos h

lemma vlanStrip_eq_untag (skb : Skb) :
    (if decide (skb.protocol = ethP8021q) = true then vlanStrip skb else skb) = skb.untag := by
  simp
  rfl

lemma hdrLen_of_not_tagged (h : ¬ skb.tagged) : skb.hdrLen = 14 := if_neg h

lemma IsAsked.src (h : IsAsked skb sk) (hlen : skb.hdrLen ≤ skb.len) :
    sk.get 6 6 = skb.get 6 6 := by
  have hl := h.len
  refine get_congr fun i hi => ?_
  rw [h.byte (6 + i) (by omega), if_pos (by omega)]

lemma IsAsked.protocol (h : IsAsked skb sk) (hlen : skb.hdrLen ≤ skb.len) :
    sk.protocol = skb.ethertype := by
  have hl := h.len
  have hhdr : 14 ≤ skb.hdrLen := by
    rw [hdrLen]
    split_ifs <;> omega
  refine be16_congr fun i hi => ?_
  rw [h.byte (12 + i) (by omega), if_neg (by omega)]
  congr 1
  omega

lemma isAsked_untag (hlen : skb.hdrLen ≤ skb.len) : IsAsked skb skb.untag := by
  by_cases ht : skb.tagged
  · have hhdr := hdrLen_of_tagged ht
    obtain ⟨hoff, hl, hbyte⟩ := vlanStrip_eq skb (by omega)
    rw [untag, if_pos ht]
    refine ⟨fun _ => by omega, by omega, fun i _ => ?_⟩
    rw [hbyte i, hhdr]
    split_ifs <;> rfl
  · rw [untag, if_neg ht]
    refine ⟨fun h => absurd h ht, by rw [hdrLen_of_not_tagged ht], fun i _ => ?_⟩
    rw [hdrLen_of_not_tagged ht]
    split_ifs <;> rfl

lemma rtwSkbCopy_eq (h : rtwSkbCopy env sk = some sk') :
    sk'.off = sk.off ∧ sk'.len = sk.len ∧ ∀ i < sk.len, sk'.byte i = sk.byte i := by
  obtain ⟨⟨behind, tailroom⟩, -, rfl⟩ := map_eq_some_iff.1 h
  exact ⟨rfl, rfl, fun i hi => if_pos (Nat.add_lt_add_left hi sk.off)⟩

lemma IsAsked.copy (h : IsAsked skb sk) (hlen : skb.hdrLen ≤ skb.len) (vlanHdr : Octets 2)
    (hcopy : rtwSkbCopy env (if skb.tagged then vlanRestore vlanHdr sk else sk) = some sk') :
    IsAsked skb (if skb.tagged then vlanStrip sk' else sk') := by
  obtain ⟨hoff, hl, hbyte⟩ := rtwSkbCopy_eq hcopy
  split_ifs at hoff hl hbyte ⊢ with ht
  · obtain ⟨hoff₁, hl₁, hlo, hhi⟩ := vlanRestore_eq vlanHdr (h.off ht)
    obtain ⟨hoff₂, hl₂, hbyte₂⟩ := vlanStrip_eq sk' (by omega)
    have hle := h.len
    rw [hdrLen_of_tagged ht] at hle hlen
    refine ⟨fun _ => by omega, by rw [hdrLen_of_tagged ht]; omega, fun i hi => ?_⟩
    rw [← h.byte i (by omega), hbyte₂ i]
    by_cases hi12 : i < 12
    · rw [if_pos hi12, hbyte i (by omega), hlo i hi12]
    · rw [if_neg hi12, hbyte (i + 4) (by omega), hhi i (by omega)]
  · refine ⟨fun h' => absurd h' ht, by rw [hl]; exact h.len, fun i hi => ?_⟩
    rw [hbyte i (by omega), h.byte i (by omega)]

lemma vlanRestore_src (h : 4 ≤ sk.off) : (vlanRestore vlanHdr sk).get 6 6 = sk.get 6 6 :=
  get_congr fun i hi => (vlanRestore_eq vlanHdr h).2.2.1 (6 + i) (by omega)

lemma brCopy_isAsked (h : IsAsked skb sk) (hlen : skb.hdrLen ≤ skb.len) (vlanHdr : Octets 2)
    (hcopy : brCopy cfg env (decide (skb.protocol = ethP8021q)) vlanHdr sk s = some (some sk')) :
    IsAsked skb sk' := by
  simp [brCopy] at hcopy
  split at hcopy
  · cases hcopy
  next res _ _ _ =>
    by_cases hres : res = 0
    · rw [if_pos hres] at hcopy
      obtain ⟨sk₁, hsk₁, hsk'⟩ := map_eq_some_iff.1 (some.inj hcopy)
      rw [← hsk']
      exact h.copy hlen vlanHdr hsk₁
    · rw [if_neg hres] at hcopy
      rwa [← some.inj (some.inj hcopy)]

lemma byte_dhcpFlagBcast (hi : i < 14) : (dhcpFlagBcast cfg sk).byte i = sk.byte i := by
  simp only [dhcpFlagBcast]
  split_ifs
  · rfl
  · simp only [setBroadcastFlag, putLe16]
    rw [byte_set_of_lt _ (by omega), byte_set_of_lt _ (by omega)]
  · rfl
  · rfl

lemma off_dhcpFlagBcast : (dhcpFlagBcast cfg sk).off = sk.off := by
  simp only [dhcpFlagBcast]
  split_ifs <;> rfl

lemma brRewrite_src (cfg : BrCfg) (isVlanTag : Bool) (vlanHdr : Octets 2)
    (h : isVlanTag = true → 4 ≤ sk.off) :
    (brRewrite cfg isVlanTag vlanHdr sk).get 6 6 = cfg.hwaddr := by
  have hsrc : (dhcpFlagBcast cfg (sk.set 6 cfg.hwaddr)).get 6 6 = cfg.hwaddr := by
    rw [get_congr fun i hi => byte_dhcpFlagBcast (by omega), get_set_self]
  rw [brRewrite]
  split_ifs with hv
  · rw [vlanRestore_src vlanHdr (by rw [off_dhcpFlagBcast]; exact h hv), hsrc]
  · exact hsrc

lemma brCheckSa_own (h : sk.get 6 6 = cfg.hwaddr) : brCheckSa cfg sk s = (-1, sk, s) := by
  simp [brCheckSa, h]

end Asked

def IpxRefused (skb : Skb) : Prop :=
  match ipxKind skb with
  | .ipx _ => False
  | .aarp pos => skb.byte (pos + 4) ≠ 6 ∨ skb.byte (pos + 5) ≠ 4
  | .ddp _ => False
  | .none => True
  | .unknown => True

/-- Discovery frames other than PADI and PADR, and those that the relay tag could not be added
to. -/
def PppoeRefused (env : BrEnv) (skb : Skb) (s : BrExt) : Prop :=
  skb.be16 16 = 0 ∧ (skb.byte 15 = padiCode ∨ skb.byte 15 = padrCode →
    s.addPPPoETag = true ∧ (addRelayTag env.stack skb).1 = false)

/-- The frames that get -1: malformed ones, some of PPPoE, and unknown protocols. -/
def InsertRefused (cfg : BrCfg) (env : BrEnv) (skb : Skb) (s : BrExt) : Prop :=
  if skb.protocol = ethPIp then skb.len ≤ (skb.byte 14).toNat % 16 * 4
  else if skb.protocol = ethPArp then skb.be16 16 ≠ ethPIp
  else if cfg.ipx ∧ (skb.protocol = ethPIpx ∨ skb.protocol = ethPAtalk ∨
      skb.protocol = ethPAarp) then IpxRefused skb
  else if skb.protocol = ethPPppDisc ∨ skb.protocol = ethPPppSes then PppoeRefused env skb s
  else if skb.protocol = 0x888E then False
  else if skb.protocol = 0xE2AE ∨ skb.protocol = 0xE2AF then False
  else if skb.protocol = ethPIpv6 then (skb.len + 2 ^ 32 - 14) % 2 ^ 32 ≤ 40
  else True

structure RelayCut (pos n : ℕ) (skb skb' : Skb) : Prop where
  lo : 20 ≤ pos
  hi : pos + n ≤ skb.len
  type : skb.be16 pos = 0x0110
  size : n = 4 + skb.be16 (pos + 2)
  small : n ≤ 2 ^ 16
  len : skb'.len = skb.len - n
  length : skb'.be16 18 = (skb.be16 18 + 2 ^ 16 - n) % 2 ^ 16
  byte : ∀ i < skb'.len, i ≠ 18 → i ≠ 19 → skb'.byte i = skb.byte (if i < pos then i else i + n)

section Relay

variable {skb : Skb}

lemma nat25FindPppoeTag_some {type length pos q : ℕ}
    (h : nat25FindPppoeTag skb type length pos = some q) : 20 ≤ q ∧ skb.be16 q = type := by
  fun_induction nat25FindPppoeTag skb type length pos with
  | case1 pos _ htype =>
    cases h
    exact ⟨by omega, htype⟩
  | case2 pos _ _ ih => exact ih h
  | case3 => cases h

lemma skbPullAndMerge_eq {src len : ℕ} (h : skbPullAndMerge skb src len = some skb') :
    src + len ≤ skb.len ∧ skb'.off = skb.off ∧ skb'.len = skb.len - len ∧
      ∀ i < skb'.len, skb'.byte i = skb.byte (if i < src then i else i + len) := by
  unfold skbPullAndMerge at h
  split_ifs at h with hlen
  cases h
  split_ifs with htail
  · refine ⟨by omega, rfl, rfl, fun i hi => ?_⟩
    have hi' : i < skb.len - len := hi
    refine (byte_move src (src + len) (skb.len - (src + len)) i).trans ?_
    by_cases hsrc : i < src
    · rw [if_neg (by omega), if_pos hsrc]
    · have hpos : src + len + (i - src) = i + len := by omega
      rw [if_pos (by omega), if_neg hsrc, hpos]
  · refine ⟨by omega, rfl, rfl, fun i hi => ?_⟩
    have hi' : i < skb.len - len := hi
    rw [if_pos (by omega)]
    rfl

/-- The length of the tag is added with its bytes swapped. -/
lemma nat25AddPppoeTag_eq {n : ℕ} {stack : ℕ → UInt8} {client : Octets 6} {old : Octets n}
    (hn : n ≤ 28) (h : nat25AddPppoeTag skb (relayTag stack client old) = some skb') :
    skb'.off = skb.off ∧ skb.len + 256 * (8 + n) ≤ skb'.len := by
  have hhi : relayTag stack client old 2 = ofNat ((8 + n) / 256) := rfl
  have hlo : relayTag stack client old 3 = ofNat (8 + n) := rfl
  simp only [nat25AddPppoeTag, hhi, hlo, toNat_ofNat'] at h
  split_ifs at h
  cases h
  refine ⟨rfl, ?_⟩
  simp only [Skb.set, putBe16, move, put]
  omega

lemma byte_set_add {n : ℕ} (pos : ℕ) (v : Octets n) (i : Fin n) :
    (skb.set pos v).byte (pos + i) = v i := by
  have hstore : store skb.buf (skb.off + pos) v (skb.off + pos + i) = v i := store_add v i
  rwa [add_assoc] at hstore

lemma be16_putBe16 (pos v : ℕ) : (skb.putBe16 pos v).be16 pos = v % 2 ^ 16 := by
  have hhi : (skb.putBe16 pos v).byte pos = ofNat (v / 256) := byte_set_add pos _ 0
  have hlo : (skb.putBe16 pos v).byte (pos + 1) = ofNat v := byte_set_add pos _ 1
  rw [be16, hhi, hlo, toNat_ofNat', toNat_ofNat']
  omega

lemma addRelayTag_cases (stack : ℕ → UInt8) (skb : Skb) :
    (addRelayTag stack skb).2.off = skb.off ∧
      ((addRelayTag stack skb).1 = false → (addRelayTag stack skb).2 = skb ∨
        ∃ pos n, RelayCut pos n skb (addRelayTag stack skb).2) ∧
      ((addRelayTag stack skb).1 = true → skb.len + 2044 ≤ (addRelayTag stack skb).2.len) := by
  unfold addRelayTag
  rcases hfind : nat25FindPppoeTag skb 0x0110 (skb.be16 18) 0 with _ | pos
  · rcases hadd : nat25AddPppoeTag skb (relayTag stack (skb.get 6 6) ![]) with _ | skb'
    · exact ⟨rfl, fun _ => .inl rfl, nofun⟩
    · obtain ⟨hoff, hlen⟩ := nat25AddPppoeTag_eq (by omega) hadd
      exact ⟨hoff, nofun, fun _ => by simp only; omega⟩
  obtain ⟨hlo, htype⟩ := nat25FindPppoeTag_some hfind
  simp only
  by_cases hbig : 40 < skb.be16 (pos + 2) + 4 + 2 + 6
  · rw [if_pos hbig]
    exact ⟨rfl, fun _ => .inl rfl, nofun⟩
  rw [if_neg hbig]
  rcases hmerge : skbPullAndMerge skb pos (4 + skb.be16 (pos + 2)) with _ | sk
  · exact ⟨rfl, fun _ => .inl rfl, nofun⟩
  obtain ⟨hhi, hoff, hlen, hbyte⟩ := skbPullAndMerge_eq hmerge
  have hfield : sk.be16 18 = skb.be16 18 := by
    refine be16_congr fun i hi => ?_
    rw [hbyte (18 + i) (by omega), if_pos (by omega)]
  have hcut : RelayCut pos (4 + skb.be16 (pos + 2)) skb
      (sk.putBe16 18 (sk.be16 18 + 2 ^ 16 - 4 - skb.be16 (pos + 2))) := by
    refine ⟨hlo, hhi, htype, rfl, by omega, hlen, ?_, fun i hi h18 h19 => ?_⟩
    · rw [be16_putBe16, hfield, Nat.sub_sub]
    rw [← hbyte i hi, putBe16]
    rcases Nat.lt_or_gt_of_ne h18 with hlt | hgt
    · exact byte_set_of_lt _ hlt
    · exact byte_set_of_le _ (by omega)
  have hoff' : (sk.putBe16 18 (sk.be16 18 + 2 ^ 16 - 4 - skb.be16 (pos + 2))).off = skb.off := hoff
  simp only
  generalize sk.putBe16 18 _ = sk₁ at hcut hoff' ⊢
  rcases hadd : nat25AddPppoeTag sk₁ (relayTag stack (sk₁.get 6 6)
      (skb.get (pos + 4) (skb.be16 (pos + 2)))) with _ | sk'
  · exact ⟨hoff', fun _ => .inr ⟨pos, _, hcut⟩, nofun⟩
  · obtain ⟨hoff₁, hlen₁⟩ := nat25AddPppoeTag_eq (by omega) hadd
    have hlen' := hcut.len
    exact ⟨hoff₁.trans hoff', nofun, fun _ => by simp only; omega⟩

end Relay

/-- The frame is as it was, or a PPPoE frame without its relay tag. -/
def CutFrom (skb skb' : Skb) : Prop :=
  skb' = skb ∨ (skb.protocol = ethPPppDisc ∨ skb.protocol = ethPPppSes) ∧
    ∃ pos n, RelayCut pos n skb skb'

inductive Nat25InsertMove (refuses : Prop) (skb : Skb) : Option Nat25Result → Prop
  | refused (skb' : Skb) (s' : BrExt) (h : refuses) (hcut : CutFrom skb skb') :
    Nat25InsertMove refuses skb (some (-1, skb', s'))
  | accepted (skb' : Skb) (s' : BrExt) (h : ¬ refuses) (hoff : skb'.off = skb.off) :
    Nat25InsertMove refuses skb (some (0, skb', s'))
  | busy (s' : BrExt) (h : ¬ refuses) (hip : skb.protocol ≠ ethPIp) :
    Nat25InsertMove refuses skb (some (-2, skb, s'))
  | hangs (h : ¬ refuses) (hip : skb.protocol ≠ ethPIp) : Nat25InsertMove refuses skb none

section Insert

variable {cfg : BrCfg} {env : BrEnv} {skb : Skb} {s : BrExt}

lemma nat25HandleIp_move : Nat25InsertMove (skb.len ≤ (skb.byte 14).toNat % 16 * 4) skb
    (some (nat25HandleIp cfg env .insert skb s)) := by
  simp only [nat25HandleIp]
  split_ifs with h hzero
  · exact .refused skb s h (.inl rfl)
  · exact .accepted skb s h rfl
  · exact .accepted skb _ h rfl

lemma nat25HandleArp_move : Nat25InsertMove (skb.be16 16 ≠ ethPIp) skb
    (some (nat25HandleArp cfg env .insert skb s)) := by
  unfold nat25HandleArp
  split_ifs with h
  · exact .refused skb s h (.inl rfl)
  · exact .accepted _ _ h rfl

lemma nat25HandleIpx_move :
    Nat25InsertMove (IpxRefused skb) skb (some (nat25HandleIpx cfg env .insert skb s)) := by
  unfold nat25HandleIpx IpxRefused
  cases ipxKind skb with
  | ipx pos =>
    simp only [nat25HandleIpxNet]
    split_ifs <;> exact .accepted _ _ not_false rfl
  | aarp pos =>
    simp only [nat25HandleAarp]
    split_ifs with h
    · exact .refused skb s h (.inl rfl)
    · exact .accepted _ _ h rfl
  | ddp pos => exact .accepted _ _ not_false rfl
  | none | unknown => exact .refused skb s trivial (.inl rfl)

lemma nat25InsertPppoe_move (hp : skb.protocol = ethPPppDisc ∨ skb.protocol = ethPPppSes) :
    Nat25InsertMove (PppoeRefused env skb s) skb (some (nat25InsertPppoe cfg env skb s)) := by
  have hip : skb.protocol ≠ ethPIp := by
    rcases hp with hp | hp <;> rw [hp] <;> decide
  unfold nat25InsertPppoe PppoeRefused
  by_cases hsid : skb.be16 16 = 0
  · rw [if_pos hsid]
    by_cases hcode : skb.byte 15 = padiCode ∨ skb.byte 15 = padrCode
    · rw [if_pos hcode]
      by_cases hadd : s.addPPPoETag = true
      · rw [if_pos hadd]
        obtain ⟨hoff, hfail, -⟩ := addRelayTag_cases env.stack skb
        rcases hres : addRelayTag env.stack skb with ⟨_ | _, skb'⟩
        · rw [hres] at hfail
          exact .refused skb' s ⟨hsid, fun _ => ⟨hadd, rfl⟩⟩
            ((hfail rfl).imp_right fun hcut => ⟨hp, hcut⟩)
        · rw [hres] at hoff
          exact .accepted skb' s (by simp [hcode]) hoff
      · rw [if_neg hadd]
        by_cases hbusy : s.pppoeConnectionInProgress ≠ 0 ∧ rtwMemcmp (skb.get 6 6) s.pppoeAddr
        · rw [if_pos hbusy]
          exact .busy s (by simp [hadd, hcode]) hip
        · rw [if_neg hbusy]
          exact .accepted skb _ (by simp [hadd, hcode]) rfl
    · rw [if_neg hcode]
      exact .refused skb s ⟨hsid, fun h => absurd h hcode⟩ (.inl rfl)
  · rw [if_neg hsid, apply_ite some]
    refine iteInduction (fun _ => ?_) fun _ => ?_ <;> exact .accepted skb _ (by simp [hsid]) rfl

lemma off_updateNdLinkLayerAddr {pos len : ℕ} {mac : Octets 6} {b : Bool}
    (h : updateNdLinkLayerAddr skb pos len mac = some (b, skb')) : skb'.off = skb.off := by
  unfold updateNdLinkLayerAddr at h
  split at h
  · cases h
    rfl
  · split_ifs at h
    · cases h
      rfl
    · split at h <;> cases h <;> rfl

lemma nat25HandleIpv6_move (hp : skb.protocol = ethPIpv6) :
    Nat25InsertMove ((skb.len + 2 ^ 32 - 14) % 2 ^ 32 ≤ 40) skb
      (nat25HandleIpv6 cfg env .insert skb s) := by
  have hip : skb.protocol ≠ ethPIp := by rw [hp]; decide
  simp only [nat25HandleIpv6, nat25InsertIpv6]
  split_ifs with hlen
  · exact .refused skb s hlen (.inl rfl)
  · rcases hnd : updateNdLinkLayerAddr skb 54 (skb.len - 54) cfg.hwaddr with _ | ⟨_ | _, skb'⟩
    · exact .hangs hlen hip
    · exact .accepted skb' _ hlen (off_updateNdLinkLayerAddr hnd)
    · have hoff : skb'.off = skb.off := off_updateNdLinkLayerAddr hnd
      exact .accepted _ _ hlen hoff
  · exact .accepted skb _ hlen rfl
  · exact .accepted skb _ hlen rfl

lemma nat25DbHandle_move (cfg : BrCfg) (env : BrEnv) (skb : Skb) (s : BrExt) :
    Nat25InsertMove (InsertRefused cfg env skb s) skb (nat25DbHandle cfg env .insert skb s) := by
  unfold nat25DbHandle InsertRefused
  split_ifs with hip harp hipx hppp heap hcm hv6
  · exact nat25HandleIp_move
  · exact nat25HandleArp_move
  · exact nat25HandleIpx_move
  · exact nat25InsertPppoe_move hppp
  · exact .accepted skb s not_false rfl
  · exact .accepted skb s not_false rfl
  · exact nat25HandleIpv6_move hv6
  · exact .refused skb s trivial (.inl rfl)

end Insert

section Tx

variable (cfg : BrCfg) (env : BrTxEnv) (skb : Skb) (s : BrExt)

def brDirect : Prop := brShortcut env skb s ≠ none ∨ (brScdb cfg env skb.untag s).1 = false

/-- The frame that `NAT25_INSERT` is called for, if it is, and the state. -/
def brAsked : Option (Skb × BrExt) :=
  match brShortcut env skb s with
  | some _ => none
  | none =>
    match brScdb cfg env skb.untag s with
    | (false, _) => none
    | (true, s) =>
      match brCopy cfg env (decide (skb.protocol = ethP8021q)) (skb.get 14 2) skb.untag s with
      | some (some sk) => if env.skbLinearize then some (sk, s) else none
      | _ => none

inductive BrTxMove : Option Nat25Result → Prop
  | direct (skb' : Skb) (s' : BrExt) (h : brDirect cfg env skb s)
    (hsrc : skb'.get 6 6 = cfg.hwaddr) : BrTxMove (some (-1, skb', s'))
  | accepted (a : Skb × BrExt) (skb' : Skb) (s' : BrExt) (h : brAsked cfg env skb s = some a)
    (hacc : ¬ InsertRefused cfg env.toBrEnv a.1 a.2) (hsrc : skb'.get 6 6 = cfg.hwaddr) :
    BrTxMove (some (-1, skb', s'))
  | refused (a : Skb × BrExt) (skb' : Skb) (s' : BrExt) (h : brAsked cfg env skb s = some a)
    (href : InsertRefused cfg env.toBrEnv a.1 a.2) (hcut : CutFrom a.1 skb') :
    BrTxMove (some (0, skb', s'))
  | dropped (skb' : Skb) (s' : BrExt) (hd : ¬ brDirect cfg env skb s)
    (h : ∀ a ∈ brAsked cfg env skb s, ¬ InsertRefused cfg env.toBrEnv a.1 a.2 ∧
      skb.ethertype ≠ ethPIp) (hsrc : skb'.get 6 6 = skb.get 6 6) : BrTxMove (some (-1, skb', s'))
  | hangs (hd : ¬ brDirect cfg env skb s)
    (h : ∀ a ∈ brAsked cfg env skb s, ¬ InsertRefused cfg env.toBrEnv a.1 a.2 ∧
      skb.ethertype ≠ ethPIp) : BrTxMove none

end Tx

section Move

variable {cfg : BrCfg} {env : BrTxEnv} {skb : Skb} {s : BrExt}

lemma brAsked_of_direct (h : brDirect cfg env skb s) : brAsked cfg env skb s = none := by
  unfold brAsked
  split
  · rfl
  next hshort =>
    rcases h with h | h
    · exact absurd hshort h
    split
    · rfl
    next hscdb =>
      rw [hscdb] at h
      cases h

lemma brAsked_isAsked {a : Skb × BrExt} (hlen : skb.hdrLen ≤ skb.len)
    (h : brAsked cfg env skb s = some a) : IsAsked skb a.1 := by
  unfold brAsked at h
  split at h
  · cases h
  split at h
  · cases h
  split at h
  next sk hcopy =>
    split_ifs at h
    rw [← some.inj h]
    exact brCopy_isAsked (isAsked_untag hlen) hlen _ hcopy
  · cases h

lemma rtwBrClientTx_move (cfg : BrCfg) (env : BrTxEnv) (s : BrExt) (hlen : skb.hdrLen ≤ skb.len) :
    BrTxMove cfg env skb s (rtwBrClientTx cfg env skb s) := by
  have hask := isAsked_untag hlen
  unfold rtwBrClientTx
  simp only [vlanStrip_eq_untag]
  rcases hshort : brShortcut env skb s with _ | entry
  swap
  · have hown : (skb.set 6 cfg.hwaddr).get 6 6 = cfg.hwaddr := get_set_self cfg.hwaddr
    simp only [brCheckSa_own hown]
    exact .direct _ _ (.inl (by rw [hshort]; nofun)) hown
  rcases hscdb : brScdb cfg env skb.untag s with ⟨_ | _, s₁⟩
  · have hown := brRewrite_src cfg (decide (skb.protocol = ethP8021q)) (skb.get 14 2)
      fun ht => hask.off (of_decide_eq_true ht)
    simp only [brCheckSa_own hown]
    exact .direct _ _ (.inr (by rw [hscdb])) hown
  have hd : ¬ brDirect cfg env skb s := by
    rintro (h | h)
    · exact h hshort
    · rw [hscdb] at h
      cases h
  have hasked : brAsked cfg env skb s
      = match brCopy cfg env (decide (skb.protocol = ethP8021q)) (skb.get 14 2) skb.untag s₁ with
        | some (some sk) => if env.skbLinearize then some (sk, s₁) else none
        | _ => none := by
    simp only [brAsked, hshort, hscdb]
  simp only
  rcases hcopy : brCopy cfg env (decide (skb.protocol = ethP8021q)) (skb.get 14 2) skb.untag s₁
    with _ | _ | sk <;> rw [hcopy] at hasked
  · exact .hangs hd (by simp [hasked])
  · refine .dropped _ _ hd (by simp [hasked]) ?_
    split_ifs with ht
    · rw [vlanRestore_src _ (hask.off (of_decide_eq_true ht)), hask.src hlen]
    · exact hask.src hlen
  have hsk := brCopy_isAsked hask hlen _ hcopy
  simp only at hasked ⊢
  by_cases hlin : env.skbLinearize = true
  swap
  · rw [if_neg hlin] at hasked ⊢
    exact .dropped _ _ hd (by simp [hasked]) (hsk.src hlen)
  rw [if_pos hlin] at hasked ⊢
  have hproto := hsk.protocol hlen
  have hmove := nat25DbHandle_move cfg env.toBrEnv sk s₁
  generalize nat25DbHandle cfg env.toBrEnv .insert sk s₁ = res at hmove ⊢
  cases hmove with
  | refused skb' s' href hcut => exact .refused _ skb' s' hasked href hcut
  | accepted skb' s' hacc hoff =>
    have hroom : decide (skb.protocol = ethP8021q) = true → 4 ≤ skb'.off := by
      intro ht
      rw [hoff]
      exact hsk.off (of_decide_eq_true ht)
    have hown := brRewrite_src cfg (decide (skb.protocol = ethP8021q)) (skb.get 14 2) hroom
    simp only [brCheckSa_own hown]
    exact .accepted _ _ _ hasked hacc hown
  | busy s' hacc hip =>
    refine .dropped sk s' hd (fun a ha => ?_) (hsk.src hlen)
    rw [hasked] at ha
    cases ha
    exact ⟨hacc, by rwa [← hproto]⟩
  | hangs hacc hip =>
    refine .hangs hd fun a ha => ?_
    rw [hasked] at ha
    cases ha
    exact ⟨hacc, by rwa [← hproto]⟩

end Move

/-- The source address of an IPv4 frame is written: by the short cut, for an entry of the short
cut, or after an insert. -/
def BrRewrites (cfg : BrCfg) (env : BrTxEnv) (skb : Skb) (s : BrExt) : Prop :=
  brDirect cfg env skb s ∨ ∃ a ∈ brAsked cfg env skb s, ¬ InsertRefused cfg env.toBrEnv a.1 a.2

/-- The frame of a call that returns 0 is faithful, and an IPv4 frame that is rewritten is sent. -/
def BrTxFaithful (cfg : BrCfg) (env : BrTxEnv) (skb : Skb) (s : BrExt) : Prop :=
  ∀ ret skb' s', rtwBrClientTx cfg env skb s = some (ret, skb', s') →
    (ret = 0 → Faithful cfg skb skb') ∧
      (skb.ethertype = ethPIp → BrRewrites cfg env skb s → ret ≠ -1)

/-- No IPv4 frame is rewritten, and one that is refused has the address already and no tag. -/
structure BrTxOK (cfg : BrCfg) (env : BrTxEnv) (skb : Skb) (s : BrExt) : Prop where
  ip : skb.ethertype = ethPIp → ¬ BrRewrites cfg env skb s
  refused : ∀ a ∈ brAsked cfg env skb s, InsertRefused cfg env.toBrEnv a.1 a.2 →
    skb.get 6 6 = cfg.hwaddr ∧ ¬ skb.tagged

section Faithful

variable {cfg : BrCfg} {env : BrTxEnv} {skb sk : Skb} {s : BrExt} {pos n : ℕ}

lemma CutFrom.header (hcut : CutFrom sk skb') (hi : i < 14) : skb'.byte i = sk.byte i := by
  rcases hcut with rfl | ⟨-, pos, n, h⟩
  · rfl
  have hlen := h.len
  have hhi := h.hi
  have hlo := h.lo
  rw [h.byte i (by omega) (by omega) (by omega), if_pos (by omega)]

lemma CutFrom.src (hcut : CutFrom sk skb') : sk.get 6 6 = skb'.get 6 6 :=
  get_congr fun i hi => (hcut.header (by omega)).symm

lemma IsAsked.byte_of_not_tagged (h : IsAsked skb sk) (ht : ¬ skb.tagged) (hi : i < sk.len) :
    sk.byte i = skb.byte i := by
  rw [h.byte i hi, hdrLen_of_not_tagged ht]
  split_ifs <;> rfl

lemma RelayCut.differs (h : RelayCut pos n sk skb') (hask : IsAsked skb sk) (ht : ¬ skb.tagged)
    (ht' : ¬ skb'.tagged) : skb.DiffersInRelayTag skb' := by
  have hhdr := hdrLen_of_not_tagged ht
  have hhdr' := hdrLen_of_not_tagged ht'
  have hask_len := hask.len
  have hlo := h.lo
  have hhi := h.hi
  have hlen := h.len
  have hsmall := h.small
  have hsize := h.size
  have hb : ∀ i, i + 1 < sk.len → skb.be16 i = sk.be16 i := by
    intro i hi
    refine (be16_congr fun j hj => ?_).symm
    exact hask.byte_of_not_tagged ht (by omega)
  have hpay : skb.payloadLen = sk.len - 14 := by
    rw [payloadLen]
    omega
  have hpay' : skb'.payloadLen = skb'.len - 14 := by rw [payloadLen, hhdr']
  have hpos : 14 + (pos - 14) = pos := by omega
  refine ⟨pos - 14, n, 0, 0, .inr ⟨by omega, ?_, ?_, by omega⟩, .inl rfl, by omega, ?_, ?_⟩
  · rw [hhdr, hpos, hb pos (by omega), h.type]
  · rw [hhdr, hpos, hb (pos + 2) (by omega), ← hsize]
  · rw [hhdr, hhdr', hb 18 (by omega), h.length]
    omega
  intro i hi h4 h5
  have hwhole : skb'.payloadCut 0 0 i = skb'.byte (14 + i) := by
    rw [payloadCut, payload, hhdr', if_neg (not_lt_zero i), add_zero]
  rw [hwhole, payloadCut, payload, hhdr, h.byte (14 + i) (by omega) (by omega) (by omega)]
  by_cases hcut : i < pos - 14
  · rw [if_pos hcut, if_pos (by omega), hask.byte_of_not_tagged ht (by omega)]
  · rw [if_neg hcut, if_neg (by omega), hask.byte_of_not_tagged ht (by omega), add_assoc]

section

variable (hlen : skb.hdrLen ≤ skb.len) (hask : IsAsked skb sk) (hcut : CutFrom sk skb')
include hlen hask hcut

lemma faithful_of_refused
    (hown : skb.get 6 6 = cfg.hwaddr) (ht : ¬ skb.tagged) : Faithful cfg skb skb' := by
  have hhdrLen := hdrLen_of_not_tagged ht
  have hask_len := hask.len
  have hhdr : ∀ i < 14, skb'.byte i = skb.byte i := by
    intro i hi
    rw [hcut.header hi, hask.byte_of_not_tagged ht (by omega)]
  have hproto : skb'.protocol = skb.protocol := be16_congr fun i hi => hhdr (12 + i) (by omega)
  have ht' : ¬ skb'.tagged := by rwa [tagged, hproto]
  have hhdrLen' := hdrLen_of_not_tagged ht'
  refine ⟨?_, get_congr fun i hi => hhdr (0 + i) (by omega), ?_, ?_, ?_⟩
  · rw [← hown]
    exact get_congr fun i hi => hhdr (6 + i) (by omega)
  · rw [Skb.tag, Skb.tag, if_neg ht, if_neg ht']
  · rwa [Skb.ethertype, Skb.ethertype, hhdrLen, hhdrLen']
  rcases hcut with rfl | ⟨hp, pos, n, hcut⟩
  · refine .bytes (by omega) fun i hi => ?_
    rw [payloadLen] at hi
    have hbyte : skb'.payload i = skb.payload i := by
      rw [payload, payload, hhdrLen, hhdrLen']
      exact hask.byte_of_not_tagged ht (by omega)
    rw [hbyte]
    exact .kept i _
  · rw [hask.protocol hlen] at hp
    exact .relay hp (hcut.differs hask ht ht')

lemma not_tagged_of_faithful (h : Faithful cfg skb skb') : ¬ skb.tagged := by
  intro ht
  have hhdrLen := hdrLen_of_tagged ht
  have hask_len := hask.len
  have ht' : skb'.tagged := by
    by_contra ht'
    have htag := h.tag
    rw [tag, tag, if_pos ht, if_neg ht'] at htag
    cases htag
  have hproto : sk.protocol = ethP8021q := by
    rw [← show skb'.protocol = ethP8021q from ht']
    exact be16_congr fun i hi => (hcut.header (by omega)).symm
  have hnot : ¬ (sk.protocol = ethPPppDisc ∨ sk.protocol = ethPPppSes) := by
    rw [hproto]
    decide
  rcases hcut with rfl | ⟨hp, -⟩
  · rcases h.payload with ⟨hl, -⟩ | ⟨hp, -⟩
    · omega
    · rw [← hask.protocol hlen] at hp
      exact hnot hp
  · exact hnot hp

end

lemma not_brRewrites_of_refused {a : Skb × BrExt} (h : brAsked cfg env skb s = some a)
    (href : InsertRefused cfg env.toBrEnv a.1 a.2) : ¬ BrRewrites cfg env skb s := by
  rintro (hd | ⟨a', ha', hacc⟩)
  · rw [brAsked_of_direct hd] at h
    cases h
  · cases h.symm.trans ha'
    exact hacc href

theorem brClientTx_faithful_iff (hlen : skb.hdrLen ≤ skb.len) :
    BrTxFaithful cfg env skb s ↔ BrTxOK cfg env skb s := by
  have hmove := rtwBrClientTx_move cfg env s hlen
  unfold BrTxFaithful
  generalize rtwBrClientTx cfg env skb s = res at hmove ⊢
  constructor
  · intro hfaith
    refine ⟨fun hip hrewritten => ?_, fun a ha href => ?_⟩
    · cases hmove with
      | direct skb' s' h hsrc | accepted a skb' s' h hacc hsrc =>
        exact (hfaith _ _ _ rfl).2 hip hrewritten rfl
      | refused a skb' s' h href hcut => exact not_brRewrites_of_refused h href hrewritten
      | dropped skb' s' hd h hsrc | hangs hd h =>
        rcases hrewritten with hd' | ⟨a', ha', -⟩
        · exact hd hd'
        · exact (h a' ha').2 hip
    · cases hmove with
      | direct skb' s' h hsrc =>
        rw [brAsked_of_direct h] at ha
        cases ha
      | accepted a' skb' s' h hacc hsrc =>
        cases h.symm.trans ha
        exact absurd href hacc
      | refused a' skb' s' h _ hcut =>
        cases h.symm.trans ha
        have hask := brAsked_isAsked hlen h
        have hskb' := (hfaith _ _ _ rfl).1 rfl
        refine ⟨?_, not_tagged_of_faithful hlen hask hcut hskb'⟩
        rw [← hskb'.src, ← hask.src hlen]
        exact hcut.src
      | dropped skb' s' hd h hsrc | hangs hd h => exact absurd href (h a ha).1
  · rintro hok ret skb' s' rfl
    refine ⟨fun h0 => ?_, fun hip hrewritten => absurd hrewritten (hok.ip hip)⟩
    cases hmove with
    | direct | accepted | dropped => cases h0
    | refused a _ _ h href hcut =>
      obtain ⟨hown, ht⟩ := hok.refused a h href
      exact faithful_of_refused hlen (brAsked_isAsked hlen h) hcut hown ht

/-- The frame of another host has the own address afterwards exactly if it is rewritten. -/
lemma brRewrites_iff_src (hlen : skb.hdrLen ≤ skb.len) (hip : skb.ethertype = ethPIp)
    (hne : skb.get 6 6 ≠ cfg.hwaddr) {ret : ℤ} {skb' : Skb} {s' : BrExt}
    (h : rtwBrClientTx cfg env skb s = some (ret, skb', s')) :
    BrRewrites cfg env skb s ↔ skb'.get 6 6 = cfg.hwaddr := by
  have hmove := rtwBrClientTx_move cfg env s hlen
  rw [h] at hmove
  cases hmove with
  | direct _ _ hd hsrc => exact iff_of_true (.inl hd) hsrc
  | accepted a _ _ hasked hacc hsrc => exact iff_of_true (.inr ⟨a, hasked, hacc⟩) hsrc
  | refused a _ _ hasked href hcut =>
    refine iff_of_false (not_brRewrites_of_refused hasked href) fun hown => hne ?_
    rw [← hown, ← (brAsked_isAsked hlen hasked).src hlen]
    exact hcut.src
  | dropped _ _ hd hno hsrc =>
    refine iff_of_false ?_ fun hown => hne (hsrc.symm.trans hown)
    rintro (hd' | ⟨a, ha, -⟩)
    · exact hd hd'
    · exact (hno a ha).2 hip

end Faithful

def sampleBrTxEnv : BrTxEnv :=
  { sampleBrEnv 1000 1 with
    brPort := true
    skbCopy := none
    skbLinearize := true }

def ownLldp : Skb := skbOf ([1, 0x80, 0xC2, 0, 0, 0x0E] ++ [2, 2, 2, 2, 2, 2] ++ [0x88, 0xCC, 0, 0])

/-- The frame is let go as it is. -/
theorem brClientTx_faithful_lldp :
    ownLldp.hdrLen ≤ ownLldp.len ∧ BrTxFaithful sampleBrCfg sampleBrTxEnv ownLldp sampleBrExt := by
  refine ⟨by decide, (brClientTx_faithful_iff (by decide)).2 ⟨fun hip => ?_, fun _ _ _ => ?_⟩⟩
  · exact absurd hip (by decide)
  · exact ⟨by decide, by decide⟩

def taggedLldp : Skb := skbOf ([1, 0x80, 0xC2, 0, 0, 0x0E] ++ [4, 4, 4, 4, 4, 4] ++
  [0x81, 0x00, 0x00, 0x05, 0x88, 0xCC, 0, 0])

/-- The IPv4 frame of a client is rewritten and dropped, and one with a tag is sent without it. -/
theorem brClientTx_faithful_fails : (hostFrame.skb.hdrLen ≤ hostFrame.skb.len ∧
      ¬ BrTxFaithful sampleBrCfg sampleBrTxEnv hostFrame.skb sampleBrExt) ∧
    (taggedLldp.hdrLen ≤ taggedLldp.len ∧
      ¬ BrTxFaithful sampleBrCfg sampleBrTxEnv taggedLldp sampleBrExt) := by
  refine ⟨⟨by decide, fun h => ?_⟩, ⟨by decide, fun h => ?_⟩⟩
  · exact (h _ _ _ rfl).2 (by decide) ((brRewrites_iff_src (by decide) (by decide) (by decide)
      rfl).2 (by decide)) (by decide)
  · have hfaith := (h _ _ _ rfl).1 (by decide)
    have htag := hfaith.tag
    exact absurd htag (by decide)

section RelayTag

def tagBytes (t : ℕ × List UInt8) : List UInt8 :=
  ofNat (t.1 / 256) :: ofNat t.1 :: ofNat (t.2.length / 256) ::
    ofNat t.2.length :: t.2

/-- The PPPoE payload is these tags. Padding may follow. -/
def Skb.HasTags (s : Skb) (tags : List (ℕ × List UInt8)) : Prop :=
  s.be16 18 = (tags.flatMap tagBytes).length ∧ 20 + s.be16 18 ≤ s.len ∧
    ∀ i < s.be16 18, (tags.flatMap tagBytes)[i]? = some (s.byte (20 + i))

def relayData (tags : List (ℕ × List UInt8)) : List UInt8 :=
  (tags.find? (·.1 = 0x0110)).elim [] Prod.snd

/-- The tags with the magic code and the client's address in front. -/
def relayed (client : Octets 6) (tags : List (ℕ × List UInt8)) : List (ℕ × List UInt8) :=
  (0x0110, 0x81 :: 0x86 :: (ofFn client ++ relayData tags)) :: tags.filter (·.1 ≠ 0x0110)

variable {cfg : BrCfg} {env : BrEnv} {skb : Skb} {s : BrExt} {tags : List (ℕ × List UInt8)}

theorem pppoe_relay_tag_never (hp : skb.protocol = ethPPppDisc) (hsid : skb.be16 16 = 0)
    (hcode : skb.byte 15 = padiCode ∨ skb.byte 15 = padrCode) (htag : s.addPPPoETag = true)
    (h : skb.HasTags tags) (hold : (relayData tags).length ≤ 28) :
    ¬ ∃ skb' s', nat25DbHandle cfg env .insert skb s = some (0, skb', s') ∧
      skb'.HasTags (relayed (skb.get 6 6) tags) ∧
        skb'.len + skb.be16 18 = skb.len + skb'.be16 18 := by
  rintro ⟨skb', s', hres, ⟨hlen, -⟩, hlen'⟩
  simp +decide only [nat25DbHandle, hp, nat25HandlePppoe, nat25InsertPppoe, hsid, hcode, htag,
    if_true, if_false, and_false, some.injEq] at hres
  rcases hadd : addRelayTag env.stack skb with ⟨_ | _, sk⟩ <;> rw [hadd] at hres <;> cases hres
  have hgrow : skb.len + 2044 ≤ skb'.len := by
    simpa [hadd] using (addRelayTag_cases env.stack skb).2.2
  have hrest : ((tags.filter (·.1 ≠ 0x0110)).flatMap tagBytes).length
      ≤ (tags.flatMap tagBytes).length := (filter_sublist.flatMap tagBytes).length_le
  have hl := h.1
  simp only [relayed, flatMap_cons, tagBytes, length_append, length_cons, length_ofFn] at hlen
  omega

/-- It has one empty Service-Name tag, and is padded to 60 bytes. -/
def padiFrame : Skb := { skbOf (replicate 6 0xFF ++ replicate 6 4 ++
  [0x88, 0x63, 0x11, 0x09, 0, 0, 0, 4, 1, 1, 0, 0] ++ replicate 36 0) with tailroom := 64 }

theorem pppoe_relay_tag_padi : ¬ ∃ skb' s', nat25DbHandle sampleBrCfg (sampleBrEnv 1000 1) .insert
      padiFrame { sampleBrExt with addPPPoETag := true } = some (0, skb', s') ∧
    skb'.HasTags (relayed (padiFrame.get 6 6) [(0x0101, [])]) ∧
      skb'.len + padiFrame.be16 18 = padiFrame.len + skb'.be16 18 :=
  pppoe_relay_tag_never (by decide) (by decide) (by decide) rfl ⟨by decide, by decide, by decide⟩
    (by decide)

/-- There is room for the twelve bytes of the tag, but not for 2052. -/
theorem pppoe_relay_tag_refused : padiFrame.tailroom = 64 ∧
    (nat25DbHandle sampleBrCfg (sampleBrEnv 1000 1) .insert padiFrame
      { sampleBrExt with addPPPoETag := true }).map Prod.fst = some (-1) := by
  decide +kernel

end RelayTag

section DhcpCksum

variable {cfg : BrCfg} {s s' : Skb} {p : ℕ}

/-- Where the pseudo-header and the UDP datagram at `p` are, without its checksum and the flags of
its DHCP message. -/
def Skb.udpBytes (s : Skb) (p : ℕ) : List ℕ :=
  range' 26 8 ++ range' (p + 4) 2 ++
    (range' p (s.be16 (p + 4))).filter (· ∉ [p + 6, p + 7, p + 18, p + 19])

/-- What a receiver adds up, in words of the processor. -/
def Skb.udpSum (s : Skb) (p : ℕ) : ℕ :=
  ((s.udpBytes p).map fun i => (s.byte i).toNat * 256 ^ (i % 2)).sum + 17 * 256 + s.le16 (p + 6) +
    s.le16 (p + 18)

/-- What `dhcp_flag_bcast` takes for a DHCP request, in a datagram that holds the cookie. -/
structure DhcpRequest (cfg : BrCfg) (s : Skb) (p : ℕ) : Prop where
  enabled : cfg.dhcpBcstDisable = false
  udp : s.protocol = ethPIp ∧ s.byte 23 = 17
  ihl : p = 14 + (s.byte 14).toNat % 16 * 4 ∧ 34 ≤ p
  ports : s.be16 p = 68 ∧ s.be16 (p + 2) = 67
  cookie : s.get (p + 8 + 236) 4 = ![0x63, 0x82, 0x53, 0x63]
  len : 248 ≤ s.be16 (p + 4)

/-- The flag is set and beside it only the checksum differs: one that was valid is again, and one
that was 0, for none, is still 0. -/
structure KeepsCksum (s s' : Skb) (p : ℕ) : Prop where
  flag : (s'.byte (p + 18)).toNat = 128 + (s.byte (p + 18)).toNat % 128
  rest : ∀ i ∉ [p + 6, p + 7, p + 18], s'.byte i = s.byte i
  valid : s.le16 (p + 6) ≠ 0 → 65535 ∣ s.udpSum p → s'.le16 (p + 6) ≠ 0 ∧ 65535 ∣ s'.udpSum p
  absent : s.le16 (p + 6) = 0 → s'.le16 (p + 6) = 0

lemma csumFold_spec (n : ℕ) : csumFold n % 65535 = n % 65535 ∧ csumFold n < 65536 ∧
    (0 < n → 0 < csumFold n) := by
  fun_induction csumFold n <;> omega

lemma le16_lt (s : Skb) (i : ℕ) : s.le16 i < 65536 := by
  have hlo := (s.byte i).toNat_lt
  have hhi := (s.byte (i + 1)).toNat_lt
  rw [le16]
  omega

lemma le16_putLe16 (i v : ℕ) : (s.putLe16 i v).le16 i = v % 65536 := by
  have hlo : (s.putLe16 i v).byte i = ofNat v := byte_set_add i _ 0
  have hhi : (s.putLe16 i v).byte (i + 1) = ofNat (v / 256) := byte_set_add i _ 1
  rw [le16, hlo, hhi, toNat_ofNat', toNat_ofNat']
  omega

lemma byte_set_other {n : ℕ} {v : Octets n} {i j : ℕ} (h : j < i ∨ i + n ≤ j) :
    (s.set i v).byte j = s.byte j :=
  h.elim (byte_set_of_lt v) (byte_set_of_le v)

/-- The sum of the checksum's complement and the new flags. -/
def flagSum (s : Skb) (p : ℕ) : ℕ := csumFold (65535 - s.le16 (p + 6) + (s.le16 (p + 18) + 128))

lemma setBroadcastFlag_spec (h : (s.byte (p + 18)).toNat / 128 = 0)
    (hs' : setBroadcastFlag p s = s') :
    (s'.byte (p + 18)).toNat = 128 + (s.byte (p + 18)).toNat ∧
      (∀ i ∉ [p + 6, p + 7, p + 18], s'.byte i = s.byte i) ∧
      s'.le16 (p + 6) + flagSum s p = 65535 := by
  have hor : (s.byte (p + 18) ||| 0x80).toNat = 128 + (s.byte (p + 18)).toNat := by
    rw [UInt8.toNat_or, Nat.or_comm]
    exact (Nat.two_pow_add_eq_or_of_lt (i := 7) (by omega) 1).symm
  have hflag : (s.set (p + 18) ![s.byte (p + 18) ||| 0x80]).byte (p + 18) = _ :=
    byte_set_add (p + 18) _ 0
  have hrest := fun i h => byte_set_other (s := s) (v := ![s.byte (p + 18) ||| 0x80])
    (i := p + 18) (j := i) h
  rw [setBroadcastFlag] at hs'
  generalize s.set (p + 18) ![s.byte (p + 18) ||| 0x80] = s₁ at hs' hflag hrest
  subst hs'
  have hlt := (csumFold_spec (65535 - s.le16 (p + 6) + (s.le16 (p + 18) + 128))).2.1
  refine ⟨?_, fun i hi => ?_, ?_⟩
  · rw [putLe16, byte_set_other (by omega), hflag]
    exact hor
  · simp at hi
    rw [putLe16, byte_set_other (by omega), hrest i (by omega)]
  rw [le16_putLe16]
  have hsum : csumFold (65535 - s₁.le16 (p + 6) + s₁.le16 (p + 18)) = flagSum s p := by
    simp [flagSum, le16, hflag, hrest (p + 6) (by omega), hrest (p + 6 + 1) (by omega),
      hrest (p + 18 + 1) (by omega), hor]
    congr 1
    omega
  rw [hsum, flagSum]
  omega

lemma udpSum_setBroadcastFlag (h : DhcpRequest cfg s p)
    (hrest : ∀ i ∉ [p + 6, p + 7, p + 18], s'.byte i = s.byte i)
    (hflag : (s'.byte (p + 18)).toNat = 128 + (s.byte (p + 18)).toNat) :
    s'.udpSum p + s.le16 (p + 6) = s.udpSum p + s'.le16 (p + 6) + 128 := by
  have hp := h.ihl.2
  have hbytes : s'.udpBytes p = s.udpBytes p := by
    rw [udpBytes, udpBytes, be16, be16, hrest (p + 4) (by simp), hrest (p + 4 + 1) (by simp)]
  have hsum : ((s'.udpBytes p).map fun i => (s'.byte i).toNat * 256 ^ (i % 2)).sum =
      ((s.udpBytes p).map fun i => (s.byte i).toNat * 256 ^ (i % 2)).sum := by
    rw [hbytes]
    refine congrArg List.sum (map_congr_left fun i hi => ?_)
    rw [hrest i]
    simp [udpBytes] at hi ⊢
    omega
  have hnew : s'.le16 (p + 18) = s.le16 (p + 18) + 128 := by
    rw [le16, le16, hflag, hrest (p + 18 + 1) (by simp)]
    omega
  rw [udpSum, udpSum, hsum, hnew]
  omega

theorem dhcp_cksum_iff (h : DhcpRequest cfg s p) : KeepsCksum s (dhcpFlagBcast cfg s) p ↔
    ((s.byte (p + 18)).toNat / 128 = 0 → (s.le16 (p + 6) = 0 → s.le16 (p + 18) = 0xFF7F) ∧
      (s.le16 (p + 6) ≠ 0 → 65535 ∣ s.udpSum p → s.le16 (p + 18) = 0 ∧ s.le16 (p + 6) ≠ 128)) := by
  have heq : dhcpFlagBcast cfg s =
      if (s.byte (p + 18)).toNat / 128 = 0 then setBroadcastFlag p s else s := by
    simp [dhcpFlagBcast, h.enabled, h.udp, ← h.ihl.1, h.ports, h.cookie]
  have hbyte := (s.byte (p + 18)).toNat_lt
  rw [heq]
  split_ifs with hunset
  · obtain ⟨hflag, hrest, hcksum⟩ := setBroadcastFlag_spec hunset rfl
    have hsum := udpSum_setBroadcastFlag h hrest hflag
    obtain ⟨hmod, hlt, hpos⟩ := csumFold_spec (65535 - s.le16 (p + 6) + (s.le16 (p + 18) + 128))
    rw [flagSum] at hcksum
    have hold := le16_lt s (p + 6)
    have hflags : s.le16 (p + 18) ≤ 65407 := by
      have hhi := (s.byte (p + 18 + 1)).toNat_lt
      rw [le16]
      omega
    refine ⟨fun hk _ => ⟨fun h0 => ?_, fun hne hdvd => ?_⟩,
      fun hc => ⟨by omega, hrest, fun hne hdvd => ?_, fun h0 => ?_⟩⟩
    · have h0' := hk.absent h0
      omega
    · have hvalid := hk.valid hne hdvd
      omega
    · have hzero := (hc hunset).2 hne hdvd
      omega
    · have hones := (hc hunset).1 h0
      omega
  · exact ⟨fun _ hun => absurd hun hunset,
      fun _ => ⟨by omega, fun _ _ => rfl, fun hne hdvd => ⟨hne, hdvd⟩, id⟩⟩

def dhcpFrame (cksum : List UInt8) : Skb :=
  skbOf (replicate 12 0 ++ [0x08, 0x00, 0x45] ++ replicate 8 0 ++ [17] ++ replicate 10 0 ++
    [0, 68, 0, 67, 0, 248] ++ cksum ++ replicate 236 0 ++ [0x63, 0x82, 0x53, 0x63])

def bcastBrCfg : BrCfg := { sampleBrCfg with dhcpBcstDisable := false }

theorem dhcp_cksum_zero_flags : 65535 ∣ (dhcpFrame [0x46, 0x92]).udpSum 34 ∧ KeepsCksum
    (dhcpFrame [0x46, 0x92]) (dhcpFlagBcast bcastBrCfg (dhcpFrame [0x46, 0x92])) 34 := by
  have h : DhcpRequest bcastBrCfg (dhcpFrame [0x46, 0x92]) 34 := by constructor <;> decide +kernel
  exact ⟨by decide +kernel, (dhcp_cksum_iff h).2 fun _ => by decide +kernel⟩

/-- The checksum is absent, and afterwards it is there, and wrong. -/
theorem dhcp_cksum_made_up : DhcpRequest bcastBrCfg (dhcpFrame [0, 0]) 34 ∧
    (dhcpFrame [0, 0]).le16 40 = 0 ∧
    (dhcpFlagBcast bcastBrCfg (dhcpFrame [0, 0])).le16 40 = 0xFF7F ∧
    ¬ 65535 ∣ (dhcpFlagBcast bcastBrCfg (dhcpFrame [0, 0])).udpSum 34 :=
  ⟨by constructor <;> decide +kernel, by decide +kernel, by decide +kernel, by decide +kernel⟩

end DhcpCksum

section NdRewrite

variable {s s' : Skb} {tag : UInt8} {pos len : ℕ} {r : Option ℕ}

/-- Whole options, each with a length, up to the end of the message or the address in the first of
type `tag` and length 1. -/
inductive NdOptions (s : Skb) (tag : UInt8) : ℕ → ℕ → Option ℕ → Prop
  | done (pos : ℕ) : NdOptions s tag pos 0 none
  | found {pos len : ℕ} (h : s.byte pos = tag ∧ s.byte (pos + 1) = 1 ∧ 8 ≤ len) :
    NdOptions s tag pos len (some (pos + 2))
  | skip {pos len : ℕ} {r : Option ℕ} (h : ¬ (s.byte pos = tag ∧ s.byte (pos + 1) = 1 ∧ 8 ≤ len))
    (hhdr : 2 ≤ len) (hlen : (s.byte (pos + 1)).toNat ≠ 0)
    (rest : NdOptions s tag (pos + (s.byte (pos + 1)).toNat * 8)
      (len - (s.byte (pos + 1)).toNat * 8) r) : NdOptions s tag pos len r

def SameMessage (pos len : ℕ) (s s' : Skb) : Prop :=
  ∀ i, pos ≤ i → i < pos + len → s'.byte i = s.byte i

/-- What lies outside the message does not matter and does not change. -/
structure NdRewritten (s : Skb) (pos len : ℕ) (r : Option ℕ) : Prop where
  wanted : ∀ mac, r = some mac → pos ≤ mac ∧ mac + 6 ≤ pos + len ∧ ∃ start tag,
    ndOption (s.byte pos) = some (start, tag) ∧
      NdOptions s tag (pos + start) (len - start) (some mac)
  inside : ∀ s', SameMessage pos len s s' → ∀ replaceMac,
    updateNdLinkLayerAddr s' pos len replaceMac =
      some (r.isSome, r.elim s' fun mac => s'.set mac replaceMac)

lemma NdOptions.bounds (h : NdOptions s tag pos len r) :
    ∀ mac, r = some mac → pos ≤ mac ∧ mac + 6 ≤ pos + len := by
  induction h with
  | done => exact nofun
  | found h =>
    rintro _ ⟨⟩
    omega
  | skip h hhdr hlen rest ih =>
    intro mac hmac
    obtain ⟨hle, hend⟩ := ih mac hmac
    omega

lemma NdOptions.scanTlv_eq (h : NdOptions s tag pos len r)
    (hin : SameMessage pos len s s') : scanTlv s' tag 1 pos len = some r := by
  induction h with
  | done => rw [scanTlv, if_neg (by decide)]
  | @found pos len h =>
    rw [scanTlv, if_pos (by omega), hin pos (by omega) (by omega),
      hin (pos + 1) (by omega) (by omega)]
    exact if_pos h
  | @skip pos len r h hhdr hlen rest ih =>
    rw [scanTlv, if_pos (by omega), hin pos (by omega) (by omega),
      hin (pos + 1) (by omega) (by omega)]
    have hrest := ih fun i hi hlt => hin i (by omega) (by omega)
    exact (if_neg h).trans ((if_neg hlen).trans hrest)

/-- A byte 0 behind the message is taken for the length of an option of which only the type is
there. -/
lemma ndOptions_of_scanTlv {e : ℕ} (hin : ∀ i < e, s'.byte i = s.byte i) (he : s'.byte e = 0)
    (hend : len = 0 ∨ pos + len = e) (h : scanTlv s' tag 1 pos len ≠ none) :
    ∃ r, NdOptions s tag pos len r := by
  fun_induction scanTlv s' tag 1 pos len with
  | case1 pos len hpos hfound =>
    have hlen : 8 ≤ len := hfound.2.2
    rw [hin pos (by omega), hin (pos + 1) (by omega)] at hfound
    exact ⟨_, .found hfound⟩
  | case2 => exact absurd rfl h
  | case3 pos len hpos hfound hlen ih =>
    have hhdr : 2 ≤ len := by
      by_contra hlt
      rw [show pos + 1 = e by omega, he] at hlen
      exact hlen rfl
    rw [hin pos (by omega), hin (pos + 1) (by omega)] at *
    obtain ⟨r, hr⟩ := ih (by omega) h
    exact ⟨r, .skip hfound hhdr hlen hr⟩
  | case4 pos len hpos =>
    rw [show len = 0 by omega]
    exact ⟨none, .done pos⟩

theorem nd_rewrite_iff (hpos : 0 < len) : (∃ r, NdRewritten s pos len r) ↔
    ∀ start tag, ndOption (s.byte pos) = some (start, tag) → start ≤ len →
      ∃ r, NdOptions s tag (pos + start) (len - start) r := by
  constructor
  · rintro ⟨r, -, hinside⟩ start tag htype hstart
    have hin : ∀ i < pos + len, (s.set (pos + len) ![0]).byte i = s.byte i :=
      fun i hi => byte_set_of_lt _ hi
    have hupd := hinside (s.set (pos + len) ![0]) (fun i _ => hin i) fun _ => 0
    rw [updateNdLinkLayerAddr, hin pos (by omega), htype] at hupd
    refine ndOptions_of_scanTlv hin (byte_set_add (pos + len) ![0] 0) (.inr (by omega)) fun h => ?_
    simp [not_lt.2 hstart, h] at hupd
  · intro hopts
    have hhead : ∀ s', SameMessage pos len s s' → s'.byte pos = s.byte pos :=
      fun s' hin => hin pos (le_refl pos) (by omega)
    rcases htype : ndOption (s.byte pos) with _ | ⟨start, tag⟩
    · refine ⟨none, nofun, fun s' hin _ => ?_⟩
      rw [updateNdLinkLayerAddr, hhead s' hin, htype]
      rfl
    by_cases hstart : start ≤ len
    · obtain ⟨r, hr⟩ := hopts start tag htype hstart
      refine ⟨r, fun mac hmac => ?_, fun s' hin _ => ?_⟩
      · obtain ⟨hle, hend⟩ := hr.bounds mac hmac
        exact ⟨by omega, by omega, start, tag, htype, hmac ▸ hr⟩
      · have hscan := hr.scanTlv_eq fun i hi hlt => hin i (by omega) (by omega)
        simp only [updateNdLinkLayerAddr, hhead s' hin, htype, if_neg (not_lt.2 hstart), hscan]
        cases r <;> rfl
    · refine ⟨none, nofun, fun s' hin _ => ?_⟩
      simp only [updateNdLinkLayerAddr, hhead s' hin, htype, if_pos (not_le.1 hstart)]
      rfl

/-- A neighbour solicitation with one option. -/
def solicitation (option : List UInt8) : Skb :=
  skbOf (replicate 12 0 ++ [0x86, 0xDD] ++ replicate 6 0 ++ [58] ++ replicate 33 0 ++
    135 :: replicate 23 0 ++ option)

theorem nd_rewrite_source : ∃ r, NdRewritten (solicitation [1, 1, 4, 4, 4, 4, 4, 4]) 54 32 r :=
  (nd_rewrite_iff (by decide)).2 fun start tag htype _ => by
    cases htype
    exact ⟨_, .found (by decide)⟩

/-- An option of length 0 is met again and again. -/
theorem nd_rewrite_hangs :
    updateNdLinkLayerAddr (solicitation [14, 0]) 54 26 sampleBrCfg.hwaddr = none ∧
    (nat25DbHandle sampleBrCfg (sampleBrEnv 1000 1) .insert (solicitation [14, 0])
      sampleBrExt).isNone := by
  decide +kernel

end NdRewrite

section ShortCut

open Run

variable {cfg : BrCfg} {env : BrEnv} {skb sk : Skb} {s : BrExt} {disable : Bool}

structure Skb.IsIpv4Unicast (skb : Skb) : Prop where
  unicast : (skb.byte 0).toNat % 2 = 0
  len : skb.hdrLen ≤ skb.len
  ip : skb.untag.protocol = ethPIp

def destAfter (cfg : BrCfg) (env : BrEnv) (disable scDisable : Bool) (skb : Skb) (s : BrExt) :
    Option (Octets 6) :=
  (nat25HandleFrame cfg env disable scDisable skb s).map fun r => r.2.1.get 0 6

/-- The address of the short cut is that of the record the walk stops at, the one in the frame if
the record has expired or the IP header is cut off, and that of the group or the bridge if there is
no record. -/
def ScdbAgrees (cfg : BrCfg) (env : BrEnv) (sk : Skb) (s : BrExt) : Prop :=
  if sk.len ≤ (sk.byte 14).toNat % 16 * 4 then s.scdbMac = sk.get 0 6
  else
    match foundEntry cfg (nat25GenerateIpv4NetworkAddr (sk.get 30 4)) s with
    | some db => s.scdbMac = if nat25HasExpired cfg env db then sk.get 0 6 else db.macAddr
    | none => s.scdbMac = if sk.byte 33 = 0xFF then fun _ => 0xFF
        else if s.brMac = 0 then env.brNetdev.getD s.brMac else s.brMac

/-- With the short cut the frame gets the address it gets without. -/
def Transparent (cfg : BrCfg) (disable : Bool) (s : BrExt) : BrEvent → Prop
  | .rx env skb => skb.IsIpv4Unicast →
      destAfter cfg env disable false skb s = destAfter cfg env disable true skb s
  | _ => True

/-- The short cut is off, for another address, or agrees with the table. -/
def ShortCutOK (cfg : BrCfg) (disable : Bool) (s : BrExt) : BrEvent → Prop
  | .rx env skb => skb.IsIpv4Unicast → disable = true ∨ s.scdbIp = skb.untag.get 30 4 ∨
      ScdbAgrees cfg env skb.untag s
  | _ => True

lemma scdbAgrees_iff : (nat25HandleIp cfg env .lookup sk s).2.1.off = sk.off ∧
    (ScdbAgrees cfg env sk s ↔ s.scdbMac = (nat25HandleIp cfg env .lookup sk s).2.1.get 0 6) := by
  unfold nat25HandleIp ScdbAgrees
  by_cases hlen : sk.len ≤ (sk.byte 14).toNat % 16 * 4
  · rw [if_pos hlen, if_pos hlen]
    exact ⟨rfl, .rfl⟩
  rw [if_neg hlen, if_neg hlen]
  rcases hfound : foundEntry cfg (nat25GenerateIpv4NetworkAddr (sk.get 30 4)) s with _ | db
  · rw [lookupAndReplace_none env hfound]
    simp only
    split_ifs <;> exact ⟨rfl, Eq.congr_right (get_set_self _).symm⟩
  · rw [lookupAndReplace_some env hfound]
    simp only
    split_ifs
    · exact ⟨rfl, .rfl⟩
    · exact ⟨rfl, Eq.congr_right (get_set_self _).symm⟩

lemma destAfter_eq (h : skb.IsIpv4Unicast) (scDisable : Bool) :
    destAfter cfg env false scDisable skb s = some
      (if scDisable = false ∧ s.scdbIp ≠ skb.untag.get 30 4 then s.scdbMac
        else (nat25HandleIp cfg env .lookup skb.untag s).2.1.get 0 6) := by
  have hrestore : ∀ sk : Skb, sk.off = skb.untag.off →
      (if skb.protocol = ethP8021q then vlanRestore (skb.get 14 2) sk else sk).get 0 6
        = sk.get 0 6 := by
    intro sk hoff
    split_ifs with ht
    · have hroom := (isAsked_untag h.len).off ht
      exact get_congr fun i hi => (vlanRestore_eq _ (hoff ▸ hroom)).2.2.1 (0 + i) (by omega)
    · rfl
  simp only [destAfter, nat25HandleFrame, h.unicast, vlanStrip_eq_untag, h.ip, rtwMemcmp,
    nat25DbHandle]
  by_cases hsc : scDisable = false ∧ s.scdbIp ≠ skb.untag.get 30 4
  · simp [hsc]
    rw [hrestore (skb.untag.set 0 s.scdbMac) rfl, get_set_self]
  · simp [hsc]
    rw [hrestore _ scdbAgrees_iff.1]

lemma transparent_iff (e : BrEvent) :
    Transparent cfg disable s e ↔ ShortCutOK cfg disable s e := by
  cases e with
  | tx | expire => rfl
  | rx env skb =>
    refine forall_congr' fun h => ?_
    cases disable with
    | true => simp [destAfter, nat25HandleFrame]
    | false =>
      rw [destAfter_eq h, destAfter_eq h, scdbAgrees_iff.2]
      by_cases hip : s.scdbIp = skb.untag.get 30 4 <;> simp [hip]

/-- At every frame of a run, whatever the setting it runs with. -/
theorem short_cut_iff (cfg : BrCfg) (disable scDisable : Bool) (s : BrExt) (es : List BrEvent) :
    RunOK (brStep cfg disable scDisable) (Transparent cfg disable) s es ↔
      RunOK (brStep cfg disable scDisable) (ShortCutOK cfg disable) s es :=
  runOK_congr _ _ (P := fun _ => True) (fun _ e _ => transparent_iff e) (fun _ _ _ _ => trivial) es
    s trivial

/-- Nothing has been sent yet. The short cut writes its zero address over that of the bridge. -/
theorem short_cut_fails : ¬ Transparent sampleBrCfg false sampleBrExt
      (.rx (sampleBrEnv 1000 1) (replyTo [10, 0, 0, 1])) ∧
    destAfter sampleBrCfg (sampleBrEnv 1000 1) false false (replyTo [10, 0, 0, 1]) sampleBrExt =
      some fun _ => 0 := by
  have h : (replyTo [10, 0, 0, 1]).IsIpv4Unicast := by constructor <;> decide
  refine ⟨fun hsame => absurd (hsame h) ?_, ?_⟩ <;> decide +kernel

end ShortCut

end Rtl8852be

import Rtl8852be.BrExt

/-!
# Which host the database names

`_rtw_memcmp` answers true for equal addresses, and the walks along a chain negate it: an insertion
writes over the first record of its bucket that has another address, and a lookup takes the first
that has another address.
-/

namespace Rtl8852be

open Bytes List Skb Option

variable {a : NetworkAddr} {db : Nat25Entry}

inductive IpAddr where
  | v4 (a : Octets 4)
  | v6 (a : Octets 16)

namespace IpAddr

-- The derived instance compares the addresses as functions, which does not reduce.
instance : DecidableEq IpAddr
  | v4 a, v4 b => decidable_of_iff (a = b) (IpAddr.v4.injEq a b ▸ Iff.rfl)
  | v6 a, v6 b => decidable_of_iff (a = b) (IpAddr.v6.injEq a b ▸ Iff.rfl)
  | v4 _, v6 _ => isFalse nofun
  | v6 _, v4 _ => isFalse nofun

def isZero : IpAddr → Bool
  | v4 a | v6 a => decide (a = 0)

def networkAddr : IpAddr → NetworkAddr
  | v4 a => nat25GenerateIpv4NetworkAddr a
  | v6 a => nat25GenerateIpv6NetworkAddr a

lemma networkAddr_injective : Function.Injective networkAddr := by
  intro a b h
  have htype := congrFun h 0
  cases a with
  | v4 a =>
    cases b with
    | v4 b =>
      congr 1
      funext i
      have hi := congrFun h ⟨7 + i, by omega⟩
      simpa [networkAddr, nat25GenerateIpv4NetworkAddr, networkAddrOf, load] using hi
    | v6 b => cases htype
  | v6 a =>
    cases b with
    | v4 b => cases htype
    | v6 b =>
      congr 1
      funext i
      have hi := congrFun h ⟨1 + i, by omega⟩
      simpa [networkAddr, nat25GenerateIpv6NetworkAddr, networkAddrOf, load] using hi

end IpAddr

namespace Skb

def IsIp (s : Skb) : Prop := s.protocol = ethPIp ∨ s.protocol = ethPArp ∨ s.protocol = ethPIpv6

/-- An address of an IPv4, ARP or IPv6 frame that is not malformed, from its place in each. -/
def ipAddr (s : Skb) (v4 arp v6 : ℕ) : Option IpAddr :=
  if s.protocol = ethPIp then
    if s.len ≤ (s.byte 14).toNat % 16 * 4 then none else some (.v4 (s.get v4 4))
  else if s.protocol = ethPArp then
    if s.be16 16 ≠ ethPIp then none else some (.v4 (s.get arp 4))
  else if s.protocol = ethPIpv6 then
    if (s.len + 2 ^ 32 - 14) % 2 ^ 32 ≤ 40 then none else some (.v6 (s.get v6 16))
  else none

def source (s : Skb) : Option IpAddr := s.ipAddr 26 (22 + (s.byte 18).toNat) 22

def dest (s : Skb) : Option IpAddr :=
  s.ipAddr 30 (22 + (s.byte 18).toNat + ((s.byte 18).toNat + (s.byte 19).toNat)) 38

/-- The address under which a frame is recorded. An IPv4 source must not be zero, an IPv6 source
must. -/
def recorded (cfg : BrCfg) (s : Skb) : Option IpAddr :=
  if s.protocol = ethPArp then (s.set 22 cfg.hwaddr).source
  else if s.protocol = ethPIp then s.source.bind fun a => if a.isZero then none else some a
  else s.source.bind fun a => if a.isZero then some a else none

end Skb

variable {skb : Skb}

section Frame

variable {pos pos' n m : ℕ}
variable (v : Octets n)

lemma get_set_self : (skb.set pos v).get pos n = v := load_store_self v

lemma get_set_of_disjoint (h : pos' + m ≤ pos ∨ pos + n ≤ pos') :
    (skb.set pos v).get pos' m = skb.get pos' m := by
  have hoff : skb.off + pos' + m ≤ skb.off + pos ∨ skb.off + pos + n ≤ skb.off + pos' := by omega
  exact load_store_of_disjoint v hoff

lemma byte_set_of_lt (h : pos' < pos) : (skb.set pos v).byte pos' = skb.byte pos' :=
  store_of_lt (Nat.add_lt_add_left h skb.off) v

lemma byte_set_of_le (h : pos + n ≤ pos') : (skb.set pos v).byte pos' = skb.byte pos' := by
  have hoff : skb.off + pos + n ≤ skb.off + pos' := by omega
  exact store_of_le hoff v

lemma be16_set_of_lt (h : pos' + 1 < pos) : (skb.set pos v).be16 pos' = skb.be16 pos' := by
  rw [be16, be16, byte_set_of_lt v (by omega), byte_set_of_lt v (by omega)]

lemma protocol_set (h : 14 ≤ pos) : (skb.set pos v).protocol = skb.protocol :=
  be16_set_of_lt v (by omega)

end Frame

section Calls

variable {cfg : BrCfg} {env : BrEnv} {s : BrExt}

/-- The insertion of a frame never returns: an IPv6 message from the zero address has an option of
length 0. -/
def Skb.Hangs (cfg : BrCfg) (skb : Skb) : Prop :=
  skb.protocol = ethPIpv6 ∧ skb.source = some (.v6 0) ∧ skb.byte 20 = 58 ∧ 14 + 40 + 4 < skb.len ∧
    updateNdLinkLayerAddr skb 54 (skb.len - 54) cfg.hwaddr = none

def recordFrame (cfg : BrCfg) (env : BrEnv) (skb : Skb) (s : BrExt) : BrExt :=
  match skb.recorded cfg with
  | some a => nat25DbNetworkInsert cfg env (skb.get 6 6) a.networkAddr s
  | none => s

lemma nat25HandleIp_insert (hp : skb.protocol = ethPIp) :
    (nat25HandleIp cfg env .insert skb s).2.2 = recordFrame cfg env skb s := by
  have harp : ¬ skb.protocol = ethPArp := by rw [hp]; decide
  simp [nat25HandleIp, recordFrame, recorded, source, ipAddr, if_neg harp, if_pos hp]
  split_ifs with hlen hzero
  · rfl
  · simp [hzero, IpAddr.isZero]
  · simp [hzero, IpAddr.isZero, IpAddr.networkAddr]

lemma nat25HandleArp_insert (hp : skb.protocol = ethPArp) :
    (nat25HandleArp cfg env .insert skb s).2.2 = recordFrame cfg env skb s := by
  have hip : ¬ skb.protocol = ethPIp := by rw [hp]; decide
  have hmac : (skb.set 22 cfg.hwaddr).get 6 6 = skb.get 6 6 :=
    get_set_of_disjoint cfg.hwaddr (by omega)
  simp [nat25HandleArp, recordFrame, recorded, source, ipAddr, if_pos hp, protocol_set cfg.hwaddr
    (by omega : 14 ≤ 22), if_neg hip, be16_set_of_lt cfg.hwaddr
    (by omega : 16 + 1 < 22),
    byte_set_of_lt cfg.hwaddr (by omega : 18 < 22), hmac]
  split_ifs
  · rfl
  · rfl

lemma nat25HandleIpv6_insert (env : BrEnv) (s : BrExt) (hp : skb.protocol = ethPIpv6)
    (hret : ¬ skb.Hangs cfg) :
    ∃ r skb', nat25HandleIpv6 cfg env .insert skb s
      = some (r, skb', recordFrame cfg env skb s) := by
  have hip : ¬ skb.protocol = ethPIp := by rw [hp]; decide
  have harp : ¬ skb.protocol = ethPArp := by rw [hp]; decide
  have hsource : skb.source = if (skb.len + 2 ^ 32 - 14) % 2 ^ 32 ≤ 40 then none
      else some (.v6 (skb.get 22 16)) := by
    rw [source, ipAddr, if_neg hip, if_neg harp, if_pos hp]
  have hrec : skb.recorded cfg = skb.source.bind fun a => if a.isZero then some a else none := by
    rw [recorded, if_neg harp, if_neg hip]
  unfold nat25HandleIpv6 recordFrame
  rw [hrec, hsource]
  by_cases hlen : (skb.len + 2 ^ 32 - 14) % 2 ^ 32 ≤ 40
  · rw [if_pos hlen, if_pos hlen]
    exact ⟨-1, skb, rfl⟩
  rw [if_neg hlen] at hsource
  rw [if_neg hlen, if_neg hlen]
  by_cases hzero : skb.get 22 16 = 0
  · have hsrc : skb.source = some (.v6 0) := by rw [hsource, hzero]
    simp [nat25InsertIpv6, hzero, bind_some, IpAddr.isZero, IpAddr.networkAddr]
    split_ifs with hnd
    · rcases hupd : updateNdLinkLayerAddr skb 54 (skb.len - 54) cfg.hwaddr with _ | ⟨_ | _, skb'⟩
      · exact absurd ⟨hp, hsrc, hnd.1, hnd.2, hupd⟩ hret
      · exact ⟨0, skb', rfl⟩
      · exact ⟨0, _, rfl⟩
    · exact ⟨0, skb, rfl⟩
  · simp only [nat25InsertIpv6, rtwMemcmp, hzero, decide_false, Bool.false_eq_true, if_false,
      bind_some, IpAddr.isZero]
    exact ⟨0, skb, rfl⟩

lemma nat25DbHandle_ipv6 (cfg : BrCfg) (env : BrEnv) (method : Nat25Method) (s : BrExt)
    (hp : skb.protocol = ethPIpv6) :
    nat25DbHandle cfg env method skb s = nat25HandleIpv6 cfg env method skb s := by
  unfold nat25DbHandle
  simp only [hp]
  rw [if_neg (by decide), if_neg (by decide), if_neg (by simp [ethPIpv6, ethPIpx, ethPAtalk,
    ethPAarp]), if_neg (by decide), if_neg (by decide), if_neg (by decide), if_pos trivial]

lemma nat25DbHandle_insert (cfg : BrCfg) (env : BrEnv) (s : BrExt) (hip : skb.IsIp)
    (hret : ¬ skb.Hangs cfg) :
    ∃ r skb', nat25DbHandle cfg env .insert skb s = some (r, skb', recordFrame cfg env skb s) := by
  rcases hip with hp | hp | hp
  · rw [nat25DbHandle, if_pos hp]
    exact ⟨_, _, by rw [← nat25HandleIp_insert hp]⟩
  · rw [nat25DbHandle, if_neg (by rw [hp]; decide), if_pos hp]
    exact ⟨_, _, by rw [← nat25HandleArp_insert hp]⟩
  · rw [nat25DbHandle_ipv6 cfg env .insert s hp]
    exact nat25HandleIpv6_insert env s hp hret

end Calls

structure Record where
  networkAddr : NetworkAddr
  macAddr : Octets 6
  jiffies : UInt64

structure ChainOf (rs : List Record) (chain : List Nat25Entry) : Prop where
  empty : rs = [] → chain = []
  addr : ∀ r ∈ rs.head?, ∀ db ∈ chain, db.networkAddr = r.networkAddr
  last : ∀ r ∈ rs.getLast?, ∃ db ∈ chain.head?, db.macAddr = r.macAddr
  timer : ∀ db ∈ chain, ∃ r ∈ rs, db.ageingTimer = r.jiffies

section Chain

variable {rs : List Record} {chain : List Nat25Entry} {r : Record}

lemma insertWalk_eq (h : ∀ db ∈ chain, db.networkAddr = a) :
    insertWalk r.jiffies r.macAddr r.networkAddr chain
      = if a = r.networkAddr then none else chain.head?.map fun db =>
          { db with macAddr := r.macAddr, ageingTimer := r.jiffies } :: chain.tail := by
  induction chain with
  | nil => simp [insertWalk]
  | cons db rest ih =>
    have hdb : db.networkAddr = a := h db mem_cons_self
    rw [insertWalk, hdb, ih fun db' hdb' => h db' (mem_cons_of_mem db hdb')]
    by_cases ha : a = r.networkAddr
    · simp [ha]
    · simp [ha, hdb]

lemma ChainOf.insert (h : ChainOf rs chain) (addr : ℕ) :
    ChainOf (rs ++ [r]) ((insertWalk r.jiffies r.macAddr r.networkAddr chain).getD
      (⟨addr, r.networkAddr, r.macAddr, r.jiffies⟩ :: chain)) := by
  have htimer : ∀ db ∈ chain, ∃ r' ∈ rs ++ [r], db.ageingTimer = r'.jiffies := by
    intro db hdb
    obtain ⟨r', hr', ht⟩ := h.timer db hdb
    exact ⟨r', mem_append_left _ hr', ht⟩
  have hnew : ∃ r' ∈ rs ++ [r], r.jiffies = r'.jiffies := ⟨r, by simp, rfl⟩
  have hlast : ∀ r₁, (rs ++ [r]).getLast? = some r₁ → r.macAddr = r₁.macAddr := by simp
  rcases rs with _ | ⟨r₀, rs⟩
  · rw [h.empty rfl]
    exact ⟨by simp, by simp [insertWalk], by simp [insertWalk], forall_mem_singleton.2 hnew⟩
  have haddr : ∀ db ∈ chain, db.networkAddr = r₀.networkAddr := h.addr r₀ rfl
  rw [insertWalk_eq haddr]
  by_cases ha : r₀.networkAddr = r.networkAddr
  · rw [if_pos ha, getD_none]
    exact ⟨by simp, by simpa [ha] using haddr, by simpa using hlast,
      forall_mem_cons.2 ⟨hnew, htimer⟩⟩
  · obtain ⟨r₁, hr₁⟩ : ∃ r₁, (r₀ :: rs).getLast? = some r₁ :=
      ⟨_, getLast?_eq_some_getLast (by simp)⟩
    obtain ⟨db₀, hdb₀, -⟩ := h.last r₁ hr₁
    obtain ⟨rest, rfl⟩ := head?_eq_some_iff.1 hdb₀
    rw [if_neg ha]
    exact ⟨by simp, by simpa using haddr, by simpa using hlast,
      forall_mem_cons.2 ⟨hnew, (forall_mem_cons.1 htimer).2⟩⟩

lemma ChainOf.find (h : ChainOf rs chain) (a : NetworkAddr) :
    chain.find? (fun db => !rtwMemcmp db.networkAddr a)
      = if ∃ r ∈ rs.head?, r.networkAddr = a then none else chain.head? := by
  rcases rs with _ | ⟨r₀, rs⟩
  · rw [h.empty rfl]
    simp
  have haddr : ∀ db ∈ chain, db.networkAddr = r₀.networkAddr := h.addr r₀ rfl
  by_cases ha : r₀.networkAddr = a
  · rw [if_pos ⟨r₀, rfl, ha⟩, find?_eq_none]
    intro db hdb
    simp [haddr db hdb, ha]
  have hno : ¬ ∃ r ∈ (r₀ :: rs).head?, r.networkAddr = a := by
    rintro ⟨_, ⟨⟩, hr⟩
    exact ha hr
  rw [if_neg hno]
  rcases chain with _ | ⟨db, rest⟩
  · rfl
  · have hdb := haddr db mem_cons_self
    simp [hdb, ha]

end Chain

structure Nat25Insert where
  env : BrEnv
  skb : Skb

def Nat25Insert.mac (e : Nat25Insert) : Octets 6 := e.skb.get 6 6

def nat25Inserts (cfg : BrCfg) : List Nat25Insert → BrExt → Option BrExt
  | [], s => some s
  | e :: es, s =>
    match nat25DbHandle cfg e.env .insert e.skb s with
    | none => none
    | some (_, _, s) => nat25Inserts cfg es s

def Nat25Insert.filed (cfg : BrCfg) (hash : ℕ) (e : Nat25Insert) : Option (IpAddr × Nat25Insert) :=
  (e.skb.recorded cfg).bind fun a =>
    if nat25NetworkHash cfg a.networkAddr = hash then some (a, e) else none

def recordOf (p : IpAddr × Nat25Insert) : Record :=
  ⟨p.1.networkAddr, p.2.skb.get 6 6, p.2.env.jiffies⟩

section Runs

variable {s : BrExt}

lemma chainOf_recordFrame (cfg : BrCfg) {rs : ℕ → List Record}
    (h : ∀ k, ChainOf (rs k) (s.nethash k)) (e : Nat25Insert) (hmalloc : e.env.malloc ≠ none)
    (k : ℕ) :
    ChainOf (rs k ++ ((e.filed cfg k).map recordOf).toList)
      ((recordFrame cfg e.env e.skb s).nethash k) := by
  unfold recordFrame Nat25Insert.filed
  rcases e.skb.recorded cfg with _ | a
  · simpa using h k
  obtain ⟨addr, haddr⟩ := ne_none_iff_exists'.1 hmalloc
  simp
  by_cases hk : nat25NetworkHash cfg a.networkAddr = k
  · subst hk
    have hnew := (h (nat25NetworkHash cfg a.networkAddr)).insert addr (r := recordOf (a, e))
    rw [if_pos rfl, nat25DbNetworkInsert]
    simp only [haddr]
    rcases hwalk : insertWalk e.env.jiffies (e.skb.get 6 6) a.networkAddr
      (s.nethash (nat25NetworkHash cfg a.networkAddr)) with _ | chain
    · simpa [recordOf, hwalk] using hnew
    · simpa [recordOf, hwalk] using hnew
  · rw [if_neg hk, nat25DbNetworkInsert]
    simp only [haddr]
    rcases insertWalk e.env.jiffies (e.skb.get 6 6) a.networkAddr
      (s.nethash (nat25NetworkHash cfg a.networkAddr)) with _ | chain
    · simpa [Function.update_of_ne (Ne.symm hk)] using h k
    · simpa [Function.update_of_ne (Ne.symm hk)] using h k

lemma nat25Inserts_chainOf (cfg : BrCfg) : ∀ (es : List Nat25Insert) {s : BrExt}
    {rs : ℕ → List Record}, (∀ k, ChainOf (rs k) (s.nethash k)) → (∀ e ∈ es, e.skb.IsIp) →
    (∀ e ∈ es, e.env.malloc ≠ none) → (∀ e ∈ es, ¬ e.skb.Hangs cfg) →
    ∃ s', nat25Inserts cfg es s = some s' ∧
      ∀ k, ChainOf (rs k ++ (es.filterMap (Nat25Insert.filed cfg k)).map recordOf) (s'.nethash k)
  | [], s, rs, h, _, _, _ => ⟨s, rfl, fun k => by simpa using h k⟩
  | e :: es, s, rs, h, hip, hmalloc, hret => by
    obtain ⟨r, skb', hres⟩ := nat25DbHandle_insert cfg e.env s (hip e mem_cons_self)
      (hret e mem_cons_self)
    have hnext := chainOf_recordFrame cfg h e (hmalloc e mem_cons_self)
    obtain ⟨s', hrun, hchain⟩ := nat25Inserts_chainOf cfg es hnext
      (fun e' he' => hip e' (mem_cons_of_mem e he'))
      (fun e' he' => hmalloc e' (mem_cons_of_mem e he'))
      (fun e' he' => hret e' (mem_cons_of_mem e he'))
    refine ⟨s', ?_, fun k => ?_⟩
    · rwa [nat25Inserts, hres]
    have hk := hchain k
    rcases hrec : e.filed cfg k with _ | p
    · simpa [hrec] using hk
    · simpa [hrec] using hk

end Runs

section Lookup

variable {cfg : BrCfg}

def bcastMac : Octets 6 := fun _ => 0xFF

/-- The destination after a lookup that has found nothing: unchanged, broadcast, or the bridge. -/
def IsFallback (dst brMac dst' : Octets 6) : Prop := dst' = dst ∨ dst' = bcastMac ∨ dst' = brMac

def foundEntry (cfg : BrCfg) (a : NetworkAddr) (s : BrExt) : Option Nat25Entry :=
  (s.nethash (nat25NetworkHash cfg a)).find? fun db => !rtwMemcmp db.networkAddr a

lemma lookupAndReplace_some {s : BrExt} (env : BrEnv) (h : foundEntry cfg a s = some db) :
    nat25DbNetworkLookupAndReplace cfg env skb a s
      = (true, if nat25HasExpired cfg env db then skb else skb.set 0 db.macAddr) := by
  rw [foundEntry] at h
  rw [nat25DbNetworkLookupAndReplace, h]

lemma lookupAndReplace_none {s : BrExt} (env : BrEnv) (h : foundEntry cfg a s = none) :
    nat25DbNetworkLookupAndReplace cfg env skb a s = (false, skb) := by
  rw [foundEntry] at h
  rw [nat25DbNetworkLookupAndReplace, h]

def LookupDst (cfg : BrCfg) (env : BrEnv) (a : NetworkAddr) (s : BrExt)
    (dst dst' brMac : Octets 6) : Prop :=
  match foundEntry cfg a s with
  | some db => dst' = if nat25HasExpired cfg env db then dst else db.macAddr
  | none => IsFallback dst brMac dst'

section

variable (cfg : BrCfg) (env : BrEnv) (s : BrExt)

lemma lookupDst_replace (skb : Skb) (env : BrEnv) (a : NetworkAddr) (s : BrExt) :
    LookupDst cfg env a s (skb.get 0 6)
      ((nat25DbNetworkLookupAndReplace cfg env skb a s).2.get 0 6) s.brMac := by
  unfold LookupDst
  rcases hfound : foundEntry cfg a s with _ | db
  · rw [lookupAndReplace_none env hfound]
    exact .inl rfl
  · rw [lookupAndReplace_some env hfound]
    simp only
    split_ifs
    · rfl
    · exact get_set_self _

lemma nat25HandleIp_lookup (hlen : ¬ skb.len ≤ (skb.byte 14).toNat % 16 * 4) :
    ∃ skb' s', nat25HandleIp cfg env .lookup skb s = (0, skb', s') ∧
      LookupDst cfg env (nat25GenerateIpv4NetworkAddr (skb.get 30 4)) s (skb.get 0 6)
        (skb'.get 0 6) s'.brMac := by
  have hdst := lookupDst_replace cfg skb env (nat25GenerateIpv4NetworkAddr (skb.get 30 4)) s
  simp only [nat25HandleIp, if_neg hlen]
  rcases hfound : foundEntry cfg (nat25GenerateIpv4NetworkAddr (skb.get 30 4)) s with _ | db
  · rw [lookupAndReplace_none env hfound]
    unfold LookupDst
    rw [hfound]
    simp only
    split_ifs
    · exact ⟨_, _, rfl, .inr (.inl (get_set_self _))⟩
    · exact ⟨_, _, rfl, .inr (.inr (get_set_self _))⟩
    · exact ⟨_, _, rfl, .inr (.inr (get_set_self _))⟩
  · rw [lookupAndReplace_some env hfound] at hdst ⊢
    exact ⟨_, _, rfl, hdst⟩

lemma nat25DbHandle_lookup {a : IpAddr} (hdest : skb.dest = some a) :
    ∃ skb' s', nat25DbHandle cfg env .lookup skb s = some (0, skb', s') ∧
      LookupDst cfg env a.networkAddr s (skb.get 0 6) (skb'.get 0 6) s'.brMac := by
  unfold dest ipAddr at hdest
  split_ifs at hdest with hip hlen harp hpro hv6 hshort
  · cases hdest
    obtain ⟨skb', s', hres, hdst⟩ := nat25HandleIp_lookup cfg env s hlen
    exact ⟨skb', s', by rw [nat25DbHandle, if_pos hip, hres], hdst⟩
  · cases hdest
    have hdst := lookupDst_replace cfg skb env (nat25GenerateIpv4NetworkAddr
      (skb.get (22 + (skb.byte 18).toNat + ((skb.byte 18).toNat + (skb.byte 19).toNat)) 4)) s
    refine ⟨_, s, by rw [nat25DbHandle, if_neg hip, if_pos harp, nat25HandleArp, if_neg hpro], ?_⟩
    rwa [get_set_of_disjoint _ (by omega)]
  · cases hdest
    have hdst := lookupDst_replace cfg skb env (nat25GenerateIpv6NetworkAddr (skb.get 38 16)) s
    exact ⟨_, s, by rw [nat25DbHandle_ipv6 cfg env .lookup s hv6, nat25HandleIpv6, if_neg hshort],
      hdst⟩

end

end Lookup

lemma not_hasExpired {cfg : BrCfg} {env : BrEnv} (hhz : 300 * cfg.hz.toNat < 2 ^ 63)
    (h : (env.jiffies - db.ageingTimer).toNat < 300 * cfg.hz.toNat) :
    nat25HasExpired cfg env db = false := by
  have htime : (300 * cfg.hz).toNat = 300 * cfg.hz.toNat := by
    exact Nat.mod_eq_of_lt (by simpa using by omega)
  unfold nat25HasExpired timeBeforeEq
  rw [decide_eq_false_iff_not]
  rw [UInt64.toNat_sub] at h
  rw [UInt64.toNat_sub, UInt64.toNat_sub, htime]
  omega

/-- The database is empty at first, the frames are IPv4, ARP and IPv6, there is memory for the
records, and the lookup comes within the ageing time. -/
structure Nat25Run (cfg : BrCfg) (s : BrExt) (es : List Nat25Insert) (env : BrEnv) (skb : Skb)
    (a : IpAddr) : Prop where
  hz : 300 * cfg.hz.toNat < 2 ^ 63
  empty : ∀ k, s.nethash k = []
  ip : ∀ e ∈ es, e.skb.IsIp
  malloc : ∀ e ∈ es, e.env.malloc ≠ none
  age : ∀ e ∈ es, (env.jiffies - e.env.jiffies).toNat < 300 * cfg.hz.toNat
  dest : skb.dest = some a

def nat25Answer (cfg : BrCfg) (s : BrExt) (es : List Nat25Insert) (env : BrEnv) (skb : Skb) :
    Option (Octets 6 × Octets 6) :=
  (nat25Inserts cfg es s).bind fun s =>
    (nat25DbHandle cfg env .lookup skb s).map fun res => (res.2.1.get 0 6, res.2.2.brMac)

def Nat25Insert.IsFrom (a : IpAddr) (e : Nat25Insert) : Prop := e.skb.source = some a

instance (a : IpAddr) : DecidablePred (Nat25Insert.IsFrom a) :=
  fun e => inferInstanceAs (Decidable (e.skb.source = some a))

/-- The answer is the MAC address of the last frame from `a`, and where there is none it is not one
that was recorded for another address. -/
structure Translates (es : List Nat25Insert) (a : IpAddr) (dst dst' brMac : Octets 6) : Prop where
  known : a.isZero = false → ∀ e, (es.filter (·.IsFrom a)).getLast? = some e → dst' = e.mac
  unknown : (∀ e ∈ es, e.IsFrom a → a.isZero = true) →
    IsFallback dst brMac dst' ∨ ∃ e ∈ es, e.IsFrom a ∧ dst' = e.mac

/-- The frame gets the MAC address last inserted for `a`. -/
def Nat25Maps (cfg : BrCfg) (s : BrExt) (es : List Nat25Insert) (env : BrEnv) (skb : Skb)
    (a : IpAddr) : Prop :=
  ∃ dst' brMac, nat25Answer cfg s es env skb = some (dst', brMac) ∧
    Translates es a (skb.get 0 6) dst' brMac

def bucketOf (cfg : BrCfg) (es : List Nat25Insert) (a : IpAddr) : List (IpAddr × Nat25Insert) :=
  es.filterMap (Nat25Insert.filed cfg (nat25NetworkHash cfg a.networkAddr))

/-- The insertions return, the frames from `a` are recorded under `a`, and in the bucket of `a` the
first frame is under another address and the last one is from `a`. -/
structure Nat25OK (cfg : BrCfg) (es : List Nat25Insert) (a : IpAddr) : Prop where
  returns : ∀ e ∈ es, ¬ e.skb.Hangs cfg
  recorded : a.isZero = false → ∀ e ∈ es, e.IsFrom a → e.skb.recorded cfg = some a
  bucket : ∀ p ∈ (bucketOf cfg es a).head?, if p.1 = a then a.isZero = true
    else ∃ q ∈ (bucketOf cfg es a).getLast?, q.2.IsFrom a

section Map

variable {cfg : BrCfg} {s : BrExt} {es : List Nat25Insert} {env : BrEnv} {a : IpAddr}

lemma filed_snd {k : ℕ} {e : Nat25Insert} {p : IpAddr × Nat25Insert}
    (h : e.filed cfg k = some p) : p.2 = e := by
  obtain ⟨b, -, hb⟩ := bind_eq_some_iff.1 h
  split_ifs at hb
  rw [← some.inj hb]

lemma getLast_isFrom (hrec : ∀ e ∈ es, e.IsFrom a → e.skb.recorded cfg = some a)
    {q : IpAddr × Nat25Insert} (hq : (bucketOf cfg es a).getLast? = some q) (hfrom : q.2.IsFrom a) :
    (es.filter (·.IsFrom a)).getLast? = some q.2 := by
  obtain ⟨B, hB⟩ := getLast?_eq_some_iff.1 hq
  obtain ⟨l₁, l₂, rfl, -, hl₂⟩ := filterMap_eq_append_iff.1 hB
  obtain ⟨m₁, e, m₂, rfl, -, he, hm₂⟩ := filterMap_eq_cons_iff.1 hl₂
  obtain rfl : q.2 = e := filed_snd he
  have hnone : m₂.filter (·.IsFrom a) = [] := by
    refine filter_eq_nil_iff.2 fun e' he' hfrom' => ?_
    have hin : e' ∈ l₁ ++ (m₁ ++ q.2 :: m₂) := by simp [he']
    have hfiled := filterMap_eq_nil_iff.1 hm₂ e' he'
    rw [Nat25Insert.filed, hrec e' hin (of_decide_eq_true hfrom')] at hfiled
    simp at hfiled
  simp [filter_append, hfrom, hnone]

lemma nat25Answer_eq (h : Nat25Run cfg s es env skb a) (hret : ∀ e ∈ es, ¬ e.skb.Hangs cfg) :
    ∃ dst' brMac, nat25Answer cfg s es env skb = some (dst', brMac) ∧
      if ∃ p ∈ (bucketOf cfg es a).head?, p.1 ≠ a then
        ∀ q ∈ (bucketOf cfg es a).getLast?, dst' = q.2.mac
      else IsFallback (skb.get 0 6) brMac dst' := by
  have hstart : ∀ k, ChainOf [] (s.nethash k) := by
    intro k
    rw [h.empty k]
    exact ⟨fun _ => rfl, nofun, nofun, nofun⟩
  obtain ⟨s₁, hrun, hchain⟩ := nat25Inserts_chainOf cfg es hstart h.ip h.malloc hret
  obtain ⟨skb', s₂, hres, hdst⟩ := nat25DbHandle_lookup cfg env s₁ h.dest
  refine ⟨skb'.get 0 6, s₂.brMac, ?_, ?_⟩
  · rw [nat25Answer, hrun, bind_some, hres]
    rfl
  have hbucket : ChainOf ((bucketOf cfg es a).map recordOf)
      (s₁.nethash (nat25NetworkHash cfg a.networkAddr)) :=
    hchain (nat25NetworkHash cfg a.networkAddr)
  unfold LookupDst foundEntry at hdst
  rw [hbucket.find a.networkAddr] at hdst
  split_ifs with hfirst
  · intro q hq
    obtain ⟨p, hp, hne⟩ := hfirst
    have hno : ¬ ∃ r ∈ ((bucketOf cfg es a).map recordOf).head?, r.networkAddr = a.networkAddr := by
      rintro ⟨r, hr, hra⟩
      rw [head?_map, mem_def.1 hp] at hr
      cases hr
      exact hne (IpAddr.networkAddr_injective hra)
    rw [if_neg hno] at hdst
    obtain ⟨db, hdb, hmac⟩ := hbucket.last (recordOf q) (by
      rw [getLast?_map, mem_def.1 hq]
      rfl)
    have halive : nat25HasExpired cfg env db = false := by
      obtain ⟨r, hr, ht⟩ := hbucket.timer db (mem_of_mem_head? hdb)
      obtain ⟨p', hp', rfl⟩ := mem_map.1 hr
      obtain ⟨e, he, hfiled⟩ := mem_filterMap.1 hp'
      refine not_hasExpired h.hz ?_
      rw [ht, recordOf, filed_snd hfiled]
      exact h.age e he
    rw [mem_def.1 hdb] at hdst
    simp [halive] at hdst
    rw [hdst, hmac]
    rfl
  · rcases hB : bucketOf cfg es a with _ | ⟨p, B⟩ <;> rw [hB] at hdst hfirst hbucket
    · rw [hbucket.empty rfl] at hdst
      simpa using hdst
    · have hp : p.1 = a := by
        by_contra hne
        exact hfirst ⟨p, rfl, hne⟩
      rwa [if_pos ⟨recordOf p, rfl, by rw [recordOf, hp]⟩] at hdst

theorem nat25_translates (h : Nat25Run cfg s es env skb a) (hok : Nat25OK cfg es a) :
    Nat25Maps cfg s es env skb a := by
  obtain ⟨dst', brMac, hanswer, hdst⟩ := nat25Answer_eq h hok.returns
  refine ⟨dst', brMac, hanswer, ?_⟩
  rcases hB : bucketOf cfg es a with _ | ⟨p, B⟩
  · -- nothing was recorded in the bucket, so there is no frame from `a`
    rw [hB, if_neg (by simp)] at hdst
    refine ⟨fun hzero e he => ?_, fun _ => .inl hdst⟩
    have hmem := mem_filter.1 (mem_of_getLast? he)
    have hrec := hok.recorded hzero e hmem.1 (of_decide_eq_true hmem.2)
    have hin : (a, e) ∈ bucketOf cfg es a :=
      mem_filterMap.2 ⟨e, hmem.1, by simp [Nat25Insert.filed, hrec]⟩
    rw [hB] at hin
    cases hin
  have hbucket := hok.bucket p (by rw [hB]; rfl)
  split_ifs at hbucket with hp
  · have hno : ¬ ∃ p ∈ (bucketOf cfg es a).head?, p.1 ≠ a := by
      rw [hB]
      rintro ⟨_, ⟨⟩, hne⟩
      exact hne hp
    rw [if_neg hno] at hdst
    refine ⟨fun hzero => ?_, fun _ => .inl hdst⟩
    rw [hbucket] at hzero
    cases hzero
  · obtain ⟨q, hq, hfrom⟩ := hbucket
    rw [if_pos ⟨p, by rw [hB]; rfl, hp⟩] at hdst
    have hmac := hdst q hq
    refine ⟨fun hzero e he => ?_, fun _ => .inr ⟨q.2, ?_, hfrom, hmac⟩⟩
    · rw [getLast_isFrom (hok.recorded hzero) hq hfrom] at he
      rw [hmac, some.inj he]
    · obtain ⟨e, he, hfiled⟩ := mem_filterMap.1 (mem_of_getLast? hq)
      rwa [filed_snd hfiled]

end Map

def skbOf (bs : List UInt8) : Skb := ⟨fun i => bs.getD i 0, 0, bs.length, 0⟩

def ipFrame (da sa saddr daddr : List UInt8) : Skb :=
  skbOf (da ++ sa ++ [0x08, 0x00, 0x45] ++ replicate 11 0 ++ saddr ++ daddr)

def sampleBrCfg : BrCfg := ⟨fun _ => 2, true, 250, false⟩

def sampleBrEnv (jiffies : UInt64) (malloc : ℕ) : BrEnv :=
  ⟨jiffies, some malloc, fun _ => 0, fun _ _ => 0, none⟩

def sampleBrExt : BrExt :=
  ⟨fun _ => [], 0, fun _ => 0, fun _ => 0, fun _ => 0, none, fun _ => 9, fun _ => 0, false⟩

def hostFrame : Nat25Insert :=
  ⟨sampleBrEnv 1000 1, ipFrame [8, 8, 8, 8, 8, 8] [4, 4, 4, 4, 4, 4] [10, 0, 0, 1] [10, 0, 0, 9]⟩

def neighbourFrame : Nat25Insert :=
  ⟨sampleBrEnv 1001 2, ipFrame [8, 8, 8, 8, 8, 8] [6, 6, 6, 6, 6, 6] [11, 0, 0, 0] [10, 0, 0, 9]⟩

def replyTo (daddr : List UInt8) : Skb :=
  ipFrame [2, 2, 2, 2, 2, 2] [8, 8, 8, 8, 8, 8] [10, 0, 0, 9] daddr

lemma sampleBrRun {es : List Nat25Insert} (hip : ∀ e ∈ es, e = hostFrame ∨ e = neighbourFrame)
    {skb : Skb} {a : IpAddr} (hdest : skb.dest = some a) :
    Nat25Run sampleBrCfg sampleBrExt es (sampleBrEnv 1002 3) skb a := by
  refine ⟨by decide, fun _ => rfl, fun e he => .inl ?_, fun e he => ?_, fun e he => ?_, hdest⟩
  all_goals
    rcases hip e he with rfl | rfl <;> decide

/-- The neighbour comes second, and is found. -/
theorem nat25_translates_neighbour :
    Nat25Maps sampleBrCfg sampleBrExt [hostFrame, neighbourFrame] (sampleBrEnv 1002 3)
      (replyTo [11, 0, 0, 0]) (.v4 ![11, 0, 0, 0]) := by
  refine nat25_translates (sampleBrRun (by simp) (by decide)) ⟨fun e he hangs => ?_, ?_, ?_⟩
  · rcases mem_pair.1 he with rfl | rfl <;> exact absurd hangs.1 (by decide)
  · decide
  rintro p hp
  have hbucket : (bucketOf sampleBrCfg [hostFrame, neighbourFrame] (.v4 ![11, 0, 0, 0]))
      = [(.v4 ![10, 0, 0, 1], hostFrame), (.v4 ![11, 0, 0, 0], neighbourFrame)] := by
    have hhost : hostFrame.skb.recorded sampleBrCfg = some (.v4 ![10, 0, 0, 1]) := by decide
    have hneigh : neighbourFrame.skb.recorded sampleBrCfg = some (.v4 ![11, 0, 0, 0]) := by decide
    have hhash : nat25NetworkHash sampleBrCfg (IpAddr.v4 ![10, 0, 0, 1]).networkAddr
        = nat25NetworkHash sampleBrCfg (IpAddr.v4 ![11, 0, 0, 0]).networkAddr := by decide
    simp [bucketOf, Nat25Insert.filed, hhost, hneigh, hhash]
  rw [hbucket] at hp ⊢
  cases hp
  exact ⟨_, rfl, by decide⟩

/-- A single host is not found. -/
theorem nat25_translates_fails : let env := sampleBrEnv 1002 3
    let reply := replyTo [10, 0, 0, 1]
    Nat25Run sampleBrCfg sampleBrExt [hostFrame] env reply (.v4 ![10, 0, 0, 1]) ∧
      ¬ Nat25Maps sampleBrCfg sampleBrExt [hostFrame] env reply (.v4 ![10, 0, 0, 1]) := by
  refine ⟨sampleBrRun (by simp) (by decide), ?_⟩
  rintro ⟨dst', brMac, hanswer, htrans⟩
  have hbr : nat25Answer sampleBrCfg sampleBrExt [hostFrame] (sampleBrEnv 1002 3)
      (replyTo [10, 0, 0, 1]) = some (fun _ => 9, fun _ => 9) := by
    decide
  rw [hbr] at hanswer
  obtain ⟨rfl, rfl⟩ := Prod.mk.inj (some.inj hanswer)
  have hfrom : hostFrame.IsFrom (.v4 ![10, 0, 0, 1]) := by decide
  have hmac := htrans.known (by decide) hostFrame (by simp [hfrom])
  exact absurd (congrFun hmac 0) (by decide)

end Rtl8852be

import Mathlib.Data.List.Induction
import Rtl8852be.ApCap
import Rtl8852be.Lib.BitMap
import Rtl8852be.Lib.Run
import Rtl8852be.Lib.Tally

/-!
# The counters of an access point

The counters always count the flags of the stations. Four of the flags follow what the station told
last; the other three are never cleared until it leaves.
-/

namespace Rtl8852be

open Run Function List ApBss

variable {ι : Type*} {new : BitVec 16}

def ApBss.flags (s : ApBss ι) : ι → StaProp → Bool := fun i => (s.sta i).set

structure CapMove (p : ι) (s s' : ApBss ι) : Prop where
  moves : Tally.Moves p s.num s.flags s'.num s'.flags
  cap : ∀ i, (s'.sta i).cap = (s.sta i).cap
  olbcHt : s'.olbcHt = s.olbcHt

section Branch

variable {p : ι} {s s' s'' : ApBss ι} {k : StaProp}

lemma CapMove.of_same (p : ι) (hnum : s'.num = s.num) (hsta : s'.sta = s.sta)
    (holbc : s'.olbcHt = s.olbcHt) : CapMove p s s' := by
  have hflags : s'.flags = s.flags := funext fun i => by rw [flags, flags, hsta]
  refine ⟨?_, fun i => by rw [hsta], holbc⟩
  rw [hflags, hnum]
  exact .refl p s.num s.flags

lemma CapMove.refl (p : ι) (s : ApBss ι) : CapMove p s s := .of_same p rfl rfl rfl

lemma CapMove.trans (h : CapMove p s s') (h' : CapMove p s' s'') : CapMove p s s'' :=
  ⟨h.moves.trans h'.moves, fun i => (h'.cap i).trans (h.cap i), h'.olbcHt.trans h.olbcHt⟩

variable [DecidableEq ι]

lemma flags_write_self (p : ι) (k : StaProp) (b : Bool) (n : ℤ) :
    (s.write p k b n).flags p = update (s.flags p) k b :=
  congrArg ApSta.set (update_self p _ s.sta)

lemma write_move {b : Bool} {n : ℤ} (h : n + (s.flags p k).toInt = s.num k + b.toInt) :
    CapMove p s (s.write p k b n) := by
  refine ⟨⟨fun j hj => ?_, fun k' => ?_⟩, fun i => ?_, rfl⟩
  · exact congrArg ApSta.set (update_of_ne hj _ s.sta)
  · rw [flags_write_self]
    by_cases hk : k' = k
    · subst hk
      simpa using h
    · simp [hk]
  · by_cases hi : i = p
    · subst hi
      simp
    · simp [hi]

section

variable (s : ApBss ι) (cfg : ApCfg) (p : ι) (k : StaProp)

lemma mark_move : CapMove p s (s.mark p k) := by
  unfold mark
  split_ifs with h
  · exact .refl p s
  · refine write_move ?_
    simp [flags, h]

lemma unmark_move : CapMove p s (s.unmark p k) := by
  unfold unmark
  split_ifs with h
  · refine write_move ?_
    simp [flags, h]
  · exact .refl p s

@[simp] lemma flags_mark : (s.mark p k).flags p = update (s.flags p) k true := by
  unfold mark
  split_ifs with h
  · exact (update_eq_self_iff.2 h.symm).symm
  · exact flags_write_self p k true _

@[simp] lemma flags_unmark : (s.unmark p k).flags p = update (s.flags p) k false := by
  unfold unmark
  split_ifs with h
  · exact flags_write_self p k false _
  · exact (update_eq_self_iff.2 (Bool.eq_false_iff.2 h).symm).symm

lemma follow_move (has : Bool) : CapMove p s (s.follow p k has) := by
  unfold follow
  split_ifs
  · exact mark_move s p k
  · exact unmark_move s p k

lemma flags_follow (has : Bool) : (s.follow p k has).flags p = update (s.flags p) k has := by
  cases has <;> simp [follow]

lemma raise_move (has : Bool) : CapMove p s (s.raise p k has) := by
  unfold raise
  split_ifs
  · exact mark_move s p k
  · exact .refl p s

@[simp] lemma flags_raise (has : Bool) :
    (s.raise p k has).flags p = update (s.flags p) k (has || s.flags p k) := by
  cases has <;> simp [raise]

lemma followShort_move (has : Bool) : CapMove p s (s.followShort cfg p k has) :=
  (follow_move s p k has).trans (.of_same p rfl rfl rfl)

@[simp] lemma flags_followShort (has : Bool) :
    (s.followShort cfg p k has).flags p = update (s.flags p) k has :=
  flags_follow s p k has

lemma followErp_move (has : Bool) : CapMove p s (s.followErp p has) := by
  unfold followErp
  split_ifs
  · exact (follow_move s p .nonErp has).trans (.of_same p rfl rfl rfl)
  · exact follow_move s p .nonErp has

@[simp] lemma flags_followErp (has : Bool) :
    (s.followErp p has).flags p = update (s.flags p) .nonErp has := by
  unfold followErp
  split_ifs <;> exact flags_follow s p .nonErp has

end

end Branch

/-- The bits of `ht_op_mode` as the counters have them. -/
structure ModeOK (cfg : ApCfg) (num : StaProp → ℤ) (olbcHt : Bool) (mode : BitVec 16) : Prop where
  nonGf : mode &&& htInfoNonGfDevsPresent ≠ 0 ↔ num .htNoGf ≠ 0
  nonHt : mode &&& htInfoNonHtStaPresent ≠ 0 ↔ num .noHt ≠ 0 ∨ olbcHt = true
  opMode : mode &&& htInfoOpModeMask = newOpMode cfg num olbcHt

section Mode

variable {mask m' : BitVec 16} {present : Bool} {x : ℕ × BitVec 16}

lemma presenceBit_and_self (hmask : mask ≠ 0) :
    (presenceBit mask present x).2 &&& mask ≠ 0 ↔ present = true := by
  unfold presenceBit
  split_ifs with hset hclr
  · rw [BitMap.or_and_self]
    exact iff_of_true hmask hset.2
  · rw [BitMap.andNot_and_self, hclr.2]
    simp
  · cases present <;> simp_all

lemma presenceBit_and_of_disjoint (h : mask &&& m' = 0) :
    (presenceBit mask present x).2 &&& m' = x.2 &&& m' := by
  unfold presenceBit
  split_ifs
  · exact BitMap.or_and_of_disjoint h x.2
  · exact BitMap.andNot_and_of_disjoint h x.2
  · rfl

lemma replaceOpMode_and_mask (hnew : new &&& htInfoOpModeMask = new) :
    (replaceOpMode new x).2 &&& htInfoOpModeMask = new := by
  unfold replaceOpMode
  split_ifs with h
  · exact BitMap.andNot_or_and_self hnew x.2
  · exact not_not.1 h

lemma replaceOpMode_and_of_disjoint (hnew : new &&& htInfoOpModeMask = new)
    (h : htInfoOpModeMask &&& m' = 0) : (replaceOpMode new x).2 &&& m' = x.2 &&& m' := by
  have hnew' : new &&& m' = 0 := by
    rw [← hnew, BitVec.and_assoc, h]
    simp
  unfold replaceOpMode
  split_ifs
  · rw [BitMap.or_and_of_disjoint hnew', BitMap.andNot_and_of_disjoint h]
  · rfl

lemma newOpMode_and_mask (cfg : ApCfg) (num : StaProp → ℤ) (olbcHt : Bool) :
    newOpMode cfg num olbcHt &&& htInfoOpModeMask = newOpMode cfg num olbcHt := by
  unfold newOpMode
  split_ifs <;> rfl

lemma rtwHtOperationUpdate_mode {cfg : ApCfg} (hopt : cfg.htOption = true) (s : ApBss ι) :
    ModeOK cfg s.num s.olbcHt (rtwHtOperationUpdate cfg s).2.htOpMode := by
  have hnew := newOpMode_and_mask cfg s.num s.olbcHt
  simp only [rtwHtOperationUpdate, hopt, if_true]
  refine ⟨?_, ?_, ?_⟩
  · rw [replaceOpMode_and_of_disjoint hnew (by decide), presenceBit_and_of_disjoint (by decide),
      presenceBit_and_self (by decide), decide_eq_true_iff]
  · rw [replaceOpMode_and_of_disjoint hnew (by decide), presenceBit_and_self (by decide)]
    simp
  · exact replaceOpMode_and_mask hnew

def capFinish (cfg : ApCfg) (noted : Bool) (s : ApBss ι) : ApBss ι :=
  endBeacon (htBeacon noted (rtwHtOperationUpdate cfg s))

lemma capFinish_same (cfg : ApCfg) (noted : Bool) (s : ApBss ι) :
    (capFinish cfg noted s).num = s.num ∧ (capFinish cfg noted s).sta = s.sta ∧
      (capFinish cfg noted s).olbcHt = s.olbcHt := by
  unfold capFinish endBeacon htBeacon rtwHtOperationUpdate
  split_ifs <;> exact ⟨rfl, rfl, rfl⟩

lemma flags_capFinish (cfg : ApCfg) (noted : Bool) (s : ApBss ι) :
    (capFinish cfg noted s).flags = s.flags := by
  obtain ⟨-, hsta, -⟩ := capFinish_same cfg noted s
  funext i
  rw [flags, flags, hsta]

lemma capFinish_mode {cfg : ApCfg} (hopt : cfg.htOption = true) (noted : Bool) (s : ApBss ι) :
    ModeOK cfg (capFinish cfg noted s).num (capFinish cfg noted s).olbcHt
      (capFinish cfg noted s).htOpMode := by
  obtain ⟨hn, -, ho⟩ := capFinish_same cfg noted s
  have hm : (capFinish cfg noted s).htOpMode = (rtwHtOperationUpdate cfg s).2.htOpMode := by
    unfold capFinish endBeacon htBeacon
    split_ifs <;> rfl
  rw [hn, ho, hm]
  exact rtwHtOperationUpdate_mode hopt s

lemma timOnStaLeave_move (p : ι) (s : ApBss ι) : CapMove p s (timOnStaLeave p s) := by
  unfold timOnStaLeave
  split_ifs
  · exact .of_same p rfl rfl rfl
  · exact .refl p s

lemma flags_timOnStaLeave (p : ι) (s : ApBss ι) : (timOnStaLeave p s).flags = s.flags := by
  unfold timOnStaLeave
  split_ifs
  · rfl
  · rfl

end Mode

variable [DecidableEq ι]

def StaCap.has (cap : StaCap) : StaProp → Bool
  | .noShortPreamble => cap.flags &&& wlanStaShortPreamble == 0
  | .nonErp => cap.flags &&& wlanStaNonerp != 0
  | .noShortSlotTime => cap.capability &&& wlanCapabilityShortSlot == 0
  | .noHt => cap.flags &&& wlanStaHt == 0
  | .htNoGf => cap.flags &&& wlanStaHt != 0 && cap.htCapab &&& ieee80211HtCapGrnFld == 0
  | .ht20mhz => cap.flags &&& wlanStaHt != 0 && cap.htCapab &&& ieee80211HtCapSupWidth == 0
  | .ht40mhzIntolerant =>
    cap.flags &&& wlanStaHt != 0 && cap.htCapab &&& ieee80211HtCap40mhzIntolerant != 0

/-- The flags that only leaving clears. -/
@[local simp] def StaProp.sticky : StaProp → Bool
  | .htNoGf | .ht20mhz | .ht40mhzIntolerant => true
  | _ => false

/-- An HT access point. -/
structure ApCfg.HtAp (cfg : ApCfg) : Prop where
  enable : cfg.htEnable = true
  supported : cfg.isSupportedHt = true
  option : cfg.htOption = true

section Calls

variable {cfg : ApCfg} {p : ι} {s : ApBss ι}

section

variable (cfg : ApCfg) (p : ι) (preamble erp slot : Bool) (s : ApBss ι) (k : StaProp)

lemma htOnStaJoin_move : CapMove p s (htOnStaJoin p s) := by
  simp only [htOnStaJoin]
  split_ifs
  · exact (((unmark_move s p .noHt).trans (raise_move _ p .htNoGf _)).trans
      (raise_move _ p .ht20mhz _)).trans (raise_move _ p .ht40mhzIntolerant _)
  · exact mark_move s p .noHt

lemma flags_htOnStaJoin : (htOnStaJoin p s).flags p k =
      if k.sticky then (s.sta p).cap.has k || s.flags p k
      else if k = .noHt then (s.sta p).cap.has k else s.flags p k := by
  simp only [htOnStaJoin]
  by_cases hht : (s.sta p).cap.flags &&& wlanStaHt ≠ 0
  · have hne : ¬ (s.sta p).cap.flags &&& wlanStaHt = 0#32 := hht
    have hbne : ((s.sta p).cap.flags &&& wlanStaHt != 0#32) = true := bne_iff_ne.2 hht
    cases k <;> simp [StaCap.has, hne, hbne]
  · have heq : (s.sta p).cap.flags &&& wlanStaHt = 0#32 := not_not.1 hht
    cases k <;> simp [StaCap.has, heq]

def capHead (cfg : ApCfg) (p : ι) (preamble erp slot : Bool) (s : ApBss ι) : ApBss ι :=
  ((s.followShort cfg p .noShortPreamble preamble).followErp p erp).followShort cfg p
    .noShortSlotTime slot

lemma capHead_move : CapMove p s (capHead cfg p preamble erp slot s) :=
  ((followShort_move s cfg p .noShortPreamble preamble).trans (followErp_move _ p erp)).trans
    (followShort_move _ cfg p .noShortSlotTime slot)

lemma flags_capHead : (capHead cfg p preamble erp slot s).flags p k = match k with
      | .noShortPreamble => preamble
      | .nonErp => erp
      | .noShortSlotTime => slot
      | k => s.flags p k := by
  unfold capHead
  cases k <;> simp

end

lemma bssCapUpdateOnStaJoin_eq (hht : cfg.HtAp) (p : ι) (s : ApBss ι) :
    ∃ s', bssCapUpdateOnStaJoin cfg p s = capFinish cfg true s' ∧ CapMove p s s' ∧
      ∀ k, s'.flags p k = if k.sticky then (s.sta p).cap.has k || s.flags p k
        else (s.sta p).cap.has k := by
  have hstart : CapMove p s { s with beaconUpdated := false } := .of_same p rfl rfl rfl
  have hmove := hstart.trans (capHead_move cfg p ((s.sta p).cap.has .noShortPreamble)
    ((s.sta p).cap.has .nonErp) ((s.sta p).cap.has .noShortSlotTime) _)
  simp [bssCapUpdateOnStaJoin, hht.enable, hht.supported]
  refine ⟨_, rfl, hmove.trans (htOnStaJoin_move p _), fun k => ?_⟩
  have hflags := flags_htOnStaJoin p (capHead cfg p ((s.sta p).cap.has .noShortPreamble)
    ((s.sta p).cap.has .nonErp) ((s.sta p).cap.has .noShortSlotTime)
    { s with beaconUpdated := false }) k
  rw [hmove.cap p, flags_capHead] at hflags
  refine hflags.trans ?_
  cases k <;> simp <;> rfl

lemma intolerantOnStaLeave_move (h : s.flags p .ht40mhzIntolerant = true →
    0 < s.num .ht40mhzIntolerant) : CapMove p s (intolerantOnStaLeave p s) := by
  unfold intolerantOnStaLeave
  split_ifs with hset hpos
  · refine write_move ?_
    simp [flags, hset]
  · exact absurd (h hset) hpos
  · exact .refl p s

@[simp] lemma flags_intolerantOnStaLeave (p : ι) (s : ApBss ι) :
    (intolerantOnStaLeave p s).flags p = update (s.flags p) .ht40mhzIntolerant false := by
  unfold intolerantOnStaLeave
  by_cases h : (s.sta p).set .ht40mhzIntolerant
  · rw [if_pos h]
    exact flags_write_self p _ false _
  · rw [if_neg h]
    exact (update_eq_self_iff.2 (Bool.eq_false_iff.2 h).symm).symm

def capLeave (cfg : ApCfg) (p : ι) (s : ApBss ι) : ApBss ι :=
  (((capHead cfg p false false false
    (timOnStaLeave p { s with beaconUpdated := false })).unmark p .htNoGf).unmark p .noHt).unmark p
      .ht20mhz

lemma capLeave_move (cfg : ApCfg) (p : ι) (s : ApBss ι) : CapMove p s (capLeave cfg p s) := by
  have hstart : CapMove p s { s with beaconUpdated := false } := .of_same p rfl rfl rfl
  have hhead := (hstart.trans (timOnStaLeave_move p _)).trans
    (capHead_move cfg p false false false _)
  exact ((hhead.trans (unmark_move _ p .htNoGf)).trans (unmark_move _ p .noHt)).trans
    (unmark_move _ p .ht20mhz)

lemma flags_capLeave (cfg : ApCfg) (p : ι) (s : ApBss ι) (k : StaProp) :
    (capLeave cfg p s).flags p k = (decide (k = .ht40mhzIntolerant) && s.flags p k) := by
  unfold capLeave
  cases k <;> simp [flags_capHead, flags_timOnStaLeave]
  rfl

lemma bssCapUpdateOnStaLeave_eq (cfg : ApCfg) (hpos : s.flags p .ht40mhzIntolerant = true →
    0 < s.num .ht40mhzIntolerant) :
    ∃ s', bssCapUpdateOnStaLeave cfg p s = capFinish cfg false s' ∧ CapMove p s s' ∧
      ∀ k, s'.flags p k = false := by
  have hmove := capLeave_move cfg p s
  have hflags := flags_capLeave cfg p s .ht40mhzIntolerant
  refine ⟨intolerantOnStaLeave p (capLeave cfg p s), rfl,
    hmove.trans (intolerantOnStaLeave_move fun hset => ?_), fun k => ?_⟩
  · have hnum := hmove.moves.num .ht40mhzIntolerant
    rw [hset] at hflags hnum
    have hold : s.flags p .ht40mhzIntolerant = true := by simpa using hflags.symm
    rw [hold] at hnum
    have := hpos hold
    omega
  · cases k <;> simp [flags_capLeave]

end Calls

structure StaRoster (ι : Type*) where
  members : List ι
  cap : ι → StaCap

def StaRoster.start : StaRoster ι := ⟨[], fun _ => ⟨0, 0, 0⟩⟩

def StaRoster.count (r : StaRoster ι) (k : StaProp) : ℤ := r.members.countP fun i => (r.cap i).has k

def staRosterStep (r : StaRoster ι) (e : ApEvent ι) : StaRoster ι :=
  match e.call with
  | .join p cap =>
    ⟨if p ∈ r.members then r.members else p :: r.members, update r.cap p cap⟩
  | .leave p => { r with members := r.members.erase p }

/-- The counters are the numbers of stations, and `ht_op_mode` follows from them. -/
structure CapFollows (cfg : ApCfg) (r : StaRoster ι) (s : ApBss ι) : Prop where
  num : ∀ k, s.num k = r.count k
  mode : ModeOK cfg r.count s.olbcHt s.htOpMode

/-- A station that associates again has not gained greenfield, 40 MHz or tolerance, nor lost HT
after it had lacked one of these. -/
def RejoinOK (r : StaRoster ι) (e : ApEvent ι) : Prop :=
  match e.call with
  | .join p cap =>
    p ∈ r.members → ∀ k, k.sticky = true → (r.cap p).has k = true → cap.has k = true
  | .leave _ => True

/-- No station has been counted. -/
structure ApBss.Fresh (s : ApBss ι) : Prop where
  num : ∀ k, s.num k = 0
  flags : ∀ i k, s.flags i k = false

structure CapInv (r : StaRoster ι) (s : ApBss ι) : Prop where
  counts : Tally.Counts r.members s.num s.flags
  above : ∀ i ∈ r.members, ∀ k, (r.cap i).has k = true → s.flags i k = true

def FlagsExact (r : StaRoster ι) (s : ApBss ι) : Prop :=
  ∀ i ∈ r.members, ∀ k, s.flags i k = (r.cap i).has k

section Step

variable {cfg : ApCfg} {p : ι} {cap : StaCap} {r : StaRoster ι} {s : ApBss ι}

omit [DecidableEq ι] in
lemma CapInv.num_iff (h : CapInv r s) : (∀ k, s.num k = r.count k) ↔ FlagsExact r s := by
  have hk : ∀ k, s.num k = r.count k ↔ ∀ i ∈ r.members, s.flags i k = (r.cap i).has k := by
    intro k
    rw [h.counts.num k, StaRoster.count, Int.ofNat_inj]
    exact Tally.countP_eq_iff fun i hi => h.above i hi k
  simp only [hk]
  exact ⟨fun hall i hi k => hall k i hi, fun hex k i hi => hex i hi k⟩

lemma flags_setCap (p : ι) (cap : StaCap) (s : ApBss ι) : (setCap p cap s).flags = s.flags := by
  funext i
  by_cases hi : i = p
  · subst hi
    simp [flags]
  · simp [flags, hi]

lemma apStep_join (hht : cfg.HtAp) (s : ApBss ι) (p : ι) (cap : StaCap) (olbcHt : Bool) :
    ∃ s', apStep cfg s ⟨.join p cap, olbcHt⟩ = capFinish cfg true s' ∧
      Tally.Moves p s.num s.flags s'.num s'.flags ∧
      ∀ k, s'.flags p k = if k.sticky then cap.has k || s.flags p k else cap.has k := by
  obtain ⟨s', heq, hmove, hflags⟩ :=
    bssCapUpdateOnStaJoin_eq hht p (setCap p cap { s with olbcHt := olbcHt })
  have hcap : ((setCap p cap { s with olbcHt := olbcHt }).sta p).cap = cap := by simp
  have hmoves := hmove.moves
  rw [flags_setCap] at hmoves hflags
  rw [hcap] at hflags
  exact ⟨s', heq, hmoves, hflags⟩

lemma apStep_leave (cfg : ApCfg) (h : Tally.Counts r.members s.num s.flags) (p : ι)
    (olbcHt : Bool) :
    ∃ s', apStep cfg s ⟨.leave p, olbcHt⟩ = capFinish cfg false s' ∧
      Tally.Moves p s.num s.flags s'.num s'.flags ∧ ∀ k, s'.flags p k = false := by
  obtain ⟨s', heq, hmove, hflags⟩ :=
    bssCapUpdateOnStaLeave_eq (p := p) (s := { s with olbcHt := olbcHt }) cfg h.pos
  exact ⟨s', heq, hmove.moves, hflags⟩

lemma mem_staRosterStep_join {i : ι} {olbcHt : Bool} :
    i ∈ (staRosterStep r ⟨.join p cap, olbcHt⟩).members ↔ i = p ∨ i ∈ r.members := by
  simp only [staRosterStep]
  split_ifs with hp
  · exact ⟨.inr, fun h => h.elim (fun hi => hi ▸ hp) id⟩
  · exact mem_cons

section

variable (h : CapInv r s) (hex : FlagsExact r s) (p : ι) (olbcHt : Bool)
include h

lemma CapInv.join (hht : cfg.HtAp) (cap : StaCap) :
    CapInv (staRosterStep r ⟨.join p cap, olbcHt⟩) (apStep cfg s ⟨.join p cap, olbcHt⟩) := by
  obtain ⟨s', heq, hmoves, hflags⟩ := apStep_join hht s p cap olbcHt
  obtain ⟨hnum, -, -⟩ := capFinish_same cfg true s'
  refine ⟨?_, fun i hi k hhas => ?_⟩
  · rw [heq, hnum, flags_capFinish]
    simp only [staRosterStep]
    split_ifs with hp
    · exact h.counts.moves hp hmoves
    · exact (h.counts.cons hp).moves mem_cons_self hmoves
  · rw [heq, flags_capFinish]
    simp only [staRosterStep] at hhas
    by_cases hip : i = p
    · subst hip
      rw [update_self] at hhas
      rw [hflags, hhas]
      simp
    · rw [update_of_ne hip] at hhas
      rw [hmoves.other i hip]
      exact h.above i ((mem_staRosterStep_join.1 hi).resolve_left hip) k hhas

lemma CapInv.leave (cfg : ApCfg) :
    CapInv (staRosterStep r ⟨.leave p, olbcHt⟩) (apStep cfg s ⟨.leave p, olbcHt⟩) := by
  obtain ⟨s', heq, hmoves, hflags⟩ := apStep_leave cfg h.counts p olbcHt
  obtain ⟨hnum, -, -⟩ := capFinish_same cfg false s'
  refine ⟨?_, fun i hi k hhas => ?_⟩
  · rw [heq, hnum, flags_capFinish]
    simp only [staRosterStep]
    by_cases hp : p ∈ r.members
    · exact (h.counts.moves hp hmoves).erase hflags
    · rw [erase_of_not_mem hp]
      exact h.counts.moves_absent hp hmoves hflags
  · obtain ⟨hip, hmem⟩ := (h.counts.nodup.mem_erase_iff).1 hi
    rw [heq, flags_capFinish, hmoves.other i hip]
    exact h.above i hmem k hhas

include hex

lemma FlagsExact.join_iff (hht : cfg.HtAp) (cap : StaCap) :
    FlagsExact (staRosterStep r ⟨.join p cap, olbcHt⟩) (apStep cfg s ⟨.join p cap, olbcHt⟩) ↔
      RejoinOK r ⟨.join p cap, olbcHt⟩ := by
  obtain ⟨s', heq, hmoves, hflags⟩ := apStep_join hht s p cap olbcHt
  rw [heq]
  simp only [FlagsExact, flags_capFinish, mem_staRosterStep_join]
  constructor
  · intro hex' hp k hk hhas
    have hnew := hex' p (.inl rfl) k
    simp [staRosterStep] at hnew
    rw [hflags, if_pos hk, hex p hp k, hhas, Bool.or_true] at hnew
    exact hnew.symm
  · intro hok i hi k
    simp only [staRosterStep]
    by_cases hip : i = p
    · subst hip
      rw [update_self, hflags]
      split_ifs with hk
      · by_cases hmem : i ∈ r.members
        · rw [hex i hmem k]
          have hkeep := hok hmem k hk
          cases hhas : (r.cap i).has k
          · exact Bool.or_false _
          · rw [hkeep hhas, Bool.or_true]
        · rw [h.counts.absent i hmem k, Bool.or_false]
      · rfl
    · rw [update_of_ne hip, hmoves.other i hip]
      exact hex i (hi.resolve_left hip) k

lemma FlagsExact.leave (cfg : ApCfg) :
    FlagsExact (staRosterStep r ⟨.leave p, olbcHt⟩) (apStep cfg s ⟨.leave p, olbcHt⟩) := by
  obtain ⟨s', heq, hmoves, -⟩ := apStep_leave cfg h.counts p olbcHt
  intro i hi k
  obtain ⟨hip, hmem⟩ := (h.counts.nodup.mem_erase_iff).1 hi
  rw [heq, flags_capFinish, hmoves.other i hip]
  exact hex i hmem k

end

lemma CapInv.step (h : CapInv r s) (hht : cfg.HtAp) : ∀ e : ApEvent ι,
    CapInv (staRosterStep r e) (apStep cfg s e)
  | ⟨.join p cap, olbcHt⟩ => h.join p olbcHt hht cap
  | ⟨.leave p, olbcHt⟩ => h.leave p olbcHt cfg

lemma FlagsExact.step_iff (hex : FlagsExact r s) (h : CapInv r s) (hht : cfg.HtAp) :
    ∀ e : ApEvent ι, FlagsExact (staRosterStep r e) (apStep cfg s e) ↔ RejoinOK r e
  | ⟨.join p cap, olbcHt⟩ => hex.join_iff h p olbcHt hht cap
  | ⟨.leave p, olbcHt⟩ => iff_of_true (hex.leave h p olbcHt cfg) trivial

lemma CapInv.apStep_mode (h : CapInv r s) (hht : cfg.HtAp) : ∀ e : ApEvent ι,
    ModeOK cfg (apStep cfg s e).num (apStep cfg s e).olbcHt (apStep cfg s e).htOpMode
  | ⟨.join p cap, olbcHt⟩ => by
    obtain ⟨s', heq, -, -⟩ := apStep_join hht s p cap olbcHt
    rw [heq]
    exact capFinish_mode hht.option true s'
  | ⟨.leave p, olbcHt⟩ => by
    obtain ⟨s', heq, -, -⟩ := apStep_leave cfg h.counts p olbcHt
    rw [heq]
    exact capFinish_mode hht.option false s'

end Step

section Run

variable {cfg : ApCfg} {s₀ : ApBss ι} (hht : cfg.HtAp) (hs₀ : s₀.Fresh)
include hht hs₀

lemma CapInv.run (es : List (ApEvent ι)) :
    CapInv (run staRosterStep StaRoster.start es) (run (apStep cfg) s₀ es) := by
  induction es using reverseRecOn with
  | nil => exact ⟨⟨nodup_nil, hs₀.num, fun i _ => hs₀.flags i⟩, fun i hi => nomatch hi⟩
  | append_singleton es e ih =>
    rw [run_append_singleton, run_append_singleton]
    exact ih.step hht e

lemma capFollows_iff (es : List (ApEvent ι)) (e : ApEvent ι) :
    CapFollows cfg (run staRosterStep StaRoster.start (es ++ [e]))
        (run (apStep cfg) s₀ (es ++ [e])) ↔
      FlagsExact (run staRosterStep StaRoster.start (es ++ [e]))
        (run (apStep cfg) s₀ (es ++ [e])) := by
  have hinv := CapInv.run hht hs₀ (es ++ [e])
  rw [← hinv.num_iff]
  refine ⟨fun h => h.num, fun hnum => ⟨hnum, ?_⟩⟩
  have hmode := (CapInv.run hht hs₀ es).apStep_mode hht e
  rwa [← run_append_singleton (apStep cfg) s₀ es e, funext hnum] at hmode

lemma flagsExact_prefixes_iff (es : List (ApEvent ι)) :
    (∀ es', es' <+: es →
      FlagsExact (run staRosterStep StaRoster.start es') (run (apStep cfg) s₀ es')) ↔
      RunOK staRosterStep RejoinOK StaRoster.start es := by
  induction es using reverseRecOn with
  | nil => exact iff_of_true (fun es' hp => by simp_all [FlagsExact, StaRoster.start]) trivial
  | append_singleton es e ih =>
    rw [runOK_append_singleton, ← ih]
    simp only [prefix_concat_iff]
    constructor
    · intro h
      have hex := h es (.inr (prefix_refl es))
      have hnew := h (es ++ [e]) (.inl rfl)
      rw [run_append_singleton, run_append_singleton,
        hex.step_iff (CapInv.run hht hs₀ es) hht] at hnew
      exact ⟨fun es' hp => h es' (.inr hp), hnew⟩
    · rintro ⟨h, hok⟩ es' (rfl | hp)
      · rw [run_append_singleton, run_append_singleton,
          (h es (prefix_refl es)).step_iff (CapInv.run hht hs₀ es) hht]
        exact hok
      · exact h es' hp

/-- Just if no station that associates again has lost one of the three properties that only leaving
clears. -/
theorem bssCap_follows_iff (es : List (ApEvent ι)) :
    (∀ es', es' <+: es → es' ≠ [] →
      CapFollows cfg (run staRosterStep StaRoster.start es') (run (apStep cfg) s₀ es')) ↔
      RunOK staRosterStep RejoinOK StaRoster.start es := by
  rw [← flagsExact_prefixes_iff hht hs₀ es]
  refine forall_congr' fun es' => imp_congr_right fun _ => ?_
  induction es' using reverseRecOn with
  | nil => exact iff_of_true (fun h => absurd rfl h) (fun i hi => nomatch hi)
  | append_singleton es' e _ =>
    rw [← capFollows_iff hht hs₀ es' e]
    exact ⟨fun h => h (by simp), fun h _ => h⟩

/-- A counter may be too large, but what the stations lack is announced after each call. -/
theorem bssCap_covers_run (es : List (ApEvent ι)) (e : ApEvent ι) :
    let r := run staRosterStep StaRoster.start (es ++ [e])
    let s := run (apStep cfg) s₀ (es ++ [e])
    (∀ k, r.count k ≤ s.num k) ∧ (r.members = [] → ∀ k, s.num k = 0) ∧
      (0 < r.count .htNoGf → s.htOpMode &&& htInfoNonGfDevsPresent ≠ 0) ∧
      (0 < r.count .noHt → s.htOpMode &&& htInfoNonHtStaPresent ≠ 0) := by
  intro r s
  have hinv : CapInv r s := CapInv.run hht hs₀ (es ++ [e])
  have hmode := (CapInv.run hht hs₀ es).apStep_mode hht e
  rw [← run_append_singleton (apStep cfg) s₀ es e] at hmode
  have hle : ∀ k, r.count k ≤ s.num k := fun k => by
    rw [hinv.counts.num k]
    exact Int.ofNat_le.2 (countP_mono_left fun i hi => hinv.above i hi k)
  have hne : ∀ k, 0 < r.count k → s.num k ≠ 0 := fun k hpos h => by
    have := hle k
    omega
  refine ⟨hle, fun hnil k => ?_, fun hpos => hmode.nonGf.2 (hne _ hpos),
    fun hpos => hmode.nonHt.2 (.inl (hne _ hpos))⟩
  rw [hinv.counts.num k, hnil]
  rfl

end Run

def sampleApCfg : ApCfg := ⟨0x0f, true, 0x0f, true, ieee80211HtCapSupWidth⟩

def sampleApBss : ApBss ℕ :=
  ⟨fun _ => 0, 0, false, fun i => ⟨i, ⟨0, 0, 0⟩, fun _ => false⟩, fun _ => false, [], false⟩

def cap20 : StaCap := ⟨wlanStaHt, 0, 0⟩
def cap40 : StaCap := ⟨wlanStaHt, 0, ieee80211HtCapSupWidth ||| ieee80211HtCapGrnFld⟩
def capLegacy : StaCap := ⟨0, 0, 0⟩

lemma sampleApCfg_htAp : sampleApCfg.HtAp := ⟨rfl, rfl, rfl⟩

lemma sampleApBss_fresh : sampleApBss.Fresh := ⟨fun _ => rfl, fun _ _ => rfl⟩

def sampleApEvents : List (ApEvent ℕ) :=
  [⟨.join 1 cap40, false⟩, ⟨.join 2 capLegacy, false⟩, ⟨.join 1 cap20, true⟩, ⟨.leave 2, false⟩]

lemma sampleApEvents_ok : RunOK staRosterStep RejoinOK StaRoster.start sampleApEvents := by
  refine ⟨?_, ?_, ?_, trivial, trivial⟩
  · intro h
    exact absurd h not_mem_nil
  · intro h
    exact absurd h (by simp [staRosterStep, StaRoster.start])
  · intro _ k hk hhas
    have hold : cap40.has k = true := hhas
    cases k with
    | htNoGf | ht20mhz | ht40mhzIntolerant => exact absurd hold (by decide)
    | noShortPreamble | nonErp | noShortSlotTime | noHt => cases hk

theorem bssCap_follows_sample :
    CapFollows sampleApCfg (run staRosterStep StaRoster.start sampleApEvents)
      (run (apStep sampleApCfg) sampleApBss sampleApEvents) :=
  (bssCap_follows_iff sampleApCfg_htAp sampleApBss_fresh sampleApEvents).2 sampleApEvents_ok
    sampleApEvents (prefix_refl _) (by simp [sampleApEvents])

/-- A 20 MHz station that associates again with 40 MHz and greenfield is still counted. -/
theorem bssCap_follows_fails : let evs := [⟨.join 1 cap20, false⟩, ⟨.join 1 cap40, false⟩]
    let bss := run (apStep sampleApCfg) sampleApBss evs
    ¬ CapFollows sampleApCfg (run staRosterStep StaRoster.start evs) bss ∧
      bss.htOpMode = opMode20mhzHtStaAssoced ||| htInfoNonGfDevsPresent := by
  refine ⟨fun h => ?_, by decide⟩
  exact absurd (h.num .ht20mhz) (by decide)

theorem bssCap_covers_rejoin :
    let es : List (ApEvent ℕ) := [⟨.join 1 cap20, false⟩] ++ [⟨.join 1 cap40, false⟩]
    (run staRosterStep StaRoster.start es).count .ht20mhz ≤
      (run (apStep sampleApCfg) sampleApBss es).num .ht20mhz :=
  (bssCap_covers_run sampleApCfg_htAp sampleApBss_fresh _ _).1 _

end Rtl8852be

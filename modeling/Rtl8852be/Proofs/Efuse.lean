import Rtl8852be.Lib.Run
import Rtl8852be.Proofs.EfuseLog

/-!
# The efuse as a map of bytes

The cells hold a log of entries, the cells from its end on are blank, and the cached maps are those
of the cells while they are valid (`EfuseInv`).
-/

namespace Rtl8852be

open PatchLog Function List PgEntry Nat Run

variable {b : EfuseBank} {env : EfuseEnv} {s : Efuse} {es : List (PgEntry b)}
variable {k : ℕ} {new : List (PgEntry b)}

/-- The buffers can be had, the cells can be read, and a blank cell takes what is written to it. -/
structure EfuseEnv.Sound (env : EfuseEnv) : Prop where
  malloc : ∀ buf, env.malloc buf = true
  read : env.read = .success
  write : ∀ offset value, env.write offset 0xFF value = (.success, value)

@[local simp] def Efuse.written (s : Efuse) (pos : ℕ) (bs : List UInt8) : Efuse :=
  { s with
    cells := blit s.cells pos bs
    writes := s.writes ++ range' pos bs.length
    phyMapValid := s.phyMapValid && bs.isEmpty
    logMapValid := s.logMapValid && bs.isEmpty }

lemma writeHwEfuses_blank (henv : env.Sound) {bs : List UInt8} {pos : ℕ} {s : Efuse}
    (hblank : ∀ i, i < bs.length → s.cells (pos + i) = 0xFF) :
    writeHwEfuses env pos bs s = (.success, s.written pos bs) := by
  induction bs generalizing pos s with
  | nil => simp [writeHwEfuses]
  | cons v bs ih =>
    have hcell : s.cells pos = 0xFF := hblank 0 (by simp)
    rw [writeHwEfuses, writeHwEfuse, hcell, henv.write]
    simp only
    rw [ih fun i hi => ?_]
    · simp [blit, range'_succ]
    · have hnext := hblank (i + 1) (by simpa using hi)
      rw [show pos + (i + 1) = pos + 1 + i by omega] at hnext
      exact (update_of_ne (by omega) _ _).trans hnext

abbrev efuseStop (es : List (PgEntry b)) : ℕ := stop bytes b.start es

lemma efuseStop_append_singleton (es : List (PgEntry b)) (e : PgEntry b) :
    efuseStop (es ++ [e]) = efuseStop es + e.bytes.length := by
  rw [efuseStop, stop_append, stop_singleton]

structure EfuseInv (b : EfuseBank) (es : List (PgEntry b)) (s : Efuse) : Prop where
  log : EfuseLog b s.cells es
  writes : s.writes = range' b.start (es.flatMap bytes).length
  phyMap : s.phyMapValid → s.phyMap = s.cells
  phyMapValid : s.logMapValid → s.phyMapValid
  efuseEnd : s.logMapValid → s.efuseEnd = efuseStop es
  logMap : s.logMapValid → s.logMap = efuseTable .map es

lemma logMapSize_mod (b : EfuseBank) : b.logMapSize % 16 = 0 := by cases b <;> rfl

lemma start_le_phyMapSize (b : EfuseBank) : b.start ≤ b.phyMapSize := by cases b <;> decide

lemma efuseInv_blank (b : EfuseBank) : EfuseInv b [] efuseBlank :=
  ⟨.nil (start_le_phyMapSize b) fun _ _ => rfl, rfl, nofun, nofun, nofun, nofun⟩

structure EfuseInv.Loaded (b : EfuseBank) (es : List (PgEntry b)) (s s' : Efuse) : Prop where
  inv : EfuseInv b es s'
  valid : s'.logMapValid = true
  cells : s'.cells = s.cells
  writes : s'.writes = s.writes

lemma EfuseInv.fetchPhyMap (h : EfuseInv b es s) (henv : env.Sound) : Rtl8852be.fetchPhyMap env s
      = (.success, { s with phyMap := s.cells, phyMapValid := true }) := by
  cases hv : s.phyMapValid
  · simp [Rtl8852be.fetchPhyMap, readEfuse, hv, henv.malloc, henv.read]
  obtain ⟨cells, writes, phyMap, phyMapValid, logMap, logMapValid, efuseEnd⟩ := s
  obtain rfl : phyMapValid = true := hv
  obtain rfl : phyMap = cells := h.phyMap rfl
  rfl

lemma EfuseInv.readLogEfuseMap (h : EfuseInv b es s) (henv : env.Sound) (map : ℕ → UInt8) :
    ∃ s', Rtl8852be.readLogEfuseMap env b map s = (.success, efuseTable .map es, s') ∧
      EfuseInv.Loaded b es s s' := by
  cases hv : s.logMapValid
  · simp only [Rtl8852be.readLogEfuseMap, hv, Bool.false_eq_true, if_false, h.fetchPhyMap henv,
      eepromParser_logAt h.log]
    exact ⟨_, rfl, ⟨h.log, h.writes, fun _ => rfl, fun _ => rfl, fun _ => rfl, fun _ => rfl⟩, rfl,
      rfl, rfl⟩
  · simp only [Rtl8852be.readLogEfuseMap, hv, if_true, h.logMap hv]
    exact ⟨s, rfl, h, hv, rfl, rfl⟩

lemma EfuseInv.append (h : EfuseInv b es s) (e : PgEntry b)
    (hfits : efuseStop es + e.bytes.length ≤ b.phyMapSize) :
    EfuseInv b (es ++ [e]) (s.written (efuseStop es) e.bytes) := by
  have hne : e.bytes.isEmpty = false := by
    have htwo := e.two_le_words
    rw [isEmpty_eq_false_iff, ← length_pos_iff, bytes, length_append]
    omega
  refine ⟨h.log.append e hfits, ?_, ?_, ?_, ?_, ?_⟩
  · rw [Efuse.written, h.writes, flatMap_append, length_append, ← range'_append_1]
    simp [stop]
  all_goals simp [hne]

lemma efuseTable_append {cfg : EfuseParserCfg} (es es' : List (PgEntry b)) :
    efuseTable cfg (es ++ es') = overs (efuseTable cfg es) (es'.flatMap (patches cfg)) := by
  rw [efuseTable, flatMap_append, overs_append]
  rfl

lemma PgEntry.exists_patch_iff (cfg : EfuseParserCfg) (e : PgEntry b) (o : ℕ) :
    (∃ p ∈ e.patches cfg, p.on o) ↔ e.Says o := by
  simp only [patches, wordPatch, mem_map, mem_filter, PgEntry.Says, exists_exists_and_eq_and,
    decide_eq_true_eq]
  constructor
  · rintro ⟨i, ⟨hi, hbit⟩, ho⟩
    have hi : i < 4 := by
      simp at hi
      omega
    rw [show o % 8 / 2 = i by omega]
    exact ⟨by omega, hbit⟩
  · rintro ⟨hblk, hbit⟩
    refine ⟨o % 8 / 2, ⟨?_, hbit⟩, by omega⟩
    simp
    omega

lemma efuseTable_append_of_data {es' : List (PgEntry b)} {data : ℕ → UInt8}
    (hdata : ∀ e ∈ es', e.data = data) (o : ℕ) [Decidable (∃ e ∈ es', e.Says o)] :
    efuseTable .map (es ++ es') o
      = if ∃ e ∈ es', e.Says o then data o else efuseTable .map es o := by
  have hval : ∀ p ∈ es'.flatMap (patches .map), p.val o = data o := by
    intro p hp
    obtain ⟨e, he, hp⟩ := mem_flatMap.1 hp
    obtain ⟨i, -, rfl⟩ := mem_map.1 hp
    exact congrFun (hdata e he) o
  have hon : (∃ p ∈ es'.flatMap (patches .map), p.on o) ↔ ∃ e ∈ es', e.Says o := by
    simp [← exists_patch_iff .map]
    constructor
    · rintro ⟨p, ⟨e, he, hp⟩, ho⟩
      exact ⟨e, he, p, hp, ho⟩
    · rintro ⟨e, he, p, hp, ho⟩
      exact ⟨p, ⟨e, he, hp⟩, ho⟩
  rw [efuseTable_append, overs_eq_ite hval]
  simp only [hon]

def maskSelects (mask : ℕ → UInt8) (o : ℕ) : Bool :=
  (mask (o / 16)).toNat.testBit ((o % 16 / 2 + 4) % 8)

lemma toNat_clrBit : ∀ j ∈ efuseOffsets 2 16, (clrBit j).toNat = 2 ^ ((j / 2 + 4) % 8) := by
  decide

lemma testBit_and_not {m c : UInt8} {t : ℕ} (hc : c.toNat = 2 ^ k) (ht : t < 8) :
    (m &&& ~~~c).toNat.testBit t = (m.toNat.testBit t && !decide (k = t)) := by
  have hlt : 2 ^ k < 2 ^ 8 := hc ▸ c.toNat_lt
  rw [UInt8.toNat_and, UInt8.toNat_not, testBit_and, hc,
    show UInt8.size - 1 - 2 ^ k = 2 ^ 8 - (2 ^ k + 1) by rw [UInt8.size]; omega,
    testBit_two_pow_sub_succ hlt, testBit_two_pow, decide_eq_true ht, Bool.true_and]

/-- What updating the mask may do: words are taken out of it, and only those that already have the
value asked for. -/
structure Narrows (info : PgEfuseInfo) (map mask mask' : ℕ → UInt8) : Prop where
  sub : ∀ o, maskSelects mask' o → maskSelects mask o
  same : ∀ o, maskSelects mask o → maskSelects mask' o = false → info.efuseMap o = map o

variable {info : PgEfuseInfo}

section Mask

variable {map maskMap mask mask' mask'' : ℕ → UInt8}

lemma Narrows.refl : Narrows info map mask mask :=
  ⟨fun _ h => h, fun o h h' => absurd h (by simp [h'])⟩

lemma Narrows.trans (h : Narrows info map mask mask') (h' : Narrows info map mask' mask'') :
    Narrows info map mask mask'' := by
  refine ⟨fun o ho => h.sub o (h'.sub o ho), fun o ho ho'' => ?_⟩
  cases hmid : maskSelects mask' o
  · exact h.same o ho hmid
  · exact h'.same o hmid ho''

lemma Narrows.foldl {f : (ℕ → UInt8) → ℕ → ℕ → UInt8} :
    ∀ {l : List ℕ} {mask : ℕ → UInt8}, (∀ i ∈ l, ∀ m, Narrows info map m (f m i)) →
      Narrows info map mask (l.foldl f mask)
  | [], _, _ => .refl
  | i :: _, mask, h =>
    (h i mem_cons_self mask).trans (Narrows.foldl fun i' hi' => h i' (mem_cons_of_mem i hi'))

lemma mem_efuseOffsets {n size i : ℕ} (h : i ∈ efuseOffsets n size) : ∃ k, i = n * k := by
  obtain ⟨k, -, rfl⟩ := mem_map.1 h
  exact ⟨k, rfl⟩

lemma updateMaskWord_narrows {j : ℕ} (hj : j ∈ efuseOffsets 2 16) :
    Narrows info map mask (updateMaskWord info map maskMap (16 * k) mask j) := by
  have hc := toNat_clrBit j hj
  have hlt : j < 16 := by
    obtain ⟨d, hd, rfl⟩ := mem_map.1 hj
    have := mem_range.1 hd
    omega
  obtain ⟨d, rfl⟩ := mem_efuseOffsets hj
  rw [updateMaskWord, show (16 * k) >>> 4 = k by rw [shiftRight_eq_div_pow]; omega]
  split_ifs with hsame
  · have hsel : ∀ o, maskSelects (update mask k (mask k &&& ~~~clrBit (2 * d))) o
        = (maskSelects mask o && !decide (o / 2 = 8 * k + d)) := by
      intro o
      rw [maskSelects, maskSelects]
      by_cases hk : o / 16 = k
      · rw [hk, update_self, testBit_and_not hc (by omega)]
        congr 3
        exact propext (by omega)
      · have hne : ¬ o / 2 = 8 * k + d := by omega
        rw [update_of_ne hk, decide_eq_false hne, Bool.not_false, Bool.and_true]
    refine ⟨fun o ho => ?_, fun o ho ho' => ?_⟩
    · rw [hsel, Bool.and_eq_true] at ho
      exact ho.1
    rw [hsel, ho, Bool.true_and, Bool.not_eq_false', decide_eq_true_eq] at ho'
    rcases mod_two_eq_zero_or_one o with hpar | hpar
    · rw [show o = 16 * k + 2 * d by omega]
      exact hsame.1
    · rw [show o = 16 * k + 2 * d + 1 by omega]
      exact hsame.2.1
  · exact .refl

lemma updateMaskWords_narrows :
    Narrows info map mask (updateMaskWords info map maskMap mask) := by
  refine Narrows.foldl fun i hi m => Narrows.foldl fun j hj m' => ?_
  obtain ⟨k, rfl⟩ := mem_efuseOffsets hi
  exact updateMaskWord_narrows hj

end Mask

section Program

variable {mask : ℕ → UInt8}

def maskNibble (mask : ℕ → UInt8) (k : ℕ) : ℕ := preWordEn mask (decide (k % 2 = 1)) (8 * k)

section

variable (mask : ℕ → UInt8) (k : ℕ)

lemma preWordEn_check :
    preWordEn mask (decide (0 < (8 * k) &&& 0xF)) (8 * k) = maskNibble mask k := by
  rw [maskNibble, and_low]
  congr 2
  exact propext (by omega)

lemma preWordEn_program :
    preWordEn mask (decide (0 < ((8 * k) >>> 3) &&& 1)) (8 * k) = maskNibble mask k := by
  rw [maskNibble, and_one_is_mod, shiftRight_eq_div_pow]
  congr 2
  exact propext (by omega)

lemma maskNibble_lt : maskNibble mask k < 16 := by
  have hlt := (mask ((8 * k) >>> 4)).toNat_lt
  rw [maskNibble, preWordEn]
  split_ifs
  · rw [and_low]
    omega
  · omega

lemma testBit_maskNibble (o : ℕ) :
    (maskNibble mask (o / 8)).testBit (o % 8 / 2) = maskSelects mask o := by
  have hbyte : (8 * (o / 8)) >>> 4 = o / 16 := by rw [shiftRight_eq_div_pow]; omega
  rw [maskNibble, preWordEn, maskSelects, hbyte]
  by_cases hodd : o / 8 % 2 = 1
  · rw [decide_eq_true hodd, if_pos rfl, show (0x0F : ℕ) = 2 ^ 4 - 1 from rfl, testBit_and,
      testBit_two_pow_sub_one, decide_eq_true (by omega), Bool.and_true,
      show (o % 16 / 2 + 4) % 8 = o % 8 / 2 by omega]
  · rw [decide_eq_false hodd, if_neg Bool.false_ne_true, testBit_shiftRight,
      show (o % 16 / 2 + 4) % 8 = 4 + o % 8 / 2 by omega]

end

lemma pgNumOf_eq : ∀ {pre : ℕ}, pre < 16 → 0 < pre →
    pgNumOf pre = 2 + 2 * ([0, 1, 2, 3].filter pre.testBit).length := by
  decide

lemma PgEntry.length_bytes_le (e : PgEntry b) : e.bytes.length ≤ pgNumOf e.pre := by
  have hhdr : e.hdr.length ≤ 2 := by
    rw [hdr, hdrBytes]
    split_ifs <;> simp
  rw [pgNumOf_eq e.pre_lt e.pre_pos, bytes, length_append, length_pgWords]
  omega

lemma procPgEfuse_append (henv : env.Sound) (h : EfuseInv b es s)
    (hend : s.efuseEnd = efuseStop es) (hsize : info.efuseMapSize = b.logMapSize) (e : PgEntry b)
    (hdata : e.data = info.efuseMap) (hfits : efuseStop es + e.bytes.length ≤ b.phyMapSize) :
    ∃ s', procPgEfuse env info (e.pre ^^^ 0x0F) e.pre (8 * e.blk) false s = (.success, s') ∧
      EfuseInv b (es ++ [e]) s' ∧ s'.efuseEnd = efuseStop (es ++ [e]) := by
  have hbytes : hdrBytes b.isBt (8 * e.blk) (pgHdr b.isBt (8 * e.blk) (e.pre ^^^ 0x0F)) ++
      pgWords info.efuseMap e.pre (8 * e.blk) = e.bytes := by
    rw [← hdata]
    rfl
  have hbt : (info.efuseMapSize == btLogEfuseSize) = b.isBt := by rw [hsize]; rfl
  have hwrite := writeHwEfuses_blank henv (h.log.blank_next hfits)
  simp only [procPgEfuse, Bool.false_eq_true, if_false, hbt, hbytes, hend, hwrite]
  have hinv := h.append e hfits
  refine ⟨_, rfl, ⟨hinv.log, hinv.writes, hinv.phyMap, hinv.phyMapValid, ?_, hinv.logMap⟩, ?_⟩
  · exact fun _ => (efuseStop_append_singleton es e).symm
  · exact (efuseStop_append_singleton es e).symm

def blockEntry (info : PgEfuseInfo) (mask : ℕ → UInt8) {k : ℕ} (hpos : 0 < maskNibble mask k)
    (hk : 8 * k + 8 ≤ b.logMapSize) : PgEntry b :=
  ⟨k, maskNibble mask k, info.efuseMap, hpos, maskNibble_lt mask k, hk⟩

lemma blockEntry_words (hpos : 0 < maskNibble mask k) (hk : 8 * k + 8 ≤ b.logMapSize) (o : ℕ) :
    (blockEntry info mask hpos hk).Says o ↔ o / 8 = k ∧ maskSelects mask o := by
  rw [← testBit_maskNibble, PgEntry.Says, eq_comm]
  exact and_congr_right fun ho => by rw [ho]; rfl

lemma not_maskSelects {o : ℕ} (h : ¬ 0 < maskNibble mask (o / 8)) :
    maskSelects mask o = false := by
  rw [← testBit_maskNibble, Nat.eq_zero_of_not_pos h, Nat.zero_testBit]

/-- Entries that say the words of some blocks that the mask selects, with the values of the map. -/
structure Programs (info : PgEfuseInfo) (mask : ℕ → UInt8) (ks : List ℕ)
    (new : List (PgEntry b)) : Prop where
  data : ∀ e ∈ new, e.data = info.efuseMap
  covers : ∀ o, (∃ e ∈ new, e.Says o) ↔ o / 8 ∈ ks ∧ maskSelects mask o

lemma Programs.cons {ks : List ℕ} (h : Programs info mask ks new)
    (hpos : 0 < maskNibble mask k) (hk : 8 * k + 8 ≤ b.logMapSize) :
    Programs info mask (k :: ks) (blockEntry info mask hpos hk :: new) := by
  refine ⟨forall_mem_cons.2 ⟨rfl, h.data⟩, fun o => ?_⟩
  rw [exists_mem_cons_iff, h.covers o, blockEntry_words, mem_cons, or_and_right]

lemma Programs.skip {ks : List ℕ} (h : Programs info mask ks new)
    (hk : ¬ 0 < maskNibble mask k) : Programs info mask (k :: ks) new := by
  refine ⟨h.data, fun o => ?_⟩
  rw [h.covers o, mem_cons, or_and_right]
  constructor
  · exact .inr
  rintro (⟨rfl, hsel⟩ | ho)
  · rw [not_maskSelects hk] at hsel
    exact absurd hsel Bool.false_ne_true
  · exact ho

lemma programLoop_inv (henv : env.Sound) (hsize : info.efuseMapSize = b.logMapSize) :
    ∀ {ks : List ℕ} {es : List (PgEntry b)} {s : Efuse}, (∀ k ∈ ks, 8 * k + 8 ≤ b.logMapSize) →
      EfuseInv b es s → s.efuseEnd = efuseStop es →
      efuseStop es + (ks.map fun k => pgNumOf (maskNibble mask k)).sum ≤ b.phyMapSize →
      ∃ new s', programLoop env info mask false (ks.map (8 * ·)) s = (.success, s') ∧
        EfuseInv b (es ++ new) s' ∧ s'.efuseEnd = efuseStop (es ++ new) ∧
        Programs info mask ks new
  | [], es, s, _, h, hend, _ => by
    refine ⟨[], s, rfl, ?_, ?_, nofun, by simp⟩ <;> rwa [append_nil]
  | k :: ks, es, s, hks, h, hend, hroom => by
    have hk := hks k mem_cons_self
    have hks' : ∀ k' ∈ ks, 8 * k' + 8 ≤ b.logMapSize := fun k' hk' => hks k' (mem_cons_of_mem k hk')
    rw [map_cons, sum_cons] at hroom
    rw [map_cons, programLoop, preWordEn_program]
    by_cases hpos : 0 < maskNibble mask k
    · let e : PgEntry b := blockEntry info mask hpos hk
      have hlen : e.bytes.length ≤ pgNumOf (maskNibble mask k) := e.length_bytes_le
      obtain ⟨s₁, hpg, h₁, hend₁⟩ := procPgEfuse_append henv h hend hsize e rfl (by omega)
      obtain ⟨new, s', hloop, hinv, hend', hnew⟩ := programLoop_inv henv hsize hks' h₁ hend₁ (by
        rw [efuseStop_append_singleton]
        omega)
      rw [append_assoc] at hinv hend'
      refine ⟨e :: new, s', ?_, hinv, hend', hnew.cons hpos hk⟩
      simp only [e, blockEntry] at hpg
      simp only [if_pos hpos, hpg]
      exact hloop
    · obtain ⟨new, s', hloop, hinv, hend', hnew⟩ :=
        programLoop_inv henv hsize hks' h hend (by omega)
      exact ⟨new, s', by simpa only [if_neg hpos] using hloop, hinv, hend', hnew.skip hpos⟩

/-- Map and mask have the sizes of the bank. -/
structure PgEfuseInfo.Full (b : EfuseBank) (info : PgEfuseInfo) : Prop where
  map : info.efuseMapSize = b.logMapSize
  mask : info.efuseMaskSize = b.logMapSize >>> 4

lemma EfuseInv.updateEepromMask (h : EfuseInv b es s) (henv : env.Sound) (info : PgEfuseInfo) :
    ∃ mask s', Rtl8852be.updateEepromMask env b info (fun _ => 0x00) false s
        = (.success, mask, s') ∧
      Narrows info (efuseTable .map es)
        (fun k => if k < info.efuseMaskSize then info.efuseMask k else 0x00) mask ∧
      EfuseInv.Loaded b es s s' := by
  obtain ⟨s', hread, hload⟩ := h.readLogEfuseMap henv fun _ => 0xFF
  have hphy : s'.phyMap = s'.cells := hload.inv.phyMap (hload.inv.phyMapValid hload.valid)
  have hlog : EfuseLog b s'.phyMap es := hphy ▸ hload.inv.log
  simp only [Rtl8852be.updateEepromMask, henv.malloc, if_true, Bool.false_eq_true, if_false, hread,
    eepromParser_logAt hlog]
  refine ⟨_, _, rfl, updateMaskWords_narrows, ?_, hload.valid, hload.cells, hload.writes⟩
  exact ⟨hload.inv.log, hload.inv.writes, hload.inv.phyMap, hload.inv.phyMapValid, fun _ => rfl,
    hload.inv.logMap⟩

lemma checkEfuseEnough_eq (hend : s.efuseEnd = efuseStop es) : checkEfuseEnough b info mask s
      = if b.phyMapSize < efuseStop es + ((range ((info.efuseMapSize + 7) / 8)).map
          fun k => pgNumOf (maskNibble mask k)).sum then .efusesize else .success := by
  rw [checkEfuseEnough, hend, efuseOffsets, foldl_map, sum_eq_foldl, foldl_map]
  simp only [preWordEn_check, add_comm (efuseStop es)]

/-- Programming a map is refused for want of room, or gives the map its words that the mask
selects. -/
lemma EfuseInv.pg (h : EfuseInv b es s) (henv : env.Sound) (hfull : info.Full b) :
    ∃ s', (procPgEfuseByMap env b info s = (.efusesize, s') ∧ EfuseInv.Loaded b es s s') ∨
      ∃ new, procPgEfuseByMap env b info s = (.success, s') ∧ EfuseInv b (es ++ new) s' ∧
        s'.efuseEnd = efuseStop (es ++ new) ∧
        ∀ o < b.logMapSize, efuseTable .map (es ++ new) o
          = if maskSelects info.efuseMask o then info.efuseMap o else efuseTable .map es o := by
  obtain ⟨mask, s₁, hmask, hnarrows, hload⟩ := h.updateEepromMask henv info
  have hend := hload.inv.efuseEnd hload.valid
  simp only [procPgEfuseByMap, henv.malloc, if_true, hmask, checkEfuseEnough_eq hend]
  split_ifs with hroom
  · exact ⟨s₁, .inl ⟨rfl, hload⟩⟩
  have hmod := logMapSize_mod b
  have hks : ∀ k ∈ range ((info.efuseMapSize + 7) / 8), 8 * k + 8 ≤ b.logMapSize := by
    intro k hk
    have hlt := mem_range.1 hk
    rw [hfull.map] at hlt
    omega
  obtain ⟨new, s', hloop, hinv, hend', hprog⟩ :=
    programLoop_inv henv hfull.map hks hload.inv hend (Nat.le_of_not_lt hroom)
  refine ⟨s', .inr ⟨new, hloop, hinv, hend', fun o ho => ?_⟩⟩
  have hin : o / 8 ∈ range ((info.efuseMapSize + 7) / 8) := by
    rw [mem_range, hfull.map]
    omega
  have hmem : o / 16 < info.efuseMaskSize := by
    rw [hfull.mask, shiftRight_eq_div_pow]
    omega
  have hsel : maskSelects (fun k => if k < info.efuseMaskSize then info.efuseMask k else 0x00) o
      = maskSelects info.efuseMask o := by
    simp only [maskSelects, if_pos hmem]
  classical
  rw [efuseTable_append_of_data hprog.data]
  simp [hprog.covers o, hin]
  -- a word that was taken out of the mask has the value asked for already
  cases hnew : maskSelects mask o
  · cases hold : maskSelects info.efuseMask o
    · rfl
    · exact (hnarrows.same o (hsel.trans hold) hnew).symm
  · rw [if_pos rfl, if_pos (hsel ▸ hnarrows.sub o hnew)]

end Program

section Write

variable {offset : ℕ} {value : UInt8}

lemma filter_one_shiftLeft : ∀ {t : ℕ}, t < 4 → [0, 1, 2, 3].filter (1 <<< t).testBit = [t] := by
  decide

lemma hdrBytes_wrHdr (isBt : Bool) (offset : ℕ) : hdrBytes isBt offset (wrHdr isBt offset)
      = hdrBytes isBt (8 * (offset / 8))
        (pgHdr isBt (8 * (offset / 8)) ((1 <<< (offset % 8 / 2)) ^^^ 0x0F)) := by
  have hidx : ((offset &&& (8 - 1)) >>> 1) % 256 = offset % 8 / 2 := by
    rw [show offset &&& (8 - 1) = offset % 8 from and_two_pow_sub_one_eq_mod offset 3,
      shiftRight_eq_div_pow]
    omega
  have hblk : (8 * (offset / 8)) >>> 3 = offset >>> 3 := by
    omega
  have hlow : ∀ n : ℕ, (n <<< 1 % 256) <<< 4 + 0xF = ((n <<< 1 % 256) <<< 4) ||| 0xF := by
    intro n
    rw [shiftLeft_eq _ 4, mul_comm, show (2 : ℕ) ^ 4 = 16 from rfl, or_of_lt (by omega)]
  have hshort : 8 * (offset / 8) < bt1bEntrySize ↔ offset < bt1bEntrySize := by
    rw [bt1bEntrySize]
    omega
  cases isBt
  · simp [hidx, hblk]
  · by_cases hlt : offset < bt1bEntrySize
    · simp [hidx, hblk, hshort, hlt, ← not_lt]
    · simp [hidx, hblk, hshort, hlt, ← not_lt, hlow]

@[local simp]
def wrEntry (map : ℕ → UInt8) (value : UInt8) (ho : offset < b.logMapSize) : PgEntry b where
  blk := offset / 8
  pre := 1 <<< (offset % 8 / 2)
  data := update map offset value
  pre_pos := by rw [Nat.shiftLeft_eq, Nat.one_mul]; exact Nat.two_pow_pos _
  pre_lt := by
    rw [Nat.shiftLeft_eq, Nat.one_mul]
    exact Nat.pow_lt_pow_right (by omega) (by omega : offset % 8 / 2 < 4)
  fits := by
    have hmod := logMapSize_mod b
    omega

lemma wrEntry_bytes (map : ℕ → UInt8) (ho : offset < b.logMapSize) :
    hdrBytes b.isBt offset (wrHdr b.isBt offset) ++
        (if offset &&& 1 = 0 then [value, map (offset + 1)] else [map (offset - 1), value])
      = (wrEntry map value ho).bytes := by
  have hwords : pgWords (update map offset value) (1 <<< (offset % 8 / 2)) (8 * (offset / 8))
        = if offset &&& 1 = 0 then [value, map (offset + 1)] else [map (offset - 1), value] := by
    rw [pgWords, filter_one_shiftLeft (by omega), and_one_is_mod, flatMap_singleton, shiftLeft_eq]
    rcases mod_two_eq_zero_or_one offset with hpar | hpar
    · rw [if_pos hpar, show 8 * (offset / 8) + offset % 8 / 2 * 2 ^ 1 = offset by omega,
        update_self, update_of_ne (by omega)]
    · rw [if_neg (by omega), show 8 * (offset / 8) + offset % 8 / 2 * 2 ^ 1 = offset - 1 by omega,
        show offset - 1 + 1 = offset by omega, update_self,
        update_of_ne (by omega)]
  rw [hdrBytes_wrHdr, ← hwords]
  rfl

lemma says_wrEntry (map : ℕ → UInt8) (ho : offset < b.logMapSize) (o : ℕ) :
    (wrEntry map value ho).Says o ↔ o / 2 = offset / 2 := by
  have hbit : (1 <<< (offset % 8 / 2)).testBit (o % 8 / 2)
      = decide (offset % 8 / 2 = o % 8 / 2) := by
    rw [shiftLeft_eq, one_mul, testBit_two_pow]
  simp [PgEntry.Says, hbit]
  omega

lemma efuseTable_wrEntry (ho : offset < b.logMapSize) :
    efuseTable .map (es ++ [wrEntry (efuseTable .map es) value ho])
      = update (efuseTable .map es) offset value := by
  funext o
  classical
  have hdata : ∀ e ∈ [wrEntry (efuseTable .map es) value ho],
      e.data = update (efuseTable .map es) offset value := by
    simp
  rw [efuseTable_append_of_data hdata o]
  simp only [mem_singleton, exists_eq_left, says_wrEntry]
  split_ifs with hword
  · rfl
  · rw [update_of_ne (by rintro rfl; exact hword rfl)]

lemma EfuseInv.write (h : EfuseInv b es s) (henv : env.Sound) (ho : offset < b.logMapSize)
    (value : UInt8) :
    ∃ s', (procWriteLogEfuse env b offset value s = (.efusesize, s') ∧ EfuseInv b es s') ∨
      ∃ new, procWriteLogEfuse env b offset value s = (.success, s') ∧ EfuseInv b (es ++ new) s' ∧
        efuseTable .map (es ++ new) = update (efuseTable .map es) offset value := by
  obtain ⟨s₁, hread, hload⟩ := h.readLogEfuseMap henv fun _ => 0
  have hmap : (if s.logMapValid then (.success, s.logMap, s)
      else Rtl8852be.readLogEfuseMap env b (fun _ => 0) s)
        = (.success, efuseTable .map es, s₁) := by
    rw [← hread, Rtl8852be.readLogEfuseMap]
    split_ifs <;> rfl
  have hend := hload.inv.efuseEnd hload.valid
  simp only [procWriteLogEfuse, henv.malloc, if_true, hmap]
  by_cases hsame : efuseTable .map es offset = value
  · rw [if_neg (not_not.2 hsame)]
    refine ⟨s₁, .inr ⟨[], rfl, by simpa using hload.inv, ?_⟩⟩
    rw [append_nil, ← hsame, update_eq_self]
  rw [if_pos hsame, hend]
  by_cases hroom : b.phyMapSize ≤ 4 + efuseStop es
  · rw [if_pos hroom]
    exact ⟨s₁, .inl ⟨rfl, hload.inv⟩⟩
  let e := wrEntry (efuseTable .map es) value ho
  have hlen := e.length_bytes_le
  have hfour : pgNumOf e.pre = 4 := by
    rw [pgNumOf_eq e.pre_lt e.pre_pos]
    simp [e, filter_one_shiftLeft (show offset % 8 / 2 < 4 by omega)]
  have hfits : efuseStop es + e.bytes.length ≤ b.phyMapSize := by omega
  rw [if_neg hroom, wrEntry_bytes _ ho,
    writeHwEfuses_blank henv (hload.inv.log.blank_next hfits)]
  exact ⟨_, .inr ⟨[_], rfl, hload.inv.append _ hfits, efuseTable_wrEntry ho⟩⟩

end Write

/-- The hardware works, and what is written is a whole map, or a byte of the bank. -/
def EfuseEv.OK (b : EfuseBank) : EfuseEv → Prop
  | .pg env info => env.Sound ∧ info.Full b
  | .write env offset _ => env.Sound ∧ offset < b.logMapSize
  | .read env => env.Sound

lemma EfuseInv.step (h : EfuseInv b es s) {ev : EfuseEv} (hok : ev.OK b) :
    ∃ es', EfuseInv b es' (efuseStep b s ev) := by
  rcases ev with ⟨env, info⟩ | ⟨env, offset, value⟩ | env
  · obtain ⟨s', ⟨hpg, hload⟩ | ⟨new, hpg, hinv, -⟩⟩ := h.pg hok.1 hok.2
    · exact ⟨es, by rw [efuseStep, hpg]; exact hload.inv⟩
    · exact ⟨es ++ new, by rw [efuseStep, hpg]; exact hinv⟩
  · obtain ⟨s', ⟨hwr, hinv⟩ | ⟨new, hwr, hinv, -⟩⟩ := h.write hok.1 hok.2 value
    · exact ⟨es, by rw [efuseStep, hwr]; exact hinv⟩
    · exact ⟨es ++ new, by rw [efuseStep, hwr]; exact hinv⟩
  · obtain ⟨s', hread, hload⟩ := h.readLogEfuseMap hok fun _ => 0
    exact ⟨es, by rw [efuseStep, hread]; exact hload.inv⟩

lemma efuseInv_run {evs : List EfuseEv} (hevs : ∀ ev ∈ evs, ev.OK b) :
    ∃ es, EfuseInv b es (run (efuseStep b) efuseBlank evs) :=
  run_inv (P := fun s => ∃ es, EfuseInv b es s) (efuseStep b) (fun _ ev => ev.OK b)
    (fun _ _ ⟨_, h⟩ hok => h.step hok) evs _ ⟨[], efuseInv_blank b⟩
    (runOK_of_forall _ evs _ hevs)

/-- The words that the mask selects have become those of the map; `efuse_end` is the first cell that
was not written. -/
structure PgRoundTrip (b : EfuseBank) (info : PgEfuseInfo) (s s' : Efuse) : Prop where
  parsed : ∃ prevEnd prev map, eepromParser b .map s.cells = .ok (prevEnd, prev) ∧
    eepromParser b .map s'.cells = .ok (s'.efuseEnd, map) ∧
    ∀ o < b.logMapSize, map o = if maskSelects info.efuseMask o then info.efuseMap o else prev o
  written : ∀ a, a ∈ s'.writes ↔ b.start ≤ a ∧ a < s'.efuseEnd
  blank : ∀ a, s'.efuseEnd ≤ a → a < b.phyMapSize → s'.cells a = 0xFF

theorem pgEfuse_roundTrip (b : EfuseBank) (evs : List EfuseEv) (hevs : ∀ ev ∈ evs, ev.OK b)
    (env : EfuseEnv) (henv : env.Sound) (info : PgEfuseInfo) (hfull : info.Full b) :
    let s := run (efuseStep b) efuseBlank evs
    let r := procPgEfuseByMap env b info s
    (r.1 = .efusesize ∧ r.2.cells = s.cells ∧ r.2.writes = s.writes) ∨
      (r.1 = .success ∧ PgRoundTrip b info s r.2) := by
  intro s r
  obtain ⟨es, h⟩ := efuseInv_run hevs
  obtain ⟨s', ⟨hpg, hload⟩ | ⟨new, hpg, hinv, hend, htable⟩⟩ := h.pg henv hfull
  · left
    rw [show r = (.efusesize, s') from hpg]
    exact ⟨rfl, hload.cells, hload.writes⟩
  right
  rw [show r = (.success, s') from hpg]
  refine ⟨rfl, ⟨_, _, _, eepromParser_logAt h.log, ?_, htable⟩, fun a => ?_, fun a hle ha => ?_⟩
  · rw [hend]
    exact eepromParser_logAt hinv.log
  · rw [hend]
    rw [hinv.writes, mem_range'_1]
    rfl
  · rw [hend] at hle
    exact hinv.log.blank a hle ha

def efuseEnvSound : EfuseEnv := ⟨fun _ => true, .success, fun _ _ value => (.success, value)⟩

lemma efuseEnvSound_sound : efuseEnvSound.Sound := ⟨fun _ => rfl, rfl, fun _ _ => rfl⟩

def pgInfoWord (b : EfuseBank) (lo hi : UInt8) : PgEfuseInfo where
  efuseMap := fun o => if o = 0 then lo else hi
  efuseMapSize := b.logMapSize
  efuseMask := fun k => if k = 0 then 0x10 else 0
  efuseMaskSize := b.logMapSize >>> 4

lemma pgInfoWord_full (b : EfuseBank) (lo hi : UInt8) : (pgInfoWord b lo hi).Full b := ⟨rfl, rfl⟩

/-- A word is programmed, and then another value for it. -/
theorem pgEfuse_roundTrip_twice :
    let s := run (efuseStep .wifi) efuseBlank [.pg efuseEnvSound (pgInfoWord .wifi 0x12 0x34)]
    let r := procPgEfuseByMap efuseEnvSound .wifi (pgInfoWord .wifi 0x56 0x78) s
    (r.1 = .efusesize ∧ r.2.cells = s.cells ∧ r.2.writes = s.writes) ∨
      (r.1 = .success ∧ PgRoundTrip .wifi (pgInfoWord .wifi 0x56 0x78) s r.2) := by
  refine pgEfuse_roundTrip .wifi _ (fun ev hev => ?_) _ efuseEnvSound_sound _ (pgInfoWord_full ..)
  obtain rfl := mem_singleton.1 hev
  exact ⟨efuseEnvSound_sound, pgInfoWord_full ..⟩

/-- A word whose low byte is `0xFF` leaves the cell of that byte blank: `efuse_end` is behind it. -/
theorem pgEfuse_end_not_first_blank :
    let r := procPgEfuseByMap efuseEnvSound .wifiDav (pgInfoWord .wifiDav 0xFF 0x34) efuseBlank
    r.1 = .success ∧ r.2.efuseEnd = 8 ∧ EfuseBank.start .wifiDav ≤ 6 ∧ r.2.cells 6 = 0xFF := by
  decide +kernel

/-- What is kept of the bank is what its cells say. -/
theorem efuse_cache_run (b : EfuseBank) (evs : List EfuseEv) (hevs : ∀ ev ∈ evs, ev.OK b) :
    let s := run (efuseStep b) efuseBlank evs
    (s.phyMapValid → s.phyMap = s.cells) ∧
      (s.logMapValid → eepromParser b .map s.cells = .ok (s.efuseEnd, s.logMap)) := by
  intro s
  obtain ⟨es, h⟩ := efuseInv_run hevs
  refine ⟨h.phyMap, fun hvalid => ?_⟩
  rw [eepromParser_logAt h.log, h.efuseEnd hvalid, h.logMap hvalid]

theorem efuse_cache_read :
    let s := run (efuseStep .wifiDav) efuseBlank
      [.pg efuseEnvSound (pgInfoWord .wifiDav 0x12 0x34), .read efuseEnvSound]
    s.logMap 0 = 0x12 ∧ s.phyMap = s.cells ∧
      eepromParser .wifiDav .map s.cells = .ok (s.efuseEnd, s.logMap) := by
  have h := efuse_cache_run .wifiDav
    [.pg efuseEnvSound (pgInfoWord .wifiDav 0x12 0x34), .read efuseEnvSound]
    (by simp [EfuseEv.OK, efuseEnvSound_sound, pgInfoWord_full])
  exact ⟨by decide +kernel, h.1 (by decide +kernel), h.2 (by decide +kernel)⟩

@[local simp] def completedWrites (b : EfuseBank) : Efuse → List EfuseEv → List (ℕ × UInt8)
  | _, [] => []
  | s, ev :: evs =>
    match ev with
    | .write env offset value =>
      if (procWriteLogEfuse env b offset value s).1 = .success then
        (offset, value) :: completedWrites b (efuseStep b s ev) evs
      else completedWrites b (efuseStep b s ev) evs
    | _ => completedWrites b (efuseStep b s ev) evs

def putBytes (init : ℕ → UInt8) (ws : List (ℕ × UInt8)) : ℕ → UInt8 :=
  ws.foldl (fun m w => update m w.1 w.2) init

/-- The bank reads as a memory that took the completed writes, each to cells behind the entries. -/
structure EfuseMemory (b : EfuseBank) (s : Efuse) (evs : List EfuseEv) (s' : Efuse) : Prop where
  reads : ∃ initEnd init, eepromParser b .map s.cells = .ok (initEnd, init) ∧
    ∀ env, env.Sound → ∀ buf,
      (readLogEfuseMap env b buf s').1 = .success ∧
      ∀ o < b.logMapSize,
        (readLogEfuseMap env b buf s').2.1 o = putBytes init (completedWrites b s evs) o
  answers : ∀ env, env.Sound → ∀ offset < b.logMapSize, ∀ value,
    (procWriteLogEfuse env b offset value s').1 = .success ∨
      (procWriteLogEfuse env b offset value s').1 = .efusesize
  fresh : ∃ initEnd init, eepromParser b .map s.cells = .ok (initEnd, init) ∧
    ∃ ws, s'.writes = s.writes ++ ws ∧ s'.writes.Nodup ∧ ∀ a ∈ ws, initEnd ≤ a ∧ a < b.phyMapSize

/-- A write of a byte, or a read. -/
def EfuseEv.ByteOK (b : EfuseBank) : EfuseEv → Prop
  | .pg _ _ => False
  | ev => ev.OK b

lemma EfuseInv.bytes_run : ∀ {evs : List EfuseEv} {es : List (PgEntry b)} {s : Efuse},
    EfuseInv b es s → (∀ ev ∈ evs, ev.ByteOK b) →
    ∃ new, EfuseInv b (es ++ new) (run (efuseStep b) s evs) ∧
      efuseTable .map (es ++ new) = putBytes (efuseTable .map es) (completedWrites b s evs)
  | [], es, s, h, _ => ⟨[], by simpa using h, by simp [putBytes]⟩
  | ev :: evs, es, s, h, hevs => by
    have hev := hevs ev mem_cons_self
    have hevs' : ∀ ev' ∈ evs, ev'.ByteOK b := fun ev' hev' => hevs ev' (mem_cons_of_mem ev hev')
    rcases ev with ⟨env, info⟩ | ⟨env, offset, value⟩ | env
    · exact hev.elim
    · obtain ⟨s', ⟨hwr, hinv⟩ | ⟨new, hwr, hinv, htable⟩⟩ := h.write hev.1 hev.2 value
      · obtain ⟨new', hrun, hput⟩ := EfuseInv.bytes_run hinv hevs'
        simp [run_cons, efuseStep, hwr, reduceCtorEq]
        exact ⟨new', hrun, hput⟩
      · obtain ⟨new', hrun, hput⟩ := EfuseInv.bytes_run hinv hevs'
        simp [run_cons, efuseStep, hwr]
        refine ⟨new ++ new', by rwa [← append_assoc], ?_⟩
        rw [← append_assoc, hput, htable]
        rfl
    · obtain ⟨s', hread, hload⟩ := h.readLogEfuseMap hev fun _ => 0
      obtain ⟨new', hrun, hput⟩ := EfuseInv.bytes_run hload.inv hevs'
      simp only [run_cons, completedWrites, efuseStep, hread]
      exact ⟨new', hrun, hput⟩

theorem efuse_memory_run (b : EfuseBank) (pre evs : List EfuseEv) (hpre : ∀ ev ∈ pre, ev.OK b)
    (hevs : ∀ ev ∈ evs, ev.ByteOK b) :
    EfuseMemory b (run (efuseStep b) efuseBlank pre) evs
      (run (efuseStep b) (run (efuseStep b) efuseBlank pre) evs) := by
  obtain ⟨es, h⟩ := efuseInv_run hpre
  obtain ⟨new, hinv, htable⟩ := h.bytes_run hevs
  refine ⟨⟨_, _, eepromParser_logAt h.log, fun env henv buf => ?_⟩,
    fun env henv offset ho value => ?_, ⟨_, _, eepromParser_logAt h.log, ?_⟩⟩
  · obtain ⟨s', hread, -⟩ := hinv.readLogEfuseMap henv buf
    rw [hread, htable]
    exact ⟨rfl, fun _ _ => rfl⟩
  · obtain ⟨s', ⟨hwr, -⟩ | ⟨_, hwr, -⟩⟩ := hinv.write henv ho value
    · exact .inr (by rw [hwr])
    · exact .inl (by rw [hwr])
  refine ⟨range' (efuseStop es) (new.flatMap bytes).length, ?_, ?_, fun a ha => ?_⟩
  · rw [hinv.writes, h.writes, flatMap_append, length_append, ← range'_append_1]
    rfl
  · rw [hinv.writes]
    exact nodup_range'
  · rw [mem_range'_1] at ha
    have hfits := hinv.log.fits
    rw [stop_append] at hfits
    exact ⟨ha.1, lt_of_lt_of_le ha.2 hfits⟩

/-- A map is programmed, and then a byte of it is written, read and written again. -/
theorem efuse_memory_rewrite :
    let s := run (efuseStep .wifi) efuseBlank [.pg efuseEnvSound (pgInfoWord .wifi 0x12 0x34)]
    let evs := [.write efuseEnvSound 1 0x56, .read efuseEnvSound, .write efuseEnvSound 1 0x78]
    EfuseMemory .wifi s evs (run (efuseStep .wifi) s evs) := by
  refine efuse_memory_run .wifi _ _ (fun ev hev => ?_) fun ev hev => ?_
  · obtain rfl := mem_singleton.1 hev
    exact ⟨efuseEnvSound_sound, pgInfoWord_full ..⟩
  · simp at hev
    rcases hev with rfl | rfl | rfl
    exacts [⟨efuseEnvSound_sound, one_lt_ofNat⟩, efuseEnvSound_sound,
      ⟨efuseEnvSound_sound, one_lt_ofNat⟩]

/-- The write succeeds only if its cell reads as asked, and fails if it reads otherwise. -/
def WriteChecked (ctrl : EfuseCtrl) (b : EfuseBank) (offset : ℕ) (value : UInt8)
    (res : MacStatus × (ℕ → UInt8)) : Prop :=
  (res.1 = .success → readHwEfuseDdv ctrl b offset res.2 = .ok value) ∧
    ∀ v, readHwEfuseDdv ctrl b offset res.2 = .ok v → v ≠ value → res.1 = .efusewrite

theorem write_checked_iff (ctrl : EfuseCtrl) (b : EfuseBank) (offset : ℕ) (value : UInt8)
    (cells : ℕ → UInt8) :
    WriteChecked ctrl b offset value (writeHwEfuseDdv ctrl true b offset value cells) ↔
      ¬ (b = .bt ∧ ctrl.writeRdy ∧ ctrl.readRdy ∧
        ctrl.program (cells (efAddr (offset + 0x600))) value ≠ value ∧
          cells (efAddr (offset + 0x600 + 0x600)) = value) := by
  have hne : efAddr (offset + 0x600 + 0x600) ≠ efAddr (offset + 0x600) := by
    have hmod : ∀ n, efAddr n = n % 2048 := fun n => Nat.and_two_pow_sub_one_eq_mod n 11
    rw [hmod, hmod]
    omega
  unfold WriteChecked writeHwEfuseDdv readHwEfuseDdv
  cases ctrl.writeRdy with
  | false => simp
  | true =>
    cases ctrl.readRdy with
    | false => simp
    | true =>
      cases b with
      | bt =>
        by_cases hback : cells (efAddr (offset + 0x600 + 0x600)) = value <;>
          simp [EfuseBank.efuseStart, hne, hback]
      | wifi | wifiDav => simp [EfuseBank.efuseStart]

/-- The cell of the BT bank keeps its value, and the cell that is read back is one of the WLAN
bank. -/
theorem write_checked_bt :
    let cells : ℕ → UInt8 := update (fun _ => 0xFF) 0x400 0x35
    ¬ WriteChecked ⟨true, true, fun old _ => old⟩ .bt 0 0x35
      (writeHwEfuseDdv ⟨true, true, fun old _ => old⟩ true .bt 0 0x35 cells) := by
  intro cells h
  exact absurd (h.1 (by decide)) (by decide)

end Rtl8852be

import Mathlib.Tactic.IntervalCases
import Rtl8852be.Efuse

/-!
# What the efuse parser reads

`eeprom_parser` reads the entries of a bank back (`eepromParser_logAt`), the later ones over the
earlier ones.
-/

namespace Rtl8852be

open PatchLog List Nat Function

variable {data : ℕ → UInt8} {log : ℕ → UInt8}
open Tlv (Holds holds_append holds_cons)

lemma and_low (n : ℕ) : n &&& 0x0F = n % 16 := and_two_pow_sub_one_eq_mod n 4

lemma and_high_shift {n : ℕ} (h : n < 256) : (n &&& 0xF0) >>> 4 = n / 16 := by
  rw [shiftRight_and_distrib, show 0xF0 >>> 4 = 0x0F from rfl, and_low, shiftRight_eq_div_pow]
  omega

lemma or_of_lt {x k : ℕ} (h : x < 16) : (16 * k) ||| x = 16 * k + x :=
  (two_pow_add_eq_or_of_lt (i := 4) h k).symm

lemma toNat_ofNat_lt {n : ℕ} (h : n < 256) : (UInt8.ofNat n).toNat = n := by
  exact mod_eq_of_lt h

lemma wordEn_lt : ∀ {pre : ℕ}, pre < 16 → 0 < pre → pre ^^^ 0x0F < 15 := by decide

lemma testBit_wordEn {pre i : ℕ} (h : i < 4) : (pre ^^^ 0x0F).testBit i = !pre.testBit i := by
  have hone : testBit 0x0F i = true := by interval_cases i <;> rfl
  rw [testBit_xor, hone, Bool.xor_true]

section Hdr

variable {blk we : ℕ}

lemma toNat_pgHdr_wlan (hblk : blk < 256) (hwe : we < 15) :
    (pgHdr false (8 * blk) we).1.toNat = 16 * 3 + blk / 16 ∧
      (pgHdr false (8 * blk) we).2.toNat = 16 * (blk % 16) + we := by
  have hshift : (8 * blk) >>> 3 % 256 = blk := by rw [shiftRight_eq_div_pow]; omega
  simp only [pgHdr, Bool.false_eq_true, if_false, hshift, and_high_shift hblk, and_low,
    Nat.shiftLeft_eq]
  constructor
  · rw [Nat.or_comm, show (0x30 : ℕ) = 16 * 3 from rfl, or_of_lt (by omega),
      toNat_ofNat_lt (by omega)]
  · rw [toNat_ofNat_lt (by omega)]
    omega

lemma toNat_pgHdr_short (hblk : blk < 16) (hwe : we < 15) :
    (pgHdr true (8 * blk) we).1.toNat = 16 * blk + we := by
  have hshift : (8 * blk) >>> 3 % 256 = blk := by rw [shiftRight_eq_div_pow]; omega
  have hlt : 8 * blk < bt1bEntrySize := by rw [bt1bEntrySize]; omega
  simp only [pgHdr, if_true, if_pos hlt, hshift, shiftLeft_eq]
  rw [toNat_ofNat_lt (by omega)]
  omega

lemma toNat_pgHdr_long (hle : 16 ≤ blk) (hblk : blk < 128) (hwe : we < 15) :
    (pgHdr true (8 * blk) we).1.toNat = 16 * (2 * (blk % 8)) + 15 ∧
      (pgHdr true (8 * blk) we).2.toNat = 16 * (blk / 8) + we := by
  have hshift : (8 * blk) >>> 3 = blk := by rw [shiftRight_eq_div_pow]; omega
  have hand : blk &&& (8 - 1) = blk % 8 := and_two_pow_sub_one_eq_mod blk 3
  have hlt : ¬ 8 * blk < bt1bEntrySize := by rw [bt1bEntrySize]; omega
  have hidx : ((blk % 8) <<< 1 % 256) <<< 4 = 16 * (2 * (blk % 8)) := by
    rw [shiftLeft_eq, shiftLeft_eq]; omega
  have hlarge : (blk >>> 3 % 256) <<< 4 = 16 * (blk / 8) := by
    rw [shiftLeft_eq, shiftRight_eq_div_pow]; omega
  simp only [pgHdr, if_true, if_neg hlt, hshift, hand, hidx, hlarge]
  rw [or_of_lt (by omega), toNat_ofNat_lt (by omega), toNat_ofNat_lt (by omega)]
  exact ⟨rfl, rfl⟩

end Hdr

/-- An entry of the log: the words of a block that `pre` selects, with their values in `data`. -/
structure PgEntry (b : EfuseBank) where
  blk : ℕ
  pre : ℕ
  data : ℕ → UInt8
  pre_pos : 0 < pre
  pre_lt : pre < 16
  fits : 8 * blk + 8 ≤ b.logMapSize

def EfuseParserCfg.val (data : ℕ → UInt8) : EfuseParserCfg → ℕ → UInt8
  | .map => data
  | .mask => fun _ => 0x00

def wordPatch (w : ℕ) (v : ℕ → UInt8) : Patch ℕ UInt8 := ⟨fun o => decide (o / 2 = w), v⟩

namespace PgEntry

variable {b : EfuseBank}

def hdr (e : PgEntry b) : List UInt8 :=
  hdrBytes b.isBt (8 * e.blk) (pgHdr b.isBt (8 * e.blk) (e.pre ^^^ 0x0F))

def bytes (e : PgEntry b) : List UInt8 := e.hdr ++ pgWords e.data e.pre (8 * e.blk)

def patches (cfg : EfuseParserCfg) (e : PgEntry b) : List (Patch ℕ UInt8) :=
  ([0, 1, 2, 3].filter e.pre.testBit).map fun i => wordPatch (4 * e.blk + i) (cfg.val e.data)

def Says (e : PgEntry b) (o : ℕ) : Prop := e.blk = o / 8 ∧ e.pre.testBit (o % 8 / 2)

end PgEntry

def efuseTable {b : EfuseBank} (cfg : EfuseParserCfg) (es : List (PgEntry b)) : ℕ → UInt8 :=
  overs (fun _ => 0xFF) (es.flatMap (PgEntry.patches cfg))

section Entries

variable {cfg : EfuseParserCfg} {phy : ℕ → UInt8}

lemma length_pgWords (data : ℕ → UInt8) (pre off : ℕ) :
    (pgWords data pre off).length = 2 * ([0, 1, 2, 3].filter pre.testBit).length := by
  simp [pgWords, mul_comm]

lemma one_le_words : ∀ {pre : ℕ}, pre < 16 → 0 < pre →
    1 ≤ ([0, 1, 2, 3].filter pre.testBit).length := by
  decide

lemma PgEntry.two_le_words (e : PgEntry b) : 2 ≤ (pgWords e.data e.pre (8 * e.blk)).length := by
  have hone := one_le_words e.pre_lt e.pre_pos
  rw [length_pgWords]
  omega

lemma eepromHdr_hdr (e : PgEntry b) {idx : ℕ} (h : Holds phy idx e.hdr) :
    eepromHdr b.isBt phy idx = .entry e.blk (e.pre ^^^ 0x0F) (idx + e.hdr.length) := by
  have hwe := wordEn_lt e.pre_lt e.pre_pos
  have hfits := e.fits
  have hsize : b.logMapSize ≤ 2048 := by cases b <;> simp [EfuseBank.logMapSize, btLogEfuseSize]
  generalize hwe' : e.pre ^^^ 0x0F = we at hwe
  rw [PgEntry.hdr, hwe'] at h ⊢
  cases hbt : b.isBt
  · obtain ⟨h1, h2⟩ := toNat_pgHdr_wlan (by omega : e.blk < 256) hwe
    simp only [hdrBytes, hbt, true_or, if_true, holds_cons] at h ⊢
    have hlt2 : 16 * (e.blk % 16) + we < 256 := by omega
    simp only [eepromHdr, h.1, h.2.1, h1, h2, Bool.false_eq_true, if_false, and_high_shift hlt2,
      and_low]
    rw [if_neg (by omega), if_neg (by omega), Nat.shiftLeft_eq, Nat.or_comm,
      show (16 * 3 + e.blk / 16) % 16 * 2 ^ 4 = 16 * (e.blk / 16) by omega, or_of_lt (by omega)]
    simp only [length_cons, length_nil, EepromHdr.entry.injEq]
    exact ⟨by omega, by omega, trivial⟩
  · have hlog : b.logMapSize = 1024 := by simpa [EfuseBank.isBt, btLogEfuseSize] using hbt
    by_cases hshort : e.blk < 16
    · have h1 := toNat_pgHdr_short hshort hwe
      have hlt : ¬ bt1bEntrySize ≤ 8 * e.blk := by rw [bt1bEntrySize]; omega
      simp only [hdrBytes, hbt, Bool.true_eq_false, hlt, or_self, if_false, holds_cons] at h ⊢
      have hlt1 : 16 * e.blk + we < 256 := by omega
      simp only [eepromHdr, h.1, h1, if_true, and_high_shift hlt1, and_low]
      rw [if_neg (by omega), if_pos (by omega)]
      simp only [length_cons, length_nil, EepromHdr.entry.injEq]
      exact ⟨by omega, by omega, trivial⟩
    · obtain ⟨h1, h2⟩ := toNat_pgHdr_long (by omega) (by omega : e.blk < 128) hwe
      have hle : bt1bEntrySize ≤ 8 * e.blk := by rw [bt1bEntrySize]; omega
      simp only [hdrBytes, hbt, hle, or_true, if_true, holds_cons] at h ⊢
      have hlt1 : 16 * (2 * (e.blk % 8)) + 15 < 256 := by omega
      have hlt2 : 16 * (e.blk / 8) + we < 256 := by omega
      simp only [eepromHdr, h.1, h.2.1, h1, h2, if_true, and_high_shift hlt1, and_high_shift hlt2,
        and_low, shiftLeft_eq, shiftRight_eq_div_pow]
      rw [if_neg (by omega), if_neg (by omega), if_neg (by omega)]
      simp only [length_cons, length_nil, EepromHdr.entry.injEq]
      exact ⟨by omega, by omega, trivial⟩

lemma overlay_wordPatch (log v : ℕ → UInt8) (w : ℕ) : overlay log (wordPatch w v)
      = update (update log (2 * w) (v (2 * w))) (2 * w + 1) (v (2 * w + 1)) := by
  funext o
  simp [overlay, wordPatch, update_apply]
  split_ifs with hw h1 h2 h1 h2
  · rw [h1]
  · rw [h2]
  · omega
  · omega
  · omega
  · rfl

lemma eepromWord_on {blk pre i idx : ℕ} (hi : i < 4) (hbit : pre.testBit i)
    (hfits : 8 * blk + 8 ≤ b.logMapSize) (hidx : idx + 2 ≤ b.phyMapSize)
    (h1 : phy idx = data (8 * blk + (i <<< 1)))
    (h2 : phy (idx + 1) = data (8 * blk + (i <<< 1) + 1)) :
    eepromWord b cfg phy blk (pre ^^^ 0x0F) (idx, log) i
      = .ok (idx + 2, overlay log (wordPatch (4 * blk + i) (cfg.val data))) := by
  have heidx : blk <<< 3 + i <<< 1 = 2 * (4 * blk + i) := by
    rw [shiftLeft_eq, shiftLeft_eq]; omega
  have hoff : 8 * blk + i <<< 1 = 2 * (4 * blk + i) := by rw [shiftLeft_eq]; omega
  rw [hoff] at h1 h2
  have hclear : (pre ^^^ 0x0F).testBit i = false := by rw [testBit_wordEn hi, hbit]; rfl
  simp [eepromWord, hclear, heidx, overlay_wordPatch]
  rw [if_neg (by omega), if_neg (by omega), if_neg (by omega)]
  cases cfg with
  | map => rw [h1, h2]; rfl
  | mask => rfl

lemma eepromWord_off {blk pre i : ℕ} {st : ℕ × (ℕ → UInt8)} (hi : i < 4)
    (hbit : pre.testBit i = false) : eepromWord b cfg phy blk (pre ^^^ 0x0F) st i = .ok st := by
  have hset : (pre ^^^ 0x0F).testBit i = true := by rw [testBit_wordEn hi, hbit]; rfl
  simp [eepromWord, hset]

lemma foldlM_eepromWord {blk pre : ℕ} (hfits : 8 * blk + 8 ≤ b.logMapSize) :
    ∀ {l : List ℕ} {idx : ℕ} {log : ℕ → UInt8}, (∀ i ∈ l, i < 4) →
      Holds phy idx ((l.filter pre.testBit).flatMap fun i =>
        [data (8 * blk + (i <<< 1)), data (8 * blk + (i <<< 1) + 1)]) →
      idx + 2 * (l.filter pre.testBit).length ≤ b.phyMapSize →
      l.foldlM (eepromWord b cfg phy blk (pre ^^^ 0x0F)) (idx, log)
        = .ok (idx + 2 * (l.filter pre.testBit).length, overs log
          ((l.filter pre.testBit).map fun i => wordPatch (4 * blk + i) (cfg.val data)))
  | [], _, _, _, _, _ => rfl
  | i :: l, idx, log, hl, hholds, hidx => by
    have hi : i < 4 := hl i mem_cons_self
    have hl' : ∀ j ∈ l, j < 4 := fun j hj => hl j (mem_cons_of_mem i hj)
    rw [foldlM_cons]
    cases hbit : pre.testBit i
    · simp only [filter_cons, hbit, Bool.false_eq_true, if_false] at hholds hidx ⊢
      rw [eepromWord_off hi hbit]
      exact foldlM_eepromWord hfits hl' hholds hidx
    · simp only [filter_cons, hbit, if_true, flatMap_cons, cons_append, nil_append, holds_cons,
        length_cons, map_cons, overs_cons] at hholds hidx ⊢
      obtain ⟨h1, h2, hrest⟩ := hholds
      rw [eepromWord_on hi hbit hfits (by omega) h1 h2]
      rw [show idx + 2 * ((l.filter pre.testBit).length + 1)
        = idx + 2 + 2 * (l.filter pre.testBit).length by omega]
      exact foldlM_eepromWord hfits hl' hrest (by omega)

lemma eepromLoop_entry (e : PgEntry b) {fuel idx : ℕ} (h : Holds phy idx e.bytes)
    (hfits : idx + e.bytes.length ≤ b.phyMapSize) :
    eepromLoop b cfg phy (fuel + 1) idx log
      = eepromLoop b cfg phy fuel (idx + e.bytes.length) (overs log (e.patches cfg)) := by
  obtain ⟨hhdr, hwords⟩ := holds_append.1 h
  have htwo := e.two_le_words
  have hlen : e.bytes.length = e.hdr.length + (pgWords e.data e.pre (8 * e.blk)).length :=
    length_append
  rw [eepromLoop, if_neg (by omega), eepromHdr_hdr e hhdr]
  simp only
  rw [if_neg (by omega)]
  rw [length_pgWords] at hlen
  rw [foldlM_eepromWord e.fits (by simp) hwords (by omega)]
  simp only [hlen, ← add_assoc]
  rfl

lemma eepromLoop_log : ∀ {es : List (PgEntry b)} {fuel idx : ℕ} {log : ℕ → UInt8},
    es.length < fuel → Holds phy idx (es.flatMap PgEntry.bytes) →
    stop PgEntry.bytes idx es ≤ b.phyMapSize →
    (stop PgEntry.bytes idx es < b.phyMapSize → phy (stop PgEntry.bytes idx es) = 0xFF) →
    eepromLoop b cfg phy fuel idx log
      = .ok (stop PgEntry.bytes idx es, overs log (es.flatMap (PgEntry.patches cfg)))
  | [], fuel + 1, idx, log, _, _, hle, hblank => by
    rw [eepromLoop]
    by_cases hend : b.phyMapSize ≤ idx
    · rw [if_pos hend]
      rfl
    · have hff : phy idx = 0xFF := hblank (Nat.lt_of_not_le hend)
      rw [if_neg hend, eepromHdr, hff]
      rfl
  | e :: es, fuel + 1, idx, log, hfuel, hholds, hle, hblank => by
    have hstop : stop PgEntry.bytes idx (e :: es)
        = stop PgEntry.bytes (idx + e.bytes.length) es := by
      rw [← singleton_append, stop_append, stop_singleton]
    rw [flatMap_cons, holds_append] at hholds
    rw [hstop] at hle hblank ⊢
    rw [eepromLoop_entry e hholds.1 (le_stop.trans hle), flatMap_cons, overs_append]
    exact eepromLoop_log (by simpa using hfuel) hholds.2 hle hblank

lemma length_le_flatMap (es : List (PgEntry b)) :
    es.length ≤ (es.flatMap PgEntry.bytes).length := by
  induction es with
  | nil => simp
  | cons e es ih =>
    have htwo := e.two_le_words
    simp [PgEntry.bytes] at ih ⊢
    omega

abbrev EfuseLog (b : EfuseBank) (cells : ℕ → UInt8) (es : List (PgEntry b)) : Prop :=
  LogAt PgEntry.bytes 0xFF b.start b.phyMapSize cells es

lemma eepromParser_logAt {es : List (PgEntry b)} (h : EfuseLog b phy es) :
    eepromParser b cfg phy = .ok (stop PgEntry.bytes b.start es, efuseTable cfg es) := by
  have hlen := length_le_flatMap es
  have hfits : b.start + (es.flatMap PgEntry.bytes).length ≤ b.phyMapSize := h.fits
  exact eepromLoop_log (by omega) h.holds h.fits fun hlt => h.blank _ le_rfl hlt

end Entries

end Rtl8852be

import Rtl8852be.Basic
import Rtl8852be.Lib.PatchLog

/-!
# The efuse of the MAC

`efuse.c` keeps a logical map of bytes in one-time programmable cells, which hold entries: a header
with a block of eight bytes and which of its four words follow, and the words. A cell that was never
programmed reads `0xFF`.
-/

namespace Rtl8852be

/-- What `switch_efuse_bank` selects, with `dv_sel` for the WLAN bank. -/
inductive EfuseBank where
  | wifi
  | wifiDav
  | bt
  deriving DecidableEq

def btLogEfuseSize : ℕ := 1024

def secCtrlEfuseSize : ℕ := 4

def bt1bEntrySize : ℕ := 0x80

variable (b : EfuseBank)

namespace EfuseBank

def phyMapSize : EfuseBank → ℕ
  | wifi => 1216
  | wifiDav => 96
  | bt => 512

def logMapSize : EfuseBank → ℕ
  | wifi => 2048
  | wifiDav => 16
  | bt => btLogEfuseSize

def isBt : Bool := b.logMapSize == btLogEfuseSize

def start : ℕ := if b.isBt then 0 else secCtrlEfuseSize

end EfuseBank

inductive EfuseParserCfg where
  | map
  | mask

/-- The end of the entries, or a block, its `word_en` and the index behind the header. -/
inductive EepromHdr where
  | done (efuseIdx : ℕ)
  | entry (blkIdx wordEn efuseIdx : ℕ)

def eepromHdr (isBt : Bool) (phyMap : ℕ → UInt8) (efuseIdx : ℕ) : EepromHdr :=
  let hdr := (phyMap efuseIdx).toNat
  let hdr2 := (phyMap (efuseIdx + 1)).toNat
  if hdr = 0xFF then .done efuseIdx
  else if isBt then
    if hdr &&& 0xF ≠ 0xF then .entry ((hdr &&& 0xF0) >>> 4) (hdr &&& 0x0F) (efuseIdx + 1)
    else if hdr2 = 0xFF then .done (efuseIdx + 1)
    else
      .entry ((((hdr2 &&& 0xF0) >>> 4) <<< 3) + (((hdr &&& 0xF0) >>> 4) >>> 1)) (hdr2 &&& 0x0F)
        (efuseIdx + 2)
  else if hdr2 = 0xFF then .done (efuseIdx + 1)
  else
    .entry (((hdr2 &&& 0xF0) >>> 4) ||| ((hdr &&& 0x0F) <<< 4)) (hdr2 &&& 0x0F) (efuseIdx + 2)

variable (cfg : EfuseParserCfg) (phyMap : ℕ → UInt8)

/-- Word `i` of an entry: a bit of `word_en` that is clear says that it follows. -/
def eepromWord (blkIdx wordEn : ℕ) (st : ℕ × (ℕ → UInt8)) (i : ℕ) : Except MacStatus
    (ℕ × (ℕ → UInt8)) :=
  let value8 := fun idx => match cfg with
    | .map => phyMap idx
    | .mask => 0x00
  let eepromIdx := (blkIdx <<< 3) + (i <<< 1)
  if wordEn.testBit i then .ok st
  else if b.logMapSize < eepromIdx + 1 then .error .efuseparse
  else if b.phyMapSize - 1 < st.1 + 1 then .error .efuseparse
  else if b.phyMapSize < st.1 + 2 then .error .efuseparse
  else
    .ok (st.1 + 2, Function.update (Function.update st.2 eepromIdx (value8 st.1)) (eepromIdx + 1)
      (value8 (st.1 + 1)))

def eepromLoop : ℕ → ℕ → (ℕ → UInt8) → Except MacStatus (ℕ × (ℕ → UInt8))
  | 0, _, _ => .error .efuseparse
  | fuel + 1, efuseIdx, logMap =>
    if b.phyMapSize ≤ efuseIdx then .ok (efuseIdx, logMap)
    else match eepromHdr b.isBt phyMap efuseIdx with
      | .done efuseIdx => .ok (efuseIdx, logMap)
      | .entry blkIdx wordEn efuseIdx =>
        if b.phyMapSize - 1 ≤ efuseIdx then .error .efuseparse
        else match [0, 1, 2, 3].foldlM (eepromWord b cfg phyMap blkIdx wordEn)
            (efuseIdx, logMap) with
          | .error e => .error e
          | .ok (efuseIdx, logMap) => eepromLoop fuel efuseIdx logMap

/-- `eeprom_parser`: the end of the entries, which becomes `efuse_end`, and the logical map. -/
def eepromParser : Except MacStatus (ℕ × (ℕ → UInt8)) :=
  eepromLoop b cfg phyMap (b.phyMapSize + 1) b.start fun _ => 0xFF

/-- The cells and what `bank_efuse_info` keeps of them. `writes` are the cells written, in order. -/
structure Efuse where
  cells : ℕ → UInt8
  writes : List ℕ
  phyMap : ℕ → UInt8
  phyMapValid : Bool
  logMap : ℕ → UInt8
  logMapValid : Bool
  efuseEnd : ℕ

inductive EfuseBuf where
  | map
  | localMap
  | maskMap
  | updatedMask

/-- Whether the buffers can be had, how a read of the cells ends, and how a write to a cell ends and
what the cell then reads. -/
structure EfuseEnv where
  malloc : EfuseBuf → Bool
  read : MacStatus
  write : ℕ → UInt8 → UInt8 → MacStatus × UInt8

variable (env : EfuseEnv)

def writeHwEfuse (offset : ℕ) (value : UInt8) (s : Efuse) : MacStatus × Efuse :=
  let (st, cell) := env.write offset (s.cells offset) value
  (st, { s with
    cells := Function.update s.cells offset cell
    writes := s.writes ++ [offset]
    phyMapValid := false
    logMapValid := false })

def writeHwEfuses : ℕ → List UInt8 → Efuse → MacStatus × Efuse
  | _, [], s => (.success, s)
  | offset, value :: values, s =>
    match writeHwEfuse env offset value s with
    | (.success, s) => writeHwEfuses (offset + 1) values s
    | (st, s) => (st, s)

variable (s : Efuse)

def readEfuse : MacStatus × (ℕ → UInt8) :=
  if s.phyMapValid then (.success, s.phyMap) else (env.read, s.cells)

def fetchPhyMap : MacStatus × Efuse :=
  if s.phyMapValid then (.success, s)
  else if env.malloc .localMap then
    match readEfuse env s with
    | (.success, map) => (.success, { s with phyMap := map, phyMapValid := true })
    | (st, _) => (st, s)
  else (.bufalloc, s)

def readLogEfuseMap (b : EfuseBank) (map : ℕ → UInt8) (s : Efuse) : MacStatus × (ℕ → UInt8) ×
    Efuse :=
  if s.logMapValid then (.success, s.logMap, s)
  else match fetchPhyMap env s with
    | (.success, s) =>
      match eepromParser b .map s.phyMap with
      | .ok (efuseEnd, map) =>
        (.success, map, { s with efuseEnd := efuseEnd, logMap := map, logMapValid := true })
      | .error st => (st, map, s)
    | (st, s) => (st, map, s)

def efuseOffsets (n size : ℕ) : List ℕ := (List.range ((size + (n - 1)) / n)).map (n * ·)

structure PgEfuseInfo where
  efuseMap : ℕ → UInt8
  efuseMapSize : ℕ
  efuseMask : ℕ → UInt8
  efuseMaskSize : ℕ

def clrBit : ℕ → UInt8
  | 0 => 0x10
  | 2 => 0x20
  | 4 => 0x40
  | 6 => 0x80
  | 8 => 0x01
  | 10 => 0x02
  | 12 => 0x04
  | 14 => 0x08
  | _ => 0x00

variable (info : PgEfuseInfo)

/-- The word at `i + j` is taken out of the mask if it was programmed and has the value asked
for. -/
def updateMaskWord (map maskMap : ℕ → UInt8) (i : ℕ) (updatedMask : ℕ → UInt8) (j : ℕ) : ℕ →
    UInt8 :=
  if info.efuseMap (i + j) = map (i + j) ∧ info.efuseMap (i + j + 1) = map (i + j + 1) ∧
      maskMap (i + j) = 0x00 then
    Function.update updatedMask (i >>> 4) (updatedMask (i >>> 4) &&& ~~~clrBit j)
  else updatedMask

def updateMaskWords (map maskMap updatedMask : ℕ → UInt8) : ℕ → UInt8 :=
  (efuseOffsets 16 info.efuseMapSize).foldl
    (fun mask i => (efuseOffsets 2 16).foldl (updateMaskWord info map maskMap i) mask) updatedMask

def updateEepromMask (b : EfuseBank) (info : PgEfuseInfo) (updatedMask : ℕ → UInt8) (pgSim : Bool)
    (s : Efuse) : MacStatus × (ℕ → UInt8) × Efuse :=
  if env.malloc .map then
    match if pgSim then (.success, s.logMap, s) else readLogEfuseMap env b (fun _ => 0xFF) s with
    | (.success, map, s) =>
      if env.malloc .maskMap then
        match eepromParser b .mask s.phyMap with
        | .ok (efuseEnd, maskMap) =>
          let mask := fun k => if k < info.efuseMaskSize then info.efuseMask k else updatedMask k
          (.success, updateMaskWords info map maskMap mask, { s with efuseEnd := efuseEnd })
        | .error st => (st, updatedMask, s)
      else (.bufalloc, updatedMask, s)
    | (st, _, s) => (st, updatedMask, s)
  else (.bufalloc, updatedMask, s)

/-- The nibble of the mask for the block at `i`, where `odd` says that it is the second of its
sixteen bytes. -/
def preWordEn (mask : ℕ → UInt8) (odd : Bool) (i : ℕ) : ℕ :=
  if odd then (mask (i >>> 4)).toNat &&& 0x0F else (mask (i >>> 4)).toNat >>> 4

/-- How many cells `check_efuse_enough` reckons with for a block. -/
def pgNumOf (pre : ℕ) : ℕ :=
  if 0 < pre then [0, 1, 2, 3].foldl (fun n j => if pre.testBit j then n + 2 else n) 2 else 0

variable (updatedMask : ℕ → UInt8)

def checkEfuseEnough (s : Efuse) : MacStatus :=
  let pgNum := (efuseOffsets 8 info.efuseMapSize).foldl
    (fun n i => n + pgNumOf (preWordEn updatedMask (decide (0 < i &&& 0xF)) i)) 0
  if b.phyMapSize < pgNum + s.efuseEnd then .efusesize else .success

/-- The header that `proc_pg_efuse` makes, with the second byte as it is left where there is
none. -/
@[simp] def pgHdr (isBt : Bool) (eepromOffset wordEn : ℕ) : UInt8 × UInt8 :=
  if isBt then
    if eepromOffset < bt1bEntrySize then
      let blk := (eepromOffset >>> 3) % 256
      (UInt8.ofNat ((blk <<< 4) + wordEn), 0xFF)
    else
      let blk := (eepromOffset >>> 3 >>> 3) % 256
      let blkIdx := (((eepromOffset >>> 3) &&& (8 - 1)) <<< 1) % 256
      (UInt8.ofNat ((blkIdx <<< 4) ||| 0xF), UInt8.ofNat ((blk <<< 4) + wordEn))
  else
    let blk := (eepromOffset >>> 3) % 256
    (UInt8.ofNat (((blk &&& 0xF0) >>> 4) ||| 0x30), UInt8.ofNat (((blk &&& 0x0F) <<< 4) + wordEn))

@[simp] def hdrBytes (isBt : Bool) (offset : ℕ) (hdr : UInt8 × UInt8) : List UInt8 :=
  if isBt = false ∨ bt1bEntrySize ≤ offset then [hdr.1, hdr.2] else [hdr.1]

def pgWords (map : ℕ → UInt8) (pre eepromOffset : ℕ) : List UInt8 :=
  ([0, 1, 2, 3].filter pre.testBit).flatMap fun i =>
    [map (eepromOffset + (i <<< 1)), map (eepromOffset + (i <<< 1) + 1)]

/-- `proc_pg_efuse`. The simulation writes to the physical map. -/
def procPgEfuse (wordEn pre eepromOffset : ℕ) (pgSim : Bool) (s : Efuse) : MacStatus × Efuse :=
  let isBt := info.efuseMapSize == btLogEfuseSize
  let hdr := pgHdr isBt eepromOffset wordEn
  let words := pgWords info.efuseMap pre eepromOffset
  if pgSim then
    let bytes := [hdr.1, hdr.2] ++ words
    (.success, { s with
      phyMap := PatchLog.blit s.phyMap s.efuseEnd bytes
      efuseEnd := s.efuseEnd + bytes.length })
  else
    let bytes := hdrBytes isBt eepromOffset hdr ++ words
    match writeHwEfuses env s.efuseEnd bytes s with
    | (.success, s') => (.success, { s' with efuseEnd := s.efuseEnd + bytes.length })
    | (st, s') => (st, s')

def programLoop (pgSim : Bool) : List ℕ → Efuse → MacStatus × Efuse
  | [], s => (.success, s)
  | i :: is, s =>
    let pre := preWordEn updatedMask (decide (0 < (i >>> 3) &&& 1)) i
    if 0 < pre then
      match procPgEfuse env info (pre ^^^ 0x0F) pre i pgSim s with
      | (.success, s) => programLoop pgSim is s
      | (st, s) => (st, s)
    else programLoop pgSim is s

def programEfuse (pgSim : Bool) (s : Efuse) : MacStatus × Efuse :=
  programLoop env info updatedMask pgSim (efuseOffsets 8 info.efuseMapSize) s

def procPgEfuseByMap (b : EfuseBank) (info : PgEfuseInfo) (s : Efuse) : MacStatus × Efuse :=
  if env.malloc .updatedMask then
    match updateEepromMask env b info (fun _ => 0x00) false s with
    | (.success, updatedMask, s) =>
      match checkEfuseEnough b info updatedMask s with
      | .success => programEfuse env info updatedMask false s
      | st => (st, s)
    | (st, _, s) => (st, s)
  else (.bufalloc, s)

@[simp] def wrHdr (isBt : Bool) (offset : ℕ) : UInt8 × UInt8 :=
  let wordIdx := ((offset &&& (8 - 1)) >>> 1) % 256
  if isBt then
    if offset < bt1bEntrySize then
      let blk := (offset >>> 3) % 256
      (UInt8.ofNat ((blk <<< 4) + ((0x1 <<< wordIdx) ^^^ 0x0F)), 0)
    else
      let blk := (offset >>> 3 >>> 3) % 256
      let blkIdx := (((offset >>> 3) &&& (8 - 1)) <<< 1) % 256
      (UInt8.ofNat ((blkIdx <<< 4) + 0xF), UInt8.ofNat ((blk <<< 4) + ((0x1 <<< wordIdx) ^^^ 0x0F)))
  else
    let blk := (offset >>> 3) % 256
    (UInt8.ofNat (((blk &&& 0xF0) >>> 4) ||| 0x30),
      UInt8.ofNat (((blk &&& 0x0F) <<< 4) + ((0x1 <<< wordIdx) ^^^ 0x0F)))

def procWriteLogEfuse (b : EfuseBank) (offset : ℕ) (value : UInt8) (s : Efuse) : MacStatus ×
    Efuse :=
  if env.malloc .map then
    match if s.logMapValid then (.success, s.logMap, s)
        else readLogEfuseMap env b (fun _ => 0) s with
    | (.success, map, s) =>
      if map offset ≠ value then
        let bytes := if offset &&& 1 = 0 then [value, map (offset + 1)]
          else [map (offset - 1), value]
        if b.phyMapSize ≤ 4 + s.efuseEnd then (.efusesize, s)
        else writeHwEfuses env s.efuseEnd (hdrBytes b.isBt offset (wrHdr b.isBt offset) ++ bytes) s
      else (.success, s)
    | (st, _, s) => (st, s)
  else (.bufalloc, s)

inductive EfuseEv where
  | pg (env : EfuseEnv) (info : PgEfuseInfo)
  | write (env : EfuseEnv) (offset : ℕ) (value : UInt8)
  | read (env : EfuseEnv)

def efuseStep : EfuseEv → Efuse
  | .pg env info => (procPgEfuseByMap env b info s).2
  | .write env offset value => (procWriteLogEfuse env b offset value s).2
  | .read env => (readLogEfuseMap env b (fun _ => 0) s).2.2

def efuseBlank : Efuse := ⟨fun _ => 0xFF, [], fun _ => 0, false, fun _ => 0, false, 0⟩

def EfuseBank.efuseStart : EfuseBank → ℕ
  | .bt => 0x600
  | _ => 0

/-- Whether the controller is ready in time, and what a cell reads once it was programmed. -/
structure EfuseCtrl where
  writeRdy : Bool
  readRdy : Bool
  program : UInt8 → UInt8 → UInt8

/-- The address field of `efuse_ctrl` has 11 bits. -/
def efAddr (offset : ℕ) : ℕ := offset &&& 0x7ff

def readHwEfuseDdv (ctrl : EfuseCtrl) (b : EfuseBank) (offset : ℕ) (cells : ℕ → UInt8) :
    Except MacStatus UInt8 :=
  if ctrl.readRdy then .ok (cells (efAddr (offset + b.efuseStart))) else .error .efuseread

/-- `write_hw_efuse` with the array that is selected by default. -/
def writeHwEfuseDdv (ctrl : EfuseCtrl) (autoCkEn : Bool) (b : EfuseBank) (offset : ℕ)
    (value : UInt8) (cells : ℕ → UInt8) : MacStatus × (ℕ → UInt8) :=
  let offset := offset + b.efuseStart
  let cells := Function.update cells (efAddr offset) (ctrl.program (cells (efAddr offset)) value)
  if !ctrl.writeRdy then (.efusewrite, cells)
  else if autoCkEn then
    match readHwEfuseDdv ctrl b offset cells with
    | .ok valueRead => (if valueRead ≠ value then .efusewrite else .success, cells)
    | .error st => (st, cells)
  else (.success, cells)

end Rtl8852be

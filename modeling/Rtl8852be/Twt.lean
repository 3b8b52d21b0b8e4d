import Rtl8852be.Basic
import Rtl8852be.Lib.Bytes

/-!
# Target wake time

`phl_twt.c`: the table of TWT configs, and how a station enters agreements and tears them down. A
config has a queue of the stations that use it, each with the id of its flow. The fields of a TWT
element are bits of little-endian words.
-/

namespace Rtl8852be

open Bytes

def maxNumHwTwtConfig : ℕ := 4

def deleteAll : UInt8 := 0xFF

inductive NegoType where
  | indivTwt
  | wakeTbttInr
  | bcastTwt
  | manageBcastTwt
  deriving DecidableEq

inductive TwtConfigState where
  | free
  | idle
  | enable
  | error
  | unknown
  deriving DecidableEq

inductive TwtAction where
  | free
  | alloc
  | enable
  | disable
  | upError

def twtTransferConfigState : TwtAction → TwtConfigState
  | .free => .free
  | .alloc => .idle
  | .enable => .enable
  | .disable => .idle
  | .upError => .error

structure TwtStaInfo (ι : Type*) where
  phlSta : ι
  id : UInt8
  deriving DecidableEq

structure TwtConfig (ι ρ : Type*) where
  state : TwtConfigState
  role : Option ρ
  negoType : NegoType
  twtId : ℕ
  twtStaQueue : List (TwtStaInfo ι)

structure TwtInfo (ι ρ : Type*) where
  sup : Bool
  init : Bool
  ring : ℕ → TwtConfig ι ρ

/-- The answers to the removal of a station from a config, the disabling of an empty config, the
enabling of the new one, the allocation of its entry, the addition of the station, and the disabling
of the new config. -/
structure TwtIo where
  delMacid : ℕ → Bool
  disable : ℕ → Bool
  enable : Bool
  memAlloc : Bool
  addMacid : Bool
  disableNew : Bool

variable {ι ρ : Type*} [DecidableEq ι] [DecidableEq ρ]

def TwtConfig.setQueue (c : TwtConfig ι ρ) (q : List (TwtStaInfo ι)) : TwtConfig ι ρ :=
  { c with twtStaQueue := q }

variable (s : TwtInfo ι ρ)

def TwtInfo.setConfig (i : ℕ) (c : TwtConfig ι ρ) : TwtInfo ι ρ :=
  { s with ring := Function.update s.ring i c }

def TwtStaInfo.isOf (phlSta : ι) (id : UInt8) (e : TwtStaInfo ι) : Bool :=
  phlSta == e.phlSta && (id == deleteAll || id == e.id)

def twtStaExist (phlSta : ι) (id : UInt8) (q : List (TwtStaInfo ι)) : Bool :=
  q.any (TwtStaInfo.isOf phlSta id)

def twtGetStaInfo (phlSta : ι) (q : List (TwtStaInfo ι)) : Option (TwtStaInfo ι) :=
  q.find? fun e => phlSta == e.phlSta

/-- The loop of `_twt_delete_sta`, with the entries it has not looked at. It gives the number of
entries that are left if it has deleted one. -/
def twtDeleteLoop (phlSta : ι) (id : UInt8) :
    ℕ → List (TwtStaInfo ι) → Option ℕ × List (TwtStaInfo ι)
  | _, [] => (none, [])
  | 0, e :: q => (none, q ++ [e])
  | n + 1, e :: q =>
    if e.isOf phlSta id then (some q.length, q) else twtDeleteLoop phlSta id n (q ++ [e])

def twtDeleteSta (phlSta : ι) (id : UInt8) (q : List (TwtStaInfo ι)) :
    Option ℕ × List (TwtStaInfo ι) :=
  twtDeleteLoop phlSta id q.length q

def twtGetConfigById (id : ℕ) : Option (TwtConfig ι ρ) :=
  if maxNumHwTwtConfig ≤ id then none
  else if (s.ring id).state = .free then none
  else some (s.ring id)

/-- `PHL_GET_NEW_CONFIG`, with `_twt_reset_config_info`. -/
def twtGetNewConfig : Option (ℕ × TwtConfig ι ρ) :=
  ((List.range maxNumHwTwtConfig).find? fun i => decide ((s.ring i).state = .free)).map fun i =>
    (i, { s.ring i with
      state := twtTransferConfigState .alloc, role := none, negoType := .indivTwt, twtId := i })

def twtInfoUpdate (ok : Bool) (action : TwtAction) (c : TwtConfig ι ρ) : TwtConfig ι ρ :=
  { c with state := twtTransferConfigState (if ok then action else .upError) }

def rtwPhlTwtFreeTwtConfig (disable : Bool) (id : ℕ) (s : TwtInfo ι ρ) :
    PhlStatus × TwtInfo ι ρ :=
  if s.sup && s.init then
    match twtGetConfigById s id with
    | some c =>
      let c := (twtInfoUpdate disable .disable c).setQueue []
      (.success, s.setConfig id { c with state := twtTransferConfigState .free })
    | none => (.failure, s)
  else (.failure, s)

/-- `rtw_phl_twt_alloc_twt_config`; the other parameters of the setup are only passed on to the
hardware. -/
def rtwPhlTwtAllocTwtConfig (enable : Bool) (role : ρ) (negoType : NegoType) (benable : Bool)
    (s : TwtInfo ι ρ) : PhlStatus × Option ℕ × TwtInfo ι ρ :=
  if s.sup && s.init then
    match twtGetNewConfig s with
    | none => (.resource, none, s)
    | some (i, c) =>
      let c := { c with role := some role, negoType := negoType }
      if benable then
        (if enable then .success else .failure, some i,
          s.setConfig i (twtInfoUpdate enable .enable c))
      else (.success, some i, s.setConfig i c)
  else (.failure, none, s)

def rtwPhlTwtAddStaInfo (io : TwtIo) (phlSta : ι) (configId : ℕ) (id : UInt8)
    (s : TwtInfo ι ρ) : PhlStatus × TwtInfo ι ρ :=
  if s.sup && s.init then
    match twtGetConfigById s configId with
    | none => (.failure, s)
    | some c =>
      if io.memAlloc then
        let q := c.twtStaQueue ++ [⟨phlSta, id⟩]
        if io.addMacid then (.success, s.setConfig configId (c.setQueue q))
        else (.failure, s.setConfig configId (c.setQueue (twtDeleteSta phlSta id q).2))
      else (.failure, s)
  else (.failure, s)

structure TwtScan (ι ρ : Type*) where
  info : TwtInfo ι ρ
  deleteError : Bool
  bitmap : BitVec 8

section Scan

variable (io : TwtIo) (wrole : ι → ρ) (phlSta : ι) (ignoreType : Bool) (type : NegoType)
  (deleteId : UInt8)

def twtSkip (c : TwtConfig ι ρ) : Bool :=
  decide (c.state = .free) || decide (c.role ≠ some (wrole phlSta)) ||
    (!ignoreType && decide (c.negoType ≠ type)) || !twtStaExist phlSta deleteId c.twtStaQueue

/-- The loop of `_twt_delete_sta_info`, over the configs that are left. -/
def twtDeleteScan : List ℕ → TwtScan ι ρ → TwtScan ι ρ
  | [], x => x
  | i :: is, x =>
    let c := x.info.ring i
    if twtSkip wrole phlSta ignoreType type deleteId c then twtDeleteScan is x
    else if io.delMacid i then
      match twtDeleteSta phlSta deleteId c.twtStaQueue with
      | (none, q) =>
        twtDeleteScan is ⟨x.info.setConfig i (c.setQueue q), true, x.bitmap⟩
      | (some cnt, q) =>
        let x := ⟨x.info.setConfig i (c.setQueue q), x.deleteError,
          if cnt = 0 then x.bitmap ||| BitVec.twoPow 8 c.twtId else x.bitmap⟩
        if deleteId ≠ deleteAll then x else twtDeleteScan is x
    else twtDeleteScan is { x with deleteError := true }

end Scan

def twtDeleteStaInfo (io : TwtIo) (wrole : ι → ρ) (phlSta : ι) (ignoreType : Bool)
    (negoType : NegoType) (id : UInt8) (s : TwtInfo ι ρ) :
    PhlStatus × BitVec 8 × TwtInfo ι ρ :=
  let type := if negoType = .manageBcastTwt then .bcastTwt else negoType
  let x := twtDeleteScan io wrole phlSta ignoreType type (if ignoreType then deleteAll else id)
    (List.range maxNumHwTwtConfig) ⟨s, false, 0⟩
  (if x.deleteError then .failure else .success, x.bitmap, x.info)

structure TwtSetupInfo where
  negoType : NegoType
  twtFlowId : UInt8

/-- `struct rtw_phl_twt_flow_field`; `id` is the flow id, or the id of the broadcast TWT. -/
structure TwtFlowField where
  negoType : NegoType
  teardownAll : Bool
  id : UInt8

def twtFlowIdExist (wrole : ι → ρ) (phlSta : ι) (id : UInt8) (s : TwtInfo ι ρ) : Bool :=
  (List.range maxNumHwTwtConfig).any fun i =>
    let c := s.ring i
    decide (c.state ≠ .free) && decide (c.role = some (wrole phlSta)) &&
      decide (c.negoType = .indivTwt) &&
      match twtGetStaInfo phlSta c.twtStaQueue with
      | some e => e.id == id
      | none => false

def lowestBit (bitmap : BitVec 8) : ℕ := ((List.range 8).find? bitmap.getLsbD).getD 0

/-- An older agreement with the same flow id is deleted first. Only one config is freed. -/
def twtDropOld (io : TwtIo) (wrole : ι → ρ) (phlSta : ι) (setup : TwtSetupInfo)
    (s : TwtInfo ι ρ) : TwtInfo ι ρ :=
  if twtFlowIdExist wrole phlSta setup.twtFlowId s then
    match twtDeleteStaInfo io wrole phlSta false setup.negoType setup.twtFlowId s with
    | (sts, bitmap, s) =>
      if sts = .success ∧ bitmap ≠ 0 then
        (rtwPhlTwtFreeTwtConfig (io.disable (lowestBit bitmap)) (lowestBit bitmap) s).2
      else s
  else s

def twtAcceptIndivBySta (io : TwtIo) (wrole : ι → ρ) (phlSta : ι) (setup : TwtSetupInfo)
    (s : TwtInfo ι ρ) : PhlStatus × Option ℕ × TwtInfo ι ρ :=
  let s := twtDropOld io wrole phlSta setup s
  match rtwPhlTwtAllocTwtConfig io.enable (wrole phlSta) setup.negoType true s with
  | (.success, some id, s) =>
    match rtwPhlTwtAddStaInfo io phlSta id setup.twtFlowId s with
    | (.success, s) => (.success, some id, s)
    | (sts, s) => (sts, none, (rtwPhlTwtFreeTwtConfig io.disableNew id s).2)
  | (sts, _, s) => (sts, none, s)

/-- `rtw_phl_twt_accept_for_sta_mode`; broadcast agreements are not supported. -/
def rtwPhlTwtAcceptForStaMode (io : TwtIo) (wrole : ι → ρ) (phlSta : ι) (setup : TwtSetupInfo)
    (s : TwtInfo ι ρ) : PhlStatus × Option ℕ × TwtInfo ι ρ :=
  if s.sup && s.init then
    if setup.negoType = .indivTwt then twtAcceptIndivBySta io wrole phlSta setup s
    else (.failure, none, s)
  else (.failure, none, s)

def rtwPhlTwtTeardownSta (io : TwtIo) (wrole : ι → ρ) (phlSta : ι) (flow : TwtFlowField)
    (s : TwtInfo ι ρ) : PhlStatus × BitVec 8 × TwtInfo ι ρ :=
  if s.sup && s.init then
    match flow.negoType with
    | .bcastTwt => (.failure, 0, s)
    | _ =>
      twtDeleteStaInfo io wrole phlSta false flow.negoType
        (if flow.teardownAll then deleteAll else flow.id) s
  else (.failure, 0, s)

def twtFreeEmpty (io : TwtIo) (bitmap : BitVec 8) (s : TwtInfo ι ρ) : PhlStatus × TwtInfo ι ρ :=
  (List.range 8).foldl (fun x i =>
    if bitmap.getLsbD i then rtwPhlTwtFreeTwtConfig (io.disable i) i x.2 else x) (.success, s)

def rtwPhlTwtTeardownForStaMode (io : TwtIo) (wrole : ι → ρ) (phlSta : ι) (flow : TwtFlowField)
    (s : TwtInfo ι ρ) : PhlStatus × TwtInfo ι ρ :=
  if s.sup && s.init then
    match rtwPhlTwtTeardownSta io wrole phlSta flow s with
    | (.success, bitmap, s) => if bitmap = 0 then (.success, s) else twtFreeEmpty io bitmap s
    | (sts, _, s) => (sts, s)
  else (.failure, s)

inductive TwtCall (ι : Type*) where
  | accept (phlSta : ι) (setup : TwtSetupInfo) (io : TwtIo)
  | teardown (phlSta : ι) (flow : TwtFlowField) (io : TwtIo)

def twtCall (wrole : ι → ρ) (s : TwtInfo ι ρ) : TwtCall ι → PhlStatus × TwtInfo ι ρ
  | .accept phlSta setup io =>
    let r := rtwPhlTwtAcceptForStaMode io wrole phlSta setup s
    (r.1, r.2.2)
  | .teardown phlSta flow io => rtwPhlTwtTeardownForStaMode io wrole phlSta flow s

def twtStep (wrole : ι → ρ) (s : TwtInfo ι ρ) (e : TwtCall ι) : TwtInfo ι ρ := (twtCall wrole s e).2

def phlTwtInit (sup init : Bool) : TwtInfo ι ρ :=
  ⟨sup, init, fun _ => ⟨.free, none, .indivTwt, 0, []⟩⟩

def ignoreCfgId : UInt8 := 0xFF

/-- What the next wake time of a config depends on; the time has both halves. -/
structure TwtWakeInfo where
  targetWakeTime : UInt64
  twtWakeIntExp : Fin 32
  twtWakeIntMantissa : UInt16

def twtCalcIntvl (w : TwtWakeInfo) : UInt32 :=
  .ofNat (w.twtWakeIntMantissa.toNat * 2 ^ w.twtWakeIntExp.val)

/-- `none` when the division by the interval traps. -/
def TwtWakeInfo.next (w : TwtWakeInfo) (tgt : UInt64) : Option UInt64 :=
  let intvl := (twtCalcIntvl w).toUInt64
  if intvl = 0 then none else some (tgt - (tgt - w.targetWakeTime) % intvl + intvl)

/-- `rtw_phl_twt_get_target_wake_time`, with the TSF if it can be read. -/
def rtwPhlTwtGetTargetWakeTime (twtInfo : ℕ → TwtWakeInfo) (tsf : Option UInt64) (id : UInt8)
    (offset : UInt16) : Option (PhlStatus × Option UInt64) :=
  if s.sup && s.init then
    match tsf with
    | none => some (.failure, none)
    | some cur =>
      let tgt := cur + offset.toUInt64 * 1000
      if id = ignoreCfgId then some (.success, some tgt)
      else if (twtGetConfigById s id.toNat).isNone then some (.failure, none)
      else ((twtInfo id.toNat).next tgt).map fun t => (.success, some t)
  else some (.failure, none)

/-- An element with individual parameters. Enumerations are numbers. -/
structure TwtElement where
  (ndpPagingIndic responderPmMode negoType twtInfoFrameDisable wakeDurUnit : ℕ)
  (twtRequest twtSetupCmd trigger implicit flowType twtFlowId twtWakeIntExp twtProtection : ℕ)
  (targetWakeTL targetWakeTH nomMinTwtWakeDur twtWakeIntMantissa twtChannel : ℕ)

def twtGrouping : ℕ := 3

def minTwtEleLen : ℕ := 15

/-- The new bytes and how many they are. -/
def twtFillIndividualTwtParaSet (e : TwtElement) (buf : ℕ) (mem : ℕ → UInt8) :
    (ℕ → UInt8) × ℕ :=
  let set1 := setBits 1 buf
  let set2 := setBits 2 buf
  let mem := mem |> set1 0 1 e.twtRequest |> set1 1 3 e.twtSetupCmd |> set1 4 1 e.trigger
    |> set1 5 1 e.implicit |> set1 6 1 e.flowType |> set2 7 3 e.twtFlowId
    |> set2 10 5 e.twtWakeIntExp |> set2 15 1 e.twtProtection
  let (mem, length) := if e.twtSetupCmd = twtGrouping then (mem, 2)
    else (mem |> setBits 4 (buf + 2) 0 32 e.targetWakeTL
      |> setBits 4 (buf + 6) 0 32 e.targetWakeTH, 2 + 8)
  (mem |> setBits 1 (buf + length) 0 8 e.nomMinTwtWakeDur
    |> setBits 2 (buf + (length + 1)) 0 16 e.twtWakeIntMantissa
    |> setBits 1 (buf + (length + 3)) 0 8 e.twtChannel, length + 4)

/-- Whether it succeeds, and the same. -/
def rtwPhlTwtFillTwtElement (e : TwtElement) (buf : ℕ) (mem : ℕ → UInt8) :
    Bool × (ℕ → UInt8) × ℕ :=
  let set := setBits 1 buf
  let mem := mem |> set 0 1 e.ndpPagingIndic |> set 1 1 e.responderPmMode |> set 2 2 e.negoType
    |> set 4 1 e.twtInfoFrameDisable |> set 5 1 e.wakeDurUnit
  if e.negoType = 0 then
    let (mem, length) := twtFillIndividualTwtParaSet e (buf + 1) mem
    (true, mem, 1 + length)
  else (false, mem, 1)

def twtParseIndividualTwtPara (mem : ℕ → UInt8) (buf : ℕ) (e : TwtElement) : TwtElement :=
  let get := getBits 2 mem buf
  let e := { e with
    twtRequest := get 0 1
    twtSetupCmd := get 1 3
    trigger := get 4 1
    implicit := get 5 1
    flowType := get 6 1
    twtFlowId := get 7 3
    twtWakeIntExp := get 10 5
    twtProtection := get 15 1 }
  let buf := buf + 2
  let (e, buf) := if e.twtSetupCmd = twtGrouping then (e, buf) else
    ({ e with
      targetWakeTL := getBits 4 mem buf 0 32
      targetWakeTH := getBits 4 mem (buf + 4) 0 32 }, buf + 8)
  { e with
    nomMinTwtWakeDur := getBits 1 mem buf 0 8
    twtWakeIntMantissa := getBits 2 mem (buf + 1) 0 16
    twtChannel := getBits 1 mem (buf + 3) 0 8 }

def rtwPhlTwtParseElement (mem : ℕ → UInt8) (twtEle length : ℕ) (e : TwtElement) :
    Bool × TwtElement :=
  if length < minTwtEleLen + 2 ∨ getBits 1 mem (twtEle + 1) 0 8 < minTwtEleLen then (false, e)
  else
    let get := getBits 1 mem (twtEle + 2)
    let e := { e with
      ndpPagingIndic := get 0 1
      responderPmMode := get 1 1
      negoType := get 2 2
      twtInfoFrameDisable := get 4 1
      wakeDurUnit := get 5 1 }
    if e.negoType = 0 then (true, twtParseIndividualTwtPara mem (twtEle + 3) e) else (false, e)

end Rtl8852be

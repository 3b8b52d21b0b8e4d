import Rtl8852be.Basic
import Rtl8852be.Lib.CntQueue
import Rtl8852be.Lib.Keyed
import Rtl8852be.Lib.Run
import Mathlib.Data.List.FinRange

/-!
# Channel contexts

A role of a hardware band joins the first channel context whose channel its own fits, widening it if
need be, or gets a context of its own.
-/

namespace Rtl8852be

abbrev maxWifiRoleNumber : ℕ := 5

abbrev RoleIdx := Fin maxWifiRoleNumber

inductive BandType where
  | on24g
  | on5g
  | on6g
  | max
  deriving DecidableEq

inductive ChannelWidth where
  | w20
  | w40
  | w80
  | w160
  | w80x80
  | w5
  | w10
  | max
  deriving DecidableEq

def ChannelWidth.toNat : ChannelWidth → ℕ
  | .w20 => 0
  | .w40 => 1
  | .w80 => 2
  | .w160 => 3
  | .w80x80 => 4
  | .w5 => 5
  | .w10 => 6
  | .max => 7

inductive ChanOffset where
  | noExt
  | upper
  | noDef
  | lower
  deriving DecidableEq

inductive MrOpMode where
  | non
  | scc
  | mcc
  deriving DecidableEq

structure ChanDef where
  band : BandType
  chan : ℕ
  bw : ChannelWidth
  offset : ChanOffset
  deriving DecidableEq

structure ChanReq where
  chan : ℕ
  bw : ChannelWidth
  offset : ChanOffset

/-- `struct rtw_chan_ctx`, with `center_ch` beside its channel. A context is known by the number of
its allocation. -/
structure RtwChanCtx where
  addr : ℕ
  chanDef : ChanDef
  centerCh : ℕ
  roleMap : BitVec 8

/-- `struct hw_band_ctl_t` with each role's `chanctx`, and how many contexts were allocated. -/
structure HwBandCtl where
  chanCtxQueue : CntQueue RtwChanCtx
  opMode : MrOpMode
  chanctx : RoleIdx → Option ℕ
  allocs : ℕ

structure ChanCfg where
  mccSup : Bool
  dbccSup : Bool
  /-- `mr_ctl->is_sb` and this is the second band. -/
  sbDenied : Bool

variable (wroleChandef : RoleIdx → ChanDef) (r : RoleIdx) (cfg : ChanCfg) (s : HwBandCtl)
variable (c : RtwChanCtx)

def RtwChanCtx.hasRole (r : RoleIdx) : Bool := c.roleMap.getLsbD r

def RtwChanCtx.rmapSet : RtwChanCtx := { c with roleMap := c.roleMap ||| BitVec.twoPow 8 r }

def RtwChanCtx.rmapClr : RtwChanCtx := { c with roleMap := c.roleMap &&& ~~~ BitVec.twoPow 8 r }

def RtwChanCtx.setChanDef (d : ChanDef) (c : RtwChanCtx) : RtwChanCtx := { c with chanDef := d }

def RtwChanCtx.roles : List RoleIdx := (List.finRange maxWifiRoleNumber).filter c.hasRole

def RtwChanCtx.getRnum : ℕ := c.roles.length

def isChbwGrouped (a : ChanDef) (req : ChanReq) : Bool :=
  if a.chan ≠ req.chan then false
  else if (a.bw = .w40 ∨ a.bw = .w80) ∧ (req.bw = .w40 ∨ req.bw = .w80) then
    a.offset = req.offset
  else true

/-- `_phl_get_offset_by_chbw`: the offset, or nothing when it is left as it is. -/
def getOffsetByChbw (ch : ℕ) (bw : ChannelWidth) (offset : ChanOffset) : Option ChanOffset :=
  if bw = .w20 then some .noExt
  else if ChannelWidth.w80.toNat ≤ bw.toNat ∧ ch ≤ 14 then none
  else if 1 ≤ ch ∧ ch ≤ 4 then some .upper
  else if 5 ≤ ch ∧ ch ≤ 9 then
    some (if offset = .upper ∨ offset = .lower then offset else .lower)
  else if 10 ≤ ch ∧ ch ≤ 13 then some .lower
  else if ch ∈ [36, 44, 52, 60, 100, 108, 116, 124, 132, 140, 149, 157, 165, 173] then some .upper
  else if ch ∈ [40, 48, 56, 64, 104, 112, 120, 128, 136, 144, 153, 161, 169, 177] then some .lower
  else none

def adjustOffset (g : ChanDef) (req : ChanReq) : ChanReq :=
  let offset :=
    if g.bw = .w40 ∨ g.bw = .w80 then g.offset
    else if g.bw = .w20 then (getOffsetByChbw req.chan req.bw req.offset).getD req.offset
    else req.offset
  { req with offset := offset, bw := if offset = .noExt then .w20 else req.bw }

/-- `_phl_adjust_chandef`: the request as it is adjusted to the group, and the group. -/
def adjustChandef (req : ChanReq) (g : ChanDef) : ChanReq × ChanDef :=
  let req := { req with chan := g.chan }
  let req := if req.bw = .w80 ∧ g.chan ≤ 14 then { req with bw := .w40 } else req
  let req := match req.bw with
    | .w80 | .w40 => adjustOffset g req
    | .w20 => { req with offset := .noExt }
    | .w160 | .w80x80 | .w5 | .w10 | .max => req
  (req, if g.bw.toNat < req.bw.toNat then { g with bw := req.bw, offset := req.offset } else g)

namespace HwBandCtl

def modifyCtx (addr : ℕ) (f : RtwChanCtx → RtwChanCtx) (s : HwBandCtl) : HwBandCtl :=
  { s with chanCtxQueue := ⟨Keyed.modify RtwChanCtx.addr addr f s.chanCtxQueue.items,
      s.chanCtxQueue.cnt⟩ }

def setChanctx (addr : Option ℕ) (s : HwBandCtl) : HwBandCtl :=
  { s with chanctx := Function.update s.chanctx r addr }

end HwBandCtl

def rtwPhlGetCenterCh (ch : ℕ) (bw : ChannelWidth) (offset : ChanOffset) : ℕ :=
  match bw with
  | .w160 =>
    if ch % 4 = 0 then
      if 36 ≤ ch ∧ ch ≤ 64 then 50 else if 100 ≤ ch ∧ ch ≤ 128 then 114 else ch
    else if ch % 4 = 1 ∧ 149 ≤ ch ∧ ch ≤ 177 then 163
    else ch
  | .w80 =>
    if ch ≤ 14 then 7
    else if ch % 4 = 0 then
      if 36 ≤ ch ∧ ch ≤ 48 then 42
      else if 52 ≤ ch ∧ ch ≤ 64 then 58
      else if 100 ≤ ch ∧ ch ≤ 112 then 106
      else if 116 ≤ ch ∧ ch ≤ 128 then 122
      else if 132 ≤ ch ∧ ch ≤ 144 then 138
      else ch
    else if ch % 4 = 1 then
      if 149 ≤ ch ∧ ch ≤ 161 then 155 else if 165 ≤ ch ∧ ch ≤ 177 then 171 else ch
    else ch
  | .w40 =>
    if offset = .upper then (ch + 2) % 256
    else if offset = .lower then (ch + 254) % 256
    else ch
  | .w20 | .w10 | .w5 | .w80x80 | .max => ch

def phlChanctxCreate (alloc : Bool) (r : RoleIdx) (band : BandType) (req : ChanReq)
    (s : HwBandCtl) : Bool × HwBandCtl :=
  if !alloc then (false, s)
  else
    let ctx : RtwChanCtx := ⟨s.allocs, ⟨band, req.chan, req.bw, req.offset⟩,
      rtwPhlGetCenterCh req.chan req.bw req.offset, 0⟩
    (true, { s.setChanctx r (some s.allocs) with
      chanCtxQueue := s.chanCtxQueue.pushTail (ctx.rmapSet r)
      allocs := s.allocs + 1 })

def bandOfChan (chan : ℕ) : BandType := if 14 < chan then .on5g else .on24g

def phlChanctxAdd (alloc : Bool) (r : RoleIdx) (req : ChanReq) (s : HwBandCtl) : Bool × ChanReq ×
    HwBandCtl :=
  let band := bandOfChan req.chan
  if s.chanCtxQueue.cnt = 0 then
    let (ok, s) := phlChanctxCreate alloc r band req s
    (ok, req, s)
  else
    match s.chanCtxQueue.items.find? fun c => isChbwGrouped c.chanDef req with
    | some c =>
      let g := (adjustChandef req c.chanDef).2
      (true, ⟨g.chan, g.bw, g.offset⟩,
        (s.modifyCtx c.addr fun c => (c.rmapSet r).setChanDef g).setChanctx r (some c.addr))
    | none =>
      if !cfg.mccSup then (false, req, s)
      else if 2 ≤ s.chanCtxQueue.cnt then (false, req, s)
      else if (s.chanCtxQueue.items.getLast?.map (·.chanDef.band)) ≠ some band ∧ cfg.dbccSup then
        (false, req, s)
      else
        let (ok, s) := phlChanctxCreate alloc r band req s
        (ok, req, s)

def addOpMode : MrOpMode :=
  if s.chanCtxQueue.cnt = 2 then .mcc
  else if s.chanCtxQueue.cnt = 1 then
    match s.chanCtxQueue.items with
    | [] => s.opMode
    | c :: _ => if 2 ≤ c.getRnum then .scc else .non
  else s.opMode

def rtwPhlChanctxAdd (alloc : Bool) (r : RoleIdx) (req : ChanReq) (s : HwBandCtl) : Bool × ChanReq ×
    HwBandCtl :=
  if req.chan = 0 then (false, req, s)
  else if cfg.sbDenied then (false, req, s)
  else
    match phlChanctxAdd cfg alloc r req s with
    | (true, req, s) => (true, req, { s with opMode := addOpMode s })
    | (false, req, s) => (false, req, s)

def chandefSyncLoop (acc : ChanDef) : List ChanDef → Option ChanDef
  | [] => some acc
  | d :: ds =>
    if acc.band ≠ d.band then none
    else if acc.chan ≠ d.chan then none
    else if acc.bw.toNat < d.bw.toNat then
      chandefSyncLoop { acc with bw := d.bw, offset := d.offset } ds
    else if acc.bw = d.bw ∧ acc.offset ≠ d.offset then none
    else chandefSyncLoop acc ds

def phlMrChandefSync : Option ChanDef :=
  match c.roles.map wroleChandef with
  | [] => none
  | d :: ds => chandefSyncLoop d ds

def delFinish (target : RtwChanCtx) (s : HwBandCtl) : Option ChanDef × HwBandCtl :=
  if s.chanCtxQueue.cnt = 0 then (none, { s with opMode := .non })
  else if s.chanCtxQueue.cnt = 1 then
    match s.chanCtxQueue.items with
    | [] => (none, s)
    | c :: _ => (some c.chanDef, { s with opMode := if c.getRnum = 1 then .non else .scc })
  else if s.chanCtxQueue.cnt = 2 then (some target.chanDef, { s with opMode := .mcc })
  else (none, s)

def rtwPhlChanctxDel : ℕ × Option ChanDef × HwBandCtl :=
  match (s.chanctx r).bind (Keyed.get RtwChanCtx.addr s.chanCtxQueue.items) with
  | none => (0, none, s)
  | some c =>
    if s.chanCtxQueue.cnt = 0 ∨ c.getRnum = 0 ∨ 2 < s.chanCtxQueue.cnt then
      (s.chanCtxQueue.cnt, none, s)
    else
      let s' := s.setChanctx r none
      if c.getRnum = 1 then
        let s' := { s' with chanCtxQueue :=
          ⟨Keyed.remove RtwChanCtx.addr c.addr s.chanCtxQueue.items, s.chanCtxQueue.cnt - 1⟩ }
        (s'.chanCtxQueue.cnt, delFinish c s')
      else
        match phlMrChandefSync wroleChandef (c.rmapClr r) with
        | none => (s.chanCtxQueue.cnt, none, s'.modifyCtx c.addr (·.rmapClr r))
        | some d =>
          let s' := s'.modifyCtx c.addr fun c => (c.rmapClr r).setChanDef d
          (s'.chanCtxQueue.cnt, delFinish ((c.rmapClr r).setChanDef d) s')

inductive ChanctxEv where
  | add (r : RoleIdx) (req : ChanReq) (alloc : Bool)
  | del (r : RoleIdx) (wroleChandef : RoleIdx → ChanDef)

def chanctxStep : ChanctxEv → HwBandCtl
  | .add r req alloc => (rtwPhlChanctxAdd cfg alloc r req s).2.2
  | .del r wroleChandef => (rtwPhlChanctxDel wroleChandef r s).2.2

def rtwPhlMrUptChandef : HwBandCtl :=
  match (s.chanctx r).bind (Keyed.get RtwChanCtx.addr s.chanCtxQueue.items) with
  | none => s
  | some c =>
    match phlMrChandefSync wroleChandef c with
    | none => s
    | some d => s.modifyCtx c.addr (·.setChanDef d)

inductive ChandefEv where
  | chanctx (ev : ChanctxEv)
  | upt (r : RoleIdx) (wroleChandef : RoleIdx → ChanDef)

def chandefStep : ChandefEv → HwBandCtl
  | .chanctx ev => chanctxStep cfg s ev
  | .upt r wroleChandef => rtwPhlMrUptChandef wroleChandef r s

def hwBandInit : HwBandCtl := ⟨⟨[], 0⟩, .non, fun _ => none, 0⟩

end Rtl8852be

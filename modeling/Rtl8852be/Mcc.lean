import Rtl8852be.Basic

/-!
# Slots of a multi-channel pattern

Two Wi-Fi roles, and sometimes Bluetooth, share the radio slot by slot. A pattern places the beacon
of the reference role `tob_r` after its slot begins and `toa_r` before it ends, the other role's
beacon likewise. `phl_mcc.c` searches for `tob_r` and computes the rest from it.
-/

namespace Rtl8852be

def toS16 (x : ℤ) : ℤ := x.bmod 65536

def toU16 (x : ℤ) : ℕ := (x % 65536).toNat

@[simp] def earlyRxBcnT : ℤ := 5

@[simp] def minRxBcnT : ℤ := 10

def slotNum : ℕ := 4

structure MccDurLimInfo where
  enable : Bool
  maxTob : ℕ
  maxToa : ℕ

structure MccDurInfo where
  dur : ℕ
  durLimit : MccDurLimInfo

structure MccSlotInfo where
  slot : ℕ
  btRole : Bool
  mrole : Option ℕ
  deriving DecidableEq

/-- `struct rtw_phl_mcc_courtesy`. Its `c_num` is a `bool` like `c_en`. -/
structure MccCourtesy where
  cEn : Bool
  cNum : Bool
  srcRole : Option ℕ
  tgtRole : Option ℕ
  deriving DecidableEq

/-- `struct rtw_phl_mcc_pattern`. The slots filled so far are a list; `slot_num` is its length. -/
structure MccPattern where
  roleRef : ℕ
  roleAno : ℕ
  tobR : ℤ
  toaR : ℤ
  tobA : ℤ
  toaA : ℤ
  courtesyI : MccCourtesy
  slotOrder : List MccSlotInfo
  deriving DecidableEq

def mccPatternReset (roleRef roleAno : ℕ) : MccPattern :=
  ⟨roleRef, roleAno, 0, 0, 0, 0, ⟨false, false, none, none⟩, []⟩

def mccFillSlotInfo (btRole : Bool) (dur : ℕ) (mrole : Option ℕ) (m : MccPattern) : MccPattern :=
  if slotNum ≤ m.slotOrder.length then m
  else { m with slotOrder := m.slotOrder ++ [⟨dur, btRole, if btRole then none else mrole⟩] }

/-- What the limits of the reference slot say about a candidate. -/
inductive MccLimit where
  | use
  | next
  | leave

/-- A `tob_r` beyond its limit ends the search of the two patterns with a Bluetooth slot, and only
the candidate in the pattern without one. -/
def mccRefLimit (btSlot : Bool) (lim : MccDurLimInfo) (tobR toaR : ℤ) : MccLimit :=
  if lim.enable then
    if toS16 lim.maxTob < tobR then if btSlot then .leave else .next
    else if toS16 lim.maxToa < toaR then .next
    else .use
  else .use

@[simp] def mccSum (tobR toaR tobA toaA : ℤ) : ℤ :=
  (tobR - toaR) * (tobR - toaR) + (tobR - tobA) * (tobR - tobA) + (tobR - toaA) * (tobR - toaA)
    + (toaR - tobA) * (toaR - tobA) + (toaR - toaA) * (toaR - toaA)
    + (tobA - toaA) * (tobA - toaA)

/-- The loop over `tob_r`, with the passes left and the candidate so far, 0 if there is none. -/
def mccSearchLoop (btSlot : Bool) (gap dR dA bcnsOffset : ℤ) (ref ano : MccDurLimInfo) :
    ℕ → ℤ → ℤ → ℤ → ℤ
  | 0, _, _, tobRCand => tobRCand
  | left + 1, tobR, sumLast, tobRCand =>
    let toaR := toS16 (dR - tobR)
    if toaR < minRxBcnT then tobRCand
    else
      match mccRefLimit btSlot ref tobR toaR with
      | .leave => tobRCand
      | .next => mccSearchLoop btSlot gap dR dA bcnsOffset ref ano left (tobR + 1) sumLast tobRCand
      | .use =>
        let tobA := toS16 (bcnsOffset - toaR - gap)
        if tobA < earlyRxBcnT then
          mccSearchLoop btSlot gap dR dA bcnsOffset ref ano left (tobR + 1) sumLast tobRCand
        else
          let toaA := toS16 (dA - tobA)
          if toaA < minRxBcnT then tobRCand
          else if ano.enable ∧ (toS16 ano.maxTob < tobA ∨ toS16 ano.maxToa < toaA) then
            mccSearchLoop btSlot gap dR dA bcnsOffset ref ano left (tobR + 1) sumLast tobRCand
          else
            let sum := toS16 (mccSum tobR toaR tobA toaA)
            if sumLast ≠ 0 ∧ sumLast < sum then tobR
            else mccSearchLoop btSlot gap dR dA bcnsOffset ref ano left (tobR + 1) sum tobR

def mccSearch (btSlot : Bool) (gap : ℤ) (ref ano : MccDurInfo) (offset : ℕ) : ℤ :=
  mccSearchLoop btSlot gap (toS16 ref.dur) (toS16 ano.dur) (toS16 offset) ref.durLimit ano.durLimit
    (toU16 (ref.dur + ano.dur) - earlyRxBcnT.toNat) earlyRxBcnT 0 0

variable (ref ano : MccDurInfo)

def mccSetPattern (offset : ℕ) (tobR : ℤ) (m : MccPattern) : MccPattern :=
  let toaR := toS16 (toS16 ref.dur - tobR)
  let tobA := toS16 (toS16 offset - toaR)
  let toaA := toS16 (toS16 ano.dur - tobA)
  { m with tobR := tobR, toaR := toaR, tobA := tobA, toaA := toaA }

def mccFillRef (ref : MccDurInfo) (m : MccPattern) : MccPattern :=
  mccFillSlotInfo false ref.dur (some m.roleRef) m

def mccFillAno (ano : MccDurInfo) (m : MccPattern) : MccPattern :=
  mccFillSlotInfo false ano.dur (some m.roleAno) m

def mccFillBt (btDur : ℤ) (m : MccPattern) : MccPattern := mccFillSlotInfo true (toU16 btDur) none m

def mccCalculate2wslot1btslotPattern2 (offset : ℕ) (btDur : ℤ) (m : MccPattern) : PhlStatus ×
    MccPattern :=
  let tobRCand := mccSearch true btDur ref ano offset
  if tobRCand = 0 then (.failure, m)
  else
    (.success,
      mccFillAno ano (mccFillBt btDur (mccFillRef ref (mccSetPattern ref ano offset tobRCand m))))

def mccCalculate2wslot1btslotPattern1 (offset : ℕ) (btDur : ℤ) (m : MccPattern) : PhlStatus ×
    MccPattern :=
  let tobRCand := mccSearch true 0 ref ano offset
  if tobRCand = 0 then (.failure, m)
  else
    (.success,
      mccFillBt btDur (mccFillAno ano (mccFillRef ref (mccSetPattern ref ano offset tobRCand m))))

def mccNegoSplit (d : MccDurInfo) : Option (ℤ × ℤ) :=
  let tob := toS16 (d.dur / 2)
  let toa := toS16 (d.dur - tob)
  let s := if (d.durLimit.maxTob : ℤ) < tob then
      (toS16 d.durLimit.maxTob, toS16 (d.dur - toS16 d.durLimit.maxTob))
    else (tob, toa)
  let s := if (d.durLimit.maxToa : ℤ) < s.2 then
      (toS16 (d.dur - toS16 d.durLimit.maxToa), toS16 d.durLimit.maxToa)
    else s
  if (d.durLimit.maxTob : ℤ) < s.1 ∨ (d.durLimit.maxToa : ℤ) < s.2 then none else some s

def mccSetCourtesy (srcRole tgtRole : ℕ) (m : MccPattern) : MccPattern :=
  { m with courtesyI := ⟨true, true, some srcRole, some tgtRole⟩ }

/-- With limits on one slot only, that slot decides and the other follows from the beacons'
distance. -/
def mccCalc2WroleNegoPattern (offset : ℤ) (m : MccPattern) : Option MccPattern :=
  match ref.durLimit.enable, ano.durLimit.enable with
  | false, false | true, true => none
  | true, false =>
    (mccNegoSplit ref).map fun (tobR, toaR) =>
      let tobA := toS16 (offset - toaR)
      let toaA := toS16 (ano.dur - tobA)
      let m := if tobA ≤ 0 ∨ toaA ≤ 0 then mccSetCourtesy m.roleRef m.roleAno m else m
      mccFillAno ano
        (mccFillRef ref { m with tobR := tobR, toaR := toaR, tobA := tobA, toaA := toaA })
  | false, true =>
    (mccNegoSplit ano).map fun (tobA, toaA) =>
      let toaR := toS16 (offset - tobA)
      let tobR := toS16 (ref.dur - toaR)
      let m := if toaR ≤ 0 ∨ tobR ≤ 0 then mccSetCourtesy m.roleAno m.roleRef m else m
      mccFillAno ano
        (mccFillRef ref { m with tobR := tobR, toaR := toaR, tobA := tobA, toaA := toaA })

def mccCalculate2WrolePattern (offset : ℕ) (m : MccPattern) : PhlStatus × MccPattern :=
  let tobRCand := mccSearch false 0 ref ano offset
  if tobRCand = 0 then
    match mccCalc2WroleNegoPattern ref ano (toS16 offset) m with
    | none => (.failure, m)
    | some m => (.success, m)
  else (.success, mccFillAno ano (mccFillRef ref (mccSetPattern ref ano offset tobRCand m)))

inductive MccCalc where
  | wrole2
  | pattern1
  | pattern2
  deriving DecidableEq

def MccCalc.cand (offset : ℕ) (btDur : ℤ) : MccCalc → ℤ
  | .wrole2 => mccSearch false 0 ref ano offset
  | .pattern1 => mccSearch true 0 ref ano offset
  | .pattern2 => mccSearch true btDur ref ano offset

@[simp]
def MccCalc.calculate (offset : ℕ) (btDur : ℤ) (m : MccPattern) : MccCalc → PhlStatus × MccPattern
  | .wrole2 => mccCalculate2WrolePattern ref ano offset m
  | .pattern1 => mccCalculate2wslot1btslotPattern1 ref ano offset btDur m
  | .pattern2 => mccCalculate2wslot1btslotPattern2 ref ano offset btDur m

end Rtl8852be

import Rtl8852be.Mcc

/-!
# Two clients, and the offsets that have a pattern

The search for two clients takes the pattern from one step before the place where the loop was left.
When the beacons lie too close for one interval, it is made over two. Which offsets can be laid out
is computed beforehand.
-/

namespace Rtl8852be

def handleBcnIntvl : ℤ := 100

def mccExitLoop (gap dR dA bcnsOffset : ℤ) : ℕ → ℤ → ℤ → ℤ
  | 0, tobR, _ => tobR
  | left + 1, tobR, sumLast =>
    let toaR := toS16 (dR - tobR)
    if toaR < minRxBcnT then tobR
    else
      let tobA := toS16 (bcnsOffset - toaR - gap)
      if tobA < earlyRxBcnT then mccExitLoop gap dR dA bcnsOffset left (tobR + 1) sumLast
      else
        let toaA := toS16 (dA - tobA)
        if toaA < minRxBcnT then tobR
        else
          let sum := toS16 (mccSum tobR toaR tobA toaA)
          if sumLast ≠ 0 ∧ sumLast < sum then tobR
          else mccExitLoop gap dR dA bcnsOffset left (tobR + 1) sum

def toU8 (x : ℤ) : ℤ := x % 256

def mccClientsPattern (gap : ℤ) (refDur anoDur : ℕ) (bcnsOffset : ℤ) (m : MccPattern) :
    MccPattern :=
  let dR := toS16 refDur
  let dA := toS16 anoDur
  let tobR := mccExitLoop gap dR dA bcnsOffset (toU16 (refDur + anoDur) - earlyRxBcnT.toNat)
    earlyRxBcnT 0 - 1
  let toaR := toS16 (dR - tobR)
  let tobA := toS16 (bcnsOffset - toaR - gap)
  let toaA := toS16 (dA - tobA)
  let m := { m with tobR := toU8 tobR, toaR := toU8 toaR, tobA := toU8 tobA, toaA := toU8 toaA }
  mccFillSlotInfo false anoDur (some m.roleAno) (mccFillSlotInfo false refDur (some m.roleRef) m)

def mccCalculate2ClientsPattern (refDur anoDur offset : ℕ) (m : MccPattern) : MccPattern :=
  mccClientsPattern 0 refDur anoDur (toS16 offset) m

def mccGetOffsetFor2ClientsWorsecase (refDur anoDur : ℤ) (refBcnIntvl : ℕ) (toaRef tobAno : ℤ) :
    ℤ :=
  toS16 (toaRef + tobAno + refDur + anoDur - 2 * refBcnIntvl)

def mccGetOffsetRangeFor2ClientsWorsecase (refDur anoDur : ℤ) (refBcnIntvl : ℕ) : ℤ × ℤ :=
  let offset := mccGetOffsetFor2ClientsWorsecase refDur anoDur refBcnIntvl
  let min1 := offset minRxBcnT earlyRxBcnT
  let max1 := offset minRxBcnT (toS16 (anoDur - minRxBcnT))
  let min2 := offset (toS16 (refDur - earlyRxBcnT)) earlyRxBcnT
  let max2 := offset (toS16 (refDur - earlyRxBcnT)) (toS16 (anoDur - minRxBcnT))
  (if min1 < min2 then min1 else min2, if max2 < max1 then max1 else max2)

/-- The offset of the search. The second test has `offset_min` where the offset is meant. -/
def mccWorsecaseOffset (range : ℤ × ℤ) (refBcnIntvl : ℕ) (bcnsOffset : ℤ) : Option ℤ :=
  if range.1 ≤ bcnsOffset ∧ bcnsOffset ≤ range.2 then some bcnsOffset
  else
    let bcnsOffset := toS16 (refBcnIntvl - bcnsOffset)
    if range.1 ≤ bcnsOffset ∧ range.1 ≤ range.2 then some bcnsOffset else none

/-- `_mcc_calc_2_clients_worsecase_pattern`, with whether `calc_fail` is set. -/
def mccCalc2ClientsWorsecasePattern (refDur anoDur offset refBcnIntvl : ℕ) (m : MccPattern) :
    PhlStatus × MccPattern × Bool :=
  if (refBcnIntvl : ℤ) ≠ handleBcnIntvl then (.failure, m, true)
  else
    let range := mccGetOffsetRangeFor2ClientsWorsecase (toS16 refDur) (toS16 anoDur) refBcnIntvl
    match mccWorsecaseOffset range refBcnIntvl (toS16 offset) with
    | none => (.failure, m, true)
    | some bcnsOffset =>
      let gap := (toU16 (refDur + anoDur) : ℤ) - 2 * refBcnIntvl
      (.success, mccClientsPattern gap refDur anoDur bcnsOffset m, false)

def mccGetOffsetFor2Wslot1BtslotP1 (durR tobR tobA : ℤ) : ℤ := toS16 (durR - tobR + tobA)

def mccGetOffsetFor2Wslot1BtslotP2 (durR btDur tobR tobA : ℤ) : ℤ :=
  toS16 (durR - tobR + btDur + tobA)

def mccGetOffsetRangeFor2wslot1btslotP1 (refDur anoDur : ℤ) : ℤ × ℤ :=
  let offset := mccGetOffsetFor2Wslot1BtslotP1 refDur
  let bcnMin := offset earlyRxBcnT earlyRxBcnT
  let bcnMax := offset earlyRxBcnT (toS16 (anoDur - minRxBcnT))
  let min1 := offset (toS16 (refDur - minRxBcnT)) earlyRxBcnT
  let max1 := offset (toS16 (refDur - minRxBcnT)) (toS16 (anoDur - minRxBcnT))
  (if min1 < bcnMin then min1 else bcnMin, if bcnMax < max1 then max1 else bcnMax)

/-- The last corner is stored in `min1`, where the third one was, and `max1` keeps its 0. -/
def mccGetOffsetRangeFor2wslot1btslotP2 (refDur anoDur btDur : ℤ) : ℤ × ℤ :=
  let offset := mccGetOffsetFor2Wslot1BtslotP2 refDur btDur
  let bcnMin := offset earlyRxBcnT earlyRxBcnT
  let bcnMax := offset earlyRxBcnT (toS16 (anoDur - minRxBcnT))
  let max1 := 0
  let min1 := offset (toS16 (refDur - minRxBcnT)) (toS16 (anoDur - minRxBcnT))
  (if min1 < bcnMin then min1 else bcnMin, if bcnMax < max1 then max1 else bcnMax)

def mccCalc2wslot1btslotNego (gap : ℤ) (ref ano : MccDurInfo) (offset : ℤ) (m : MccPattern) :
    Option MccPattern :=
  let fromRef (s : ℤ × ℤ) : MccPattern :=
    let tobA := toS16 (offset - s.2 - gap)
    let toaA := toS16 (ano.dur - tobA)
    let m := if tobA ≤ 0 ∨ toaA ≤ 0 then mccSetCourtesy m.roleRef m.roleAno m else m
    { m with tobR := s.1, toaR := s.2, tobA := tobA, toaA := toaA }
  let fromAno (s : ℤ × ℤ) : MccPattern :=
    let toaR := toS16 (offset - s.1 - gap)
    let tobR := toS16 (ref.dur - toaR)
    let m := if toaR ≤ 0 ∨ tobR ≤ 0 then mccSetCourtesy m.roleAno m.roleRef m else m
    { m with tobR := tobR, toaR := toaR, tobA := s.1, toaA := s.2 }
  match ref.durLimit.enable, ano.durLimit.enable with
  | true, true => none
  | true, false => (mccNegoSplit ref).map fromRef
  | false, true => (mccNegoSplit ano).map fromAno
  | false, false =>
    let tobR := toS16 (ref.dur / 2)
    some (fromRef (tobR, toS16 (ref.dur - tobR)))

variable (ref ano : MccDurInfo)

def mccCalc2wslot1btslotNegoP1 (offset btDur : ℤ) (m : MccPattern) : Option MccPattern :=
  (mccCalc2wslot1btslotNego 0 ref ano offset m).map fun m =>
    mccFillBt btDur (mccFillAno ano (mccFillRef ref m))

/-- `_mcc_calc_2wslot_1btslot_nego_p2`. Its slot comes before its offset. -/
def mccCalc2wslot1btslotNegoP2 (btDur offset : ℤ) (m : MccPattern) : Option MccPattern :=
  (mccCalc2wslot1btslotNego btDur ref ano offset m).map fun m =>
    mccFillAno ano (mccFillBt btDur (mccFillRef ref m))

def mccCalcNegoPattern (offset btDur : ℤ) (m : MccPattern) : PhlStatus × MccPattern :=
  match mccCalc2wslot1btslotNegoP1 ref ano offset btDur m with
  | some m => (.success, m)
  | none =>
    match mccCalc2wslot1btslotNegoP2 ref ano offset btDur m with
    | some m => (.success, m)
    | none => (.failure, m)

/-- `_mcc_calculate_2wslot_1btslot_pattern`, with the offset that the pattern holds. -/
def mccCalculate2wslot1btslotPattern (offset : ℕ) (btDur : ℤ) (m : MccPattern) : PhlStatus ×
    MccPattern :=
  let p1 := mccGetOffsetRangeFor2wslot1btslotP1 (toS16 ref.dur) (toS16 ano.dur)
  let p2 := mccGetOffsetRangeFor2wslot1btslotP2 (toS16 ref.dur) (toS16 ano.dur) btDur
  let c := if p1.1 ≤ offset ∧ offset ≤ p1.2 then
      mccCalculate2wslot1btslotPattern1 ref ano offset btDur m
    else if p2.1 ≤ offset ∧ offset ≤ p2.2 then
      mccCalculate2wslot1btslotPattern2 ref ano offset btDur m
    else (.failure, m)
  if c.1 = .success then c else mccCalcNegoPattern ref ano (toS16 offset) btDur m

end Rtl8852be

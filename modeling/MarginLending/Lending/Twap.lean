import MarginLending.Lending.Interest

/-! Time-weighted averages.

`weightedAverage p₁ p₂ w₁ w₂` is `(p₁ w₁ + p₂ w₂) / (w₁ + w₂)`, truncated, then moved by one
toward the weighted second point when its weight exceeds one; this offsets the drift of
truncation. A TWAP update weighs the new price by the time since the last update and the old
TWAP by what is left of the period (at least one). A rolling sum decays the old sum by the share
of the period that has passed.

A market keeps daily TWAPs of its deposit and borrow token amounts and of its utilization.
-/

set_option autoImplicit false

namespace MarginLending.Lending

open Arith Snapshot Data

def marketTwapWindow : Int := 86400

/-- The weighted average of two `i64` points. A zero weight returns the other point; otherwise the
average is nudged by one toward the second point when its weight exceeds one. -/
def weightedAverage (p₁ p₂ w₁ w₂ : Value) : Except Failure Int := do
  let denominator ← cast (← checkedData IntType.i64 .add w₁ w₂) IntType.i128
  let previous ← checkedData IntType.i128 .mul p₁ w₁
  let weighted ← checkedData IntType.i128 .mul p₂ w₂
  if w₁.equals (.int 0) then return ← castData p₂ IntType.i64
  if w₂.equals (.int 0) then return ← castData p₁ IntType.i64
  let nudge : Int ←
    if ← Value.compareBy .gt w₂ (.int 1) then
      pure (if weighted < previous then -1 else if previous < weighted then 1 else 0)
    else pure 0
  let average ← cast
    (← checkedOp IntType.i128 .div (← checkedOp IntType.i128 .add previous weighted) denominator)
    IntType.i64
  checkedOp IntType.i64 .add average nudge

/-- The TWAP after a new price: the new price weighs the time since the last update, the old
TWAP what is left of the period. -/
def twap (price now lastTwap lastTs period : Value) : Except Failure Int := do
  let backward := max 0 (← checkedData IntType.i64 .sub now lastTs)
  let forward := max 1 (← checkedData IntType.i64 .sub period (.int backward))
  weightedAverage price lastTwap (.int backward) (.int forward)

def rollingSum (p₁ p₂ num den : Value) : Except Failure Int := do
  let decay := max 0 (← checkedData IntType.i64 .sub den num)
  let carried ← checkedOp IntType.u128 .div (← checkedData IntType.u128 .mul p₁ (.int decay))
    (← castData den IntType.u128)
  checkedData IntType.u64 .add (.int (← cast carried IntType.u64)) p₂

end MarginLending.Lending

namespace MarginLending.Market

open Arith Lending Data

def statTwap (m : Market) (now : Value) (current last : Int) : Except Failure Int := do
  let c ← cast current IntType.i64
  let l ← cast last IntType.i64
  cast (← twap (.int c) now (.int l) (.int m.lastTwapTs) (.int marketTwapWindow)) IntType.u128

/-- The market with its deposit, borrow and utilization TWAPs moved to `now`; the TWAP time
becomes the later of `now` and the old one. -/
def updateTwapStats (m : Market) (now : Value) : Except Failure Market := do
  let (deposits, borrows) ← m.tokenAmounts
  let u ← Lending.utilization (.int deposits) (.int borrows)
  let dt ← m.statTwap now deposits m.tokenDepositTwap
  let bt ← m.statTwap now borrows m.tokenBorrowTwap
  let ut ← m.statTwap now u m.utilizationTwap
  let ts ← castData (← Value.largerOf now (.int m.lastTwapTs)) IntType.u64
  pure { m with
    tokenDepositTwap := dt
    tokenBorrowTwap := bt
    utilizationTwap := ut
    lastTwapTs := ts }

end MarginLending.Market

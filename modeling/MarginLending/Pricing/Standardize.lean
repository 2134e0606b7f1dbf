import MarginLending.Arith.Operand
import MarginLending.Data.Dynamic

/-! Rounding prices to ticks and sizes to steps.

A long order's price rounds down to a multiple of the tick, so a buyer never overpays; a short
order's price rounds up, so a seller is never short-changed; a two-way price that is off the grid
moves up by a whole tick. A price of zero means no limit and is left alone, before the tick is
looked at. The remainder is Euclidean, so a negative `i64` price also rounds toward negative
infinity when long. Sizes round down, or up, to a multiple of the order step.
-/

set_option autoImplicit false

namespace MarginLending

open Arith Data

inductive Direction where
  | long
  | short
  | twoWay
  deriving DecidableEq, Repr

namespace Direction

def names : List (String × Direction) := [("long", long), ("short", short), ("two_way", twoWay)]

def name : Direction → String
  | long => "long"
  | short => "short"
  | twoWay => "two_way"

/-- The direction that closes a position: long and short swap, two-way stays. -/
def opposite : Direction → Direction
  | long => short
  | short => long
  | twoWay => twoWay

@[simp] theorem opposite_opposite (d : Direction) : d.opposite.opposite = d := by cases d <;> rfl

end Direction

namespace Pricing

def standardizeIn (t : IntType) (price tick : Int) (d : Direction) : Except Failure Int := do
  if price = 0 then return 0
  let remainder ← checkedOp t .remEuclid price tick
  if remainder = 0 then return price
  match d with
  | .long => checkedOp t .sub price remainder
  | .short => checkedOp t .add price (← checkedOp t .sub tick remainder)
  | .twoWay => checkedOp t .add price tick

/-- A price and tick given as data, rounded in the type `t`: a price equal to zero is zero
whatever the tick; otherwise both are read as operands, the price first. -/
def standardizeData (t : IntType) (price tick : Value) (d : Direction) : Except Failure Int := do
  if price.equals (.int 0) then return 0
  let p ← price.operand
  let q ← tick.operand
  standardizeIn t p q d

def standardizePrice (price tick : Value) (d : Direction) : Except Failure Int :=
  standardizeData IntType.u64 price tick d

def standardizeSignedPrice (price tick : Value) (d : Direction) : Except Failure Int :=
  standardizeData IntType.i64 price tick d

def standardizeSize (size step : Int) : Except Failure Int := do
  let remainder ← checkedOp IntType.u64 .remEuclid size step
  checkedOp IntType.u64 .sub size remainder

def standardizeSizeUp (size step : Int) : Except Failure Int := do
  let remainder ← checkedOp IntType.u64 .remEuclid size step
  if remainder = 0 then return size
  checkedOp IntType.u64 .sub (← checkedOp IntType.u64 .add size step) remainder

def isMultiple (size step : Int) : Except Failure Bool := do
  pure ((← checkedOp IntType.u64 .remEuclid size step) = 0)

end Pricing

end MarginLending

import MarginLending.Snapshot.Market
import MarginLending.Arith.Operand

/-! Scaled balances, token amounts and their value.

A balance is stored scaled, independent of the interest accrued since it was opened:

  `token amount = scaled balance · cumulative interest / 10^(19 - decimals)`

and a token amount is worth `token amount · price / 10^decimals` in quote units. Deposits round
down and borrows round up, so the rounding always favours the protocol; borrows count negative
when signed. A negative value is divided toward negative infinity, a non-negative one toward zero.
-/

set_option autoImplicit false

namespace MarginLending.Lending

open Arith Snapshot Data

def balanceScaleExponent : Int := 19

/-- `10^(19 - decimals)`, the factor between a token amount and a scaled balance. The exponent
is a `u32` difference, whose right operand is the datum `decimals`, and the power a `u128`. -/
def precisionIncrease (decimals : Value) : Except Failure Int := do
  let e ← checkedData IntType.u32 .sub (.int balanceScaleExponent) decimals
  checkedOp IntType.u128 .pow 10 e

def tokenPrecision (decimals : Value) : Except Failure Int :=
  checkedData IntType.i128 .pow (.int 10) decimals

/-- The scaled balance for a token amount: `amount · 10^(19 - decimals) / cumulative interest`,
truncated, then one more when `roundUp` is true and the result is not zero. The precision is
computed before the amount is read. -/
def scaledBalance (amount : Value) (m : Market) (kind : BalanceKind) (roundUp : Value) :
    Except Failure Int := do
  let increase ← precisionIncrease (.int m.decimals)
  let balance ← checkedOp IntType.u128 .div
    (← checkedData IntType.u128 .mul amount (.int increase)) (m.cumulativeInterest kind)
  if roundUp.truthy ∧ balance ≠ 0 then checkedOp IntType.u128 .add balance 1 else pure balance

/-- The token amount of a scaled balance: deposits truncate, borrows round up. -/
def tokenAmount (balance : Value) (m : Market) (kind : BalanceKind) : Except Failure Int := do
  let decrease ← precisionIncrease (.int m.decimals)
  let scaled ← checkedData IntType.u128 .mul balance (.int (m.cumulativeInterest kind))
  match kind with
  | .deposits => checkedOp IntType.u128 .div scaled decrease
  | .borrows => checkedOp IntType.u128 .ceilDiv scaled decrease

def signedAmount (amount : Value) (kind : BalanceKind) : Except Failure Int := do
  let a ← castData amount IntType.i128
  pure (match kind with
    | .deposits => a
    | .borrows => -a)

def valueAt (amount decimals price : Value) : Except Failure Int := do
  let value ← checkedData IntType.i128 .mul amount price
  let precision ← tokenPrecision decimals
  if value < 0 then checkedOp IntType.i128 .floorDiv value precision
  else checkedOp IntType.i128 .div value precision

/-- The value of a signed amount at the oracle price; the price is not checked, and a zero
amount is worth zero whatever the other data. -/
def tokenValue (amount decimals price : Value) : Except Failure Int :=
  if amount.equals (.int 0) then .ok 0 else valueAt amount decimals price

/-- The conservative value of a signed amount: a long amount at the lower of price and TWAP, a
short one at the higher. Both must be positive when the amount is not zero; the TWAP is
compared first. -/
def strictValue (amount decimals : Value) (reading : Reading) (twap : Value) :
    Except Failure Int := do
  if amount.equals (.int 0) then return 0
  if (← Value.compareBy .le twap (.int 0)) || decide (reading.price ≤ 0) then
    throw (.strictPrice reading.price twap.shown)
  let price ← if ← Value.compareBy .gt amount (.int 0) then Value.smallerOf (.int reading.price) twap
    else Value.largerOf (.int reading.price) twap
  valueAt amount decimals price

end MarginLending.Lending

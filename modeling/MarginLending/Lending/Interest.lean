import MarginLending.Lending.Balance

/-! Utilization and interest.

The utilization of a pool is `borrows · 10^6 / deposits`; an empty pool is 0% used, and a pool
with borrows but no deposits is 100% used. The borrow rate is a two-segment curve in the
utilization with its kink at the optimal utilization:

  `u ≤ kink: rate = u · (optimal rate · P / kink) / P`
  `u > kink: rate = optimal rate + (u - kink) · ((max rate - optimal rate) · P / (P - kink)) / P`

Accrual over `elapsed` seconds raises the borrow multiplier by
`cumulative borrow · rate · elapsed / year / P + 1` and the deposit multiplier by
`cumulative deposit · (rate · elapsed · u / P) / year / P`; the extra unit on borrows favours the
protocol. Nothing accrues at zero utilization.
-/

set_option autoImplicit false

namespace MarginLending.Lending

open Arith Snapshot Data

def secondsPerYear : Int := 31536000

/-- The utilization of deposits by borrows. The product `borrows · 10^6` is checked before the
deposits are looked at; zero deposits give zero or full utilization. -/
def utilization (deposits borrows : Value) : Except Failure Int := do
  let numerator ← checkedData IntType.u128 .mul borrows (.int utilizationPrecision)
  if deposits.equals (.int 0) then
    pure (if borrows.equals (.int 0) then 0 else utilizationPrecision)
  else checkedData IntType.u128 .div (.int numerator) deposits

structure Accrual where
  deposits : Int
  borrows : Int
  deriving DecidableEq, Repr

end MarginLending.Lending

namespace MarginLending.Market

open Arith Lending Data

def tokenAmounts (m : Market) : Except Failure (Int × Int) := do
  let deposits ← tokenAmount (.int m.depositBalance) m .deposits
  let borrows ← tokenAmount (.int m.borrowBalance) m .borrows
  pure (deposits, borrows)

def utilization (m : Market) : Except Failure Int := do
  let (deposits, borrows) ← m.tokenAmounts
  Lending.utilization (.int deposits) (.int borrows)

/-- The annual borrow rate at a utilization given as data. Up to the kink the rate rises along
the optimal slope; beyond it, along the steeper slope to the maximal rate. -/
def borrowRate (m : Market) (u : Value) : Except Failure Int := do
  let t := IntType.u128
  if ← Value.compareBy .gt u (.int m.optimalUtilization) then
    let surplus ← checkedData t .sub u (.int m.optimalUtilization)
    let slope ← checkedOp t .div
      (← checkedOp t .mul (← checkedOp t .sub m.maxBorrowRate m.optimalBorrowRate)
        utilizationPrecision)
      (← checkedOp t .sub utilizationPrecision m.optimalUtilization)
    checkedOp t .add m.optimalBorrowRate
      (← checkedOp t .div (← checkedOp t .mul surplus slope) utilizationPrecision)
  else
    let slope ← checkedOp t .div (← checkedOp t .mul m.optimalBorrowRate utilizationPrecision)
      m.optimalUtilization
    checkedOp t .div (← checkedData t .mul u (.int slope)) utilizationPrecision

def depositRate (m : Market) (u : Value) : Except Failure Int := do
  let rate ← m.borrowRate u
  checkedOp IntType.u128 .div (← checkedData IntType.u128 .mul (.int rate) u) utilizationPrecision

/-- The seconds since the last accrual. `now` must be an index within `u64`, and the last
accrual time an operand not after it. -/
def elapsedSince (m : Market) (now : Value) : Except Failure Int := do
  let n ← now.index
  if ¬ IntType.u64.Contains n then throw (.timestamp n)
  checkedData IntType.u64 .sub (.int n) m.lastInterestTs

def accrualAt (m : Market) (u rate : Int) (now : Value) : Except Failure Accrual := do
  let t := IntType.u128
  let elapsed ← m.elapsedSince now
  let periodBorrow ← checkedOp t .mul rate elapsed
  let periodDeposit ← checkedOp t .div (← checkedOp t .mul periodBorrow u) utilizationPrecision
  let borrows ← checkedOp t .add
    (← checkedOp t .div
      (← checkedOp t .div (← checkedOp t .mul m.cumulativeBorrowInterest periodBorrow)
        secondsPerYear) utilizationPrecision) 1
  let deposits ← checkedOp t .div
    (← checkedOp t .div (← checkedOp t .mul m.cumulativeDepositInterest periodDeposit)
      secondsPerYear) utilizationPrecision
  pure ⟨deposits, borrows⟩

/-- The interest a market accrues from its last accrual to `now`. At zero utilization nothing
accrues and `now` is not looked at. -/
def accruedInterest (m : Market) (now : Value) : Except Failure Accrual := do
  let u ← m.utilization
  if u = 0 then return ⟨0, 0⟩
  let rate ← m.borrowRate (.int u)
  m.accrualAt u rate now

/-- The market with its interest accrued to `now`, which becomes its last accrual time as it was
given. When no time has passed it is unchanged. -/
def accrue (m : Market) (now : Value) : Except Failure Market := do
  let elapsed ← m.elapsedSince now
  if elapsed = 0 then return m
  let a ← m.accruedInterest now
  let deposit ← checkedOp IntType.u128 .add m.cumulativeDepositInterest a.deposits
  let borrow ← checkedOp IntType.u128 .add m.cumulativeBorrowInterest a.borrows
  pure { m with
    cumulativeDepositInterest := deposit
    cumulativeBorrowInterest := borrow
    lastInterestTs := now }

def interestTokens (m : Market) (balance interest : Value) : Except Failure Int := do
  let product ← checkedData IntType.u128 .mul balance interest
  checkedOp IntType.u128 .div product (← precisionIncrease (.int m.decimals))

/-- A deposit (or a borrow) of `amount` tokens: the scaled amount it adds to its side, and the
market with that side's balance raised by it. -/
def deposit (m : Market) (amount : Value) (kind : BalanceKind) (roundUp : Value) :
    Except Failure (Int × Market) := do
  let delta ← scaledBalance amount m kind roundUp
  match kind with
  | .deposits =>
    let balance ← checkedOp IntType.u128 .add m.depositBalance delta
    pure (delta, { m with depositBalance := balance })
  | .borrows =>
    let balance ← checkedOp IntType.u128 .add m.borrowBalance delta
    pure (delta, { m with borrowBalance := balance })

end MarginLending.Market

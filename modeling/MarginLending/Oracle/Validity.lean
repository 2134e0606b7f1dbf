import MarginLending.Snapshot.Oracle
import MarginLending.Arith.Operand
import MarginLending.Snapshot.GuardRails

/-! The validity of an oracle reading.

A reading is classified against the last oracle TWAP and the validity rails. Five checks run
first, all of them, since two of them are checked arithmetic whose failure ends the
classification: a price that is not positive; a price too far from the TWAP, as the ratio of the
larger to the smaller (at least 1); a confidence interval too wide, as a share of the price; a
delay past the staleness limit; too few data points. The classification is the first check that
fails, in that order, and `valid` when none does.

Each protocol action accepts a set of classifications; an action that is not named accepts only
a valid reading.
-/

set_option autoImplicit false

namespace MarginLending

open Arith Data

/-- The classification of an oracle reading, from the worst to the best. -/
inductive Validity where
  | invalid
  | volatile
  | uncertain
  | staleForMargin
  | insufficientDataPoints
  | valid
  deriving DecidableEq, Repr

namespace Validity

def all : List Validity :=
  [invalid, volatile, uncertain, staleForMargin, insufficientDataPoints, valid]

def name : Validity → String
  | invalid => "INVALID"
  | volatile => "VOLATILE"
  | uncertain => "UNCERTAIN"
  | staleForMargin => "STALE_FOR_MARGIN"
  | insufficientDataPoints => "INSUFFICIENT_DATA_POINTS"
  | valid => "VALID"

def ofName? (s : String) : Option Validity := all.find? (·.name = s)

theorem ofName?_name (v : Validity) : ofName? v.name = some v := by
  cases v <;> rfl

end Validity

inductive Action where
  | pnlSettlement
  | orderAdded
  | fillOrder
  | liquidate
  | marginCalculation
  | updateTwap
  deriving DecidableEq, Repr

namespace Action

def all : List Action :=
  [pnlSettlement, orderAdded, fillOrder, liquidate, marginCalculation, updateTwap]

def name : Action → String
  | pnlSettlement => "pnl_settlement"
  | orderAdded => "order_added"
  | fillOrder => "fill_order"
  | liquidate => "liquidate"
  | marginCalculation => "margin_calculation"
  | updateTwap => "update_twap"

def names : List (String × Action) := all.map fun a => (a.name, a)

/-- Whether an action accepts a classification. Fills and margin need a valid reading; new
orders and settlement tolerate a stale reading and few data points; liquidation and TWAP updates
tolerate a stale reading only. -/
def accepts : Action → Validity → Bool
  | fillOrder, v | marginCalculation, v => v == .valid
  | orderAdded, v | pnlSettlement, v =>
    v == .staleForMargin || v == .insufficientDataPoints || v == .valid
  | updateTwap, v | liquidate, v => v == .staleForMargin || v == .valid

theorem accepts_valid (a : Action) : a.accepts .valid = true := by
  cases a <;> rfl

end Action

/-- Whether an action, if one is named, accepts a classification; otherwise only a valid
reading is accepted. -/
def acceptsFor : Option Action → Validity → Bool
  | some a, v => a.accepts v
  | none, v => v == .valid

def spreadPrecision : Int := 1000000

structure ValidityChecks where
  nonPositive : Bool
  tooVolatile : Bool
  tooUncertain : Bool
  stale : Bool
  enoughData : Bool
  deriving DecidableEq, Repr

namespace ValidityChecks

/-- The checks of a reading against the TWAP `twap`, given as data. A price that is not
positive skips the others; otherwise the volatility ratio `max(price, twap) / max(1, min(price,
twap))` is an `i64` quotient of data compared as they come, and the confidence share a `u64`
product and quotient, each of which may fail. -/
def run (twap : Value) (r : Reading) (g : ValidityRails) : Except Failure ValidityChecks := do
  if r.price ≤ 0 then return ⟨true, false, false, false, r.hasSufficientDataPoints⟩
  let high ← Value.largerOf (.int r.price) twap
  let low ← Value.largerOf (.int 1) (← Value.smallerOf (.int r.price) twap)
  let ratio ← checkedData IntType.i64 .div high low
  let scaled ← checkedOp IntType.u64 .mul (max 1 r.confidence) spreadPrecision
  let share ← checkedOp IntType.u64 .div scaled r.price
  return ⟨false, decide (g.maxVolatilityRatio < ratio),
    decide (g.maxConfidenceDivergence < share), decide (g.slotsBeforeStale < r.delay),
    r.hasSufficientDataPoints⟩

/-- The classification: the first check that fails, in order of severity. -/
def classify (c : ValidityChecks) : Validity :=
  if c.nonPositive then .invalid
  else if c.tooVolatile then .volatile
  else if c.tooUncertain then .uncertain
  else if c.stale then .staleForMargin
  else if !c.enoughData then .insufficientDataPoints
  else .valid

end ValidityChecks

namespace Reading

def validity (r : Reading) (twap : Value) (g : ValidityRails) : Except Failure Validity :=
  (ValidityChecks.run twap r g).map ValidityChecks.classify

/-- The strict form of `validity`: a reading that is neither valid nor short of data points is a
failure that names the check it failed. -/
def validate (r : Reading) (twap : Value) (g : ValidityRails) : Except Failure Validity := do
  let c ← ValidityChecks.run twap r g
  if c.nonPositive then throw (.nonPositivePrice r.price)
  if c.tooVolatile then throw (.tooVolatile r.price twap.shown)
  if c.tooUncertain then throw (.confidenceTooWide r.confidence r.price)
  if c.stale then throw (.stale r.delay g.slotsBeforeStale)
  return if c.enoughData then .valid else .insufficientDataPoints

end Reading

end MarginLending

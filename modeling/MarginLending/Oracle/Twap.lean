import MarginLending.Oracle.Validity
import MarginLending.Lending.Twap

/-! The oracle TWAPs of a market.

A reading moves the hourly and the five-minute oracle TWAPs only if it is good enough for TWAP
updates. The first accepted reading (while the TWAP is not positive) seeds the history, and is
classified against its own price. Later readings are clamped into a band around the TWAP they
move (a third of it by default), so one reading can pull a TWAP only so far. The five-minute
TWAP falls back to the hourly one while it is zero. The last reading's fields are kept only for
a reading that is not older than the history.
-/

set_option autoImplicit false

namespace MarginLending

open Arith Data

/-- The periods of the oracle TWAPs and the divisor of the band a reading is clamped into, as
the caller gave them. -/
structure TwapConfig where
  period : Value
  period5min : Value
  bandDenominator : Value

namespace TwapConfig

/-- A configuration, refused unless both periods compare positive (the hourly one first), and
then unless the band divisor does. -/
def make (period period5min bandDenominator : Value) : Except Failure TwapConfig := do
  if (← Value.compareBy .le period (.int 0)) then throw .twapPeriods
  if (← Value.compareBy .le period5min (.int 0)) then throw .twapPeriods
  if (← Value.compareBy .le bandDenominator (.int 0)) then
    throw (.bandDenominator bandDenominator.shown)
  pure ⟨period, period5min, bandDenominator⟩

def standard : TwapConfig := ⟨.int 3600, .int 300, .int 3⟩

instance : Inhabited TwapConfig := ⟨standard⟩

/-- A price clamped into the band around `lastTwap`; without a positive TWAP there is no band
and the price is returned as it is. -/
def clamp (c : TwapConfig) (price lastTwap : Value) : Except Failure Value := do
  if ← Value.compareBy .le lastTwap (.int 0) then return price
  let band ← checkedData IntType.i64 .div lastTwap c.bandDenominator
  let lower ← checkedData IntType.i64 .sub lastTwap (.int band)
  let upper ← checkedData IntType.i64 .add lastTwap (.int band)
  Value.smallerOf (← Value.largerOf price (.int lower)) (.int upper)

end TwapConfig

namespace PriceHistory

/-- The history after a reading at `now`, or `none` when the reading is not accepted for TWAP
updates and the history stays as it is. A seeded history takes `now` as it is given. -/
def afterReading (h : PriceHistory) (r : Reading) (now : Value) (g : ValidityRails)
    (c : TwapConfig) : Except Failure (Option PriceHistory) := do
  let seed := decide (h.twap ≤ 0)
  let v ← r.validity (.int (if seed then r.price else h.twap)) g
  if !Action.updateTwap.accepts v then return none
  if seed then return some { ofReading r with twapTimestamp := now }
  let lastTs := h.twapTimestamp
  let hourly ← Lending.twap (← c.clamp (.int r.price) (.int h.twap)) now (.int h.twap) lastTs
    c.period
  let base := if h.twap5min = 0 then h.twap else h.twap5min
  let fiveMinute ← Lending.twap (← c.clamp (.int r.price) (.int base)) now (.int base) lastTs
    c.period5min
  let moved := { h with
    twap := hourly
    twap5min := fiveMinute
    twapTimestamp := ← Value.largerOf now lastTs }
  if ← Value.compareBy .ge now lastTs then
    return some
      { moved with lastPrice := r.price, lastConfidence := r.confidence, lastDelay := r.delay }
  return some moved

end PriceHistory

end MarginLending

import MarginLending.Snapshot.Oracle
import MarginLending.Arith.Operand

/-! Readings from raw price feeds.

A feed publishes a price and a confidence in units of `10^exponent`, where a price may stand for
a `multiple` of whole tokens. Scaling brings both to the protocol's precision of `10^-6`: the
feed's precision `10^|exponent| / multiple` must exceed one, and the scale factor is a quotient
of powers of ten, so values are multiplied, or divided with truncation toward zero. The delay
is the slot distance from publication to now. A stablecoin within five basis points of one
whole, and within its confidence, reads exactly one whole.
-/

set_option autoImplicit false

namespace MarginLending

open Arith Data

structure RawFeed where
  price : Value
  confidence : Value
  exponent : Value
  publishSlot : Value
  clockSlot : Value

namespace RawFeed

/-- The reading of a publication whose price is for `multiple` whole tokens. The feed's
precision `10^|exponent|` must exceed the multiple; the price and confidence are then rescaled
to the price precision, truncating, and the delay is the clock slot less the publish slot, both
cast to `i64` as indices. -/
def scale (f : RawFeed) (multiple : Value) : Except Failure Reading := do
  let digits ← f.exponent.absolute
  let precision ← checkedData IntType.u128 .pow (.int 10) digits
  if ← Value.compareBy .le (.int precision) multiple then
    throw (.feedPrecision digits.shown multiple.shown)
  let precision ← checkedData IntType.u128 .div (.int precision) multiple
  let (up, down) ← if pricePrecision < precision then
      do pure (1, ← checkedOp IntType.u128 .div precision pricePrecision)
    else do pure (← checkedOp IntType.u128 .div pricePrecision precision, 1)
  let price ← checkedOp IntType.i128 .div (← checkedData IntType.i128 .mul f.price (.int up)) down
  let price ← cast price IntType.i64
  let confidence ← checkedOp IntType.u128 .div
    (← checkedData IntType.u128 .mul f.confidence (.int up)) down
  let confidence ← cast confidence IntType.u64
  let delay ← checkedOp IntType.i64 .sub (← castData f.clockSlot IntType.i64)
    (← castData f.publishSlot IntType.i64)
  pure ⟨price, confidence, delay, true⟩

end RawFeed

def stablecoinTolerance : Int := 500

/-- The reading of a stablecoin: a price within five basis points of one whole, and within the
confidence, becomes exactly one whole. -/
def Reading.pegToOne (r : Reading) : Except Failure Reading := do
  let deviation : Int := (← checkedOp IntType.i64 .sub r.price pricePrecision).natAbs
  if deviation ≤ min stablecoinTolerance r.confidence then pure { r with price := pricePrecision }
  else pure r

inductive FeedSource where
  | feed
  | feed1k
  | feed1m
  | feedStable
  | quoteAsset
  deriving DecidableEq, Repr

namespace FeedSource

def names : List (String × FeedSource) :=
  [("feed", feed), ("feed_1k", feed1k), ("feed_1m", feed1m), ("feed_stable", feedStable),
    ("quote_asset", quoteAsset)]

/-- The reading from a source. The quote asset ignores the publication and reads one whole; the
thousand and million feeds price that many tokens; a stablecoin feed is pegged to one. -/
def reading : FeedSource → RawFeed → Except Failure Reading
  | feed, f => f.scale (.int 1)
  | feed1k, f => f.scale (.int 1000)
  | feed1m, f => f.scale (.int 1000000)
  | feedStable, f => do (← f.scale (.int 1)).pegToOne
  | quoteAsset, _ => pure Reading.quoteAsset

end FeedSource

end MarginLending

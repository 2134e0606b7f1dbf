import MarginLending.Pricing.Standardize

/-! The limit price of an order.

An order that is offset from the oracle takes the oracle price plus its offset, which must be
positive, rounded to the tick in its direction. Otherwise an order without a price (zero) takes
the fallback price, rounded, if there is one; an order with a price keeps it as it is.
-/

set_option autoImplicit false

namespace MarginLending.Pricing

open Arith Data

/-- The limit price of an order, or `none` when it has neither a price nor a fallback. An order
with an oracle offset (one not equal to zero) is priced at the oracle price plus the offset,
which must be positive; otherwise a price equal to zero falls back to the fallback price (when
it is not null), and any other price is the limit price as it was given; a null price is no
price. -/
def limitPrice (price : Value) (d : Direction) (tick offset oracle fallback : Value) :
    Except Failure (Option Value) := do
  if !offset.equals (.int 0) then
    if let .null := oracle then throw .oracleMissing
    let limit ← checkedData IntType.i64 .add oracle offset
    if limit ≤ 0 then throw (.spreadLimitPrice limit)
    return some (.int (← standardizePrice (.int (← cast limit IntType.u64)) tick d))
  if price.equals (.int 0) then
    match fallback with
    | .null => return none
    | f => return some (.int (← standardizePrice f tick d))
  match price with
  | .null => return none
  | p => return some p

def forceLimitPrice (price : Value) (d : Direction) (tick offset oracle fallback : Value) :
    Except Failure Value := do
  match ← limitPrice price d tick offset oracle fallback with
  | some p => pure p
  | none => throw .noLimitPrice

end MarginLending.Pricing

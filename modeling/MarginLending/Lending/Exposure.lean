import MarginLending.Lending.Balance
import MarginLending.Pricing.Standardize
import MarginLending.Snapshot.Position

/-! What a position holds and what it could come to hold.

A position's direction follows the sign of its base amount; a flat position is two-way if it
trades both ways, and short otherwise. Its entry price is the quote paid per base unit. Its
token amount is its scaled balance at the market's interest, signed negative for a borrow. In
the worst case all the orders of one side fill: of the two sides, the one that leaves the larger
balance in size, with the orders valued at the oracle price, or at the five-minute TWAP when
that is higher.
-/

set_option autoImplicit false

namespace MarginLending

open Arith Lending Data

/-- The balance after the worst side of a position's orders fills, and what those orders are
worth. -/
structure WorstCase where
  tokenAmount : Int
  ordersValue : Int
  deriving DecidableEq, Repr

namespace Position

def direction (p : Position) : Direction :=
  if 0 < p.baseAssetAmount then .long
  else if p.twoWayOrders ∧ p.baseAssetAmount = 0 then .twoWay
  else .short

def entryPrice (p : Position) : Except Failure Int := do
  if p.baseAssetAmount = 0 then return 0
  let cost ← checkedOp IntType.i128 .mul (-p.quoteAssetAmount) pricePrecision
  checkedOp IntType.i128 .div cost p.baseAssetAmount

def tokens (p : Position) (m : Market) : Except Failure Int :=
  tokenAmount (.int p.scaledBalance) m p.balanceKind

def signedTokens (p : Position) (m : Market) : Except Failure Int := do
  signedAmount (.int (← p.tokens m)) p.balanceKind

/-- The worst case of a position's orders, from the signed balance `amount` when one is given
(not null) and from the position's own otherwise. The orders are valued at the higher of the
oracle price and the five-minute TWAP, when one is given. -/
def worstCase (p : Position) (m : Market) (r : Reading) (twap5min amount : Value) :
    Except Failure WorstCase := do
  let amount ← match amount with
    | .null => pure (.int (← p.signedTokens m))
    | a => pure a
  let afterBids ← checkedData IntType.i128 .add amount (.int p.openBids)
  let afterAsks ← checkedData IntType.i128 .add amount (.int p.openAsks)
  let price ← match twap5min with
    | .null => pure (.int r.price)
    | t => Value.largerOf t (.int r.price)
  if afterAsks.natAbs < afterBids.natAbs then
    return ⟨afterBids, ← tokenValue (.int (-p.openBids)) (.int m.decimals) price⟩
  return ⟨afterAsks, ← tokenValue (.int (-p.openAsks)) (.int m.decimals) price⟩

end Position

end MarginLending

import MarginLending.Snapshot.Market

/-! A user's position on one spot market.

The balance is held scaled; the token amount follows from the market's cumulative interest.
Open bids and asks are signed order sizes that may still fill.
-/

set_option autoImplicit false

namespace MarginLending

open Data Arith Snapshot

structure Position where
  marketIndex : Int := 0
  scaledBalance : Int := 0
  balanceKind : BalanceKind := .deposits
  baseAssetAmount : Int := 0
  quoteAssetAmount : Int := 0
  openBids : Int := 0
  openAsks : Int := 0
  openOrders : Int := 0
  twoWayOrders : Bool := false
  deriving DecidableEq, Repr

namespace Position

/-- Reads a position; absent fields are zero, false, or the deposit side. -/
def decode (v : Value) : Decoded Position :=
  let i64 := readIntIn IntType.i64.min IntType.i64.max
  (join (field v "market_index" (some 0) (readIntIn 0 IntType.u16.max))
  (join (field v "scaled_balance" (some 0) (readIntIn 0 IntType.u64.max))
  (join (field v "balance_type" (some .deposits) (readEnum BalanceKind.names))
  (join (field v "base_asset_amount" (some 0) i64)
  (join (field v "quote_asset_amount" (some 0) i64)
  (join (field v "open_bids" (some 0) i64)
  (join (field v "open_asks" (some 0) i64)
  (join (field v "num_open_orders" (some 0) (readIntIn 0 IntType.u8.max))
    (field v "two_way_orders_enabled" (some false) readBool))))))))).map
  fun ⟨mi, sb, bk, base, quote, bids, asks, orders, twoWay⟩ =>
    ⟨mi, sb, bk, base, quote, bids, asks, orders, twoWay⟩

def toValue (p : Position) : Value :=
  .obj [("market_index", .int p.marketIndex), ("scaled_balance", .int p.scaledBalance),
    ("balance_type", .str p.balanceKind.name), ("base_asset_amount", .int p.baseAssetAmount),
    ("quote_asset_amount", .int p.quoteAssetAmount), ("open_bids", .int p.openBids),
    ("open_asks", .int p.openAsks), ("num_open_orders", .int p.openOrders),
    ("two_way_orders_enabled", .bool p.twoWayOrders)]

def isEmpty (p : Position) : Bool := p.scaledBalance == 0 && p.openOrders == 0

def hasOpenOrders (p : Position) : Bool := 0 < p.openOrders || 0 < p.openBids || 0 < p.openAsks

def hasOpenPosition (p : Position) : Bool := p.baseAssetAmount != 0

def hasSettledPnl (p : Position) : Bool := p.baseAssetAmount == 0 && 0 < p.quoteAssetAmount

end Position

end MarginLending

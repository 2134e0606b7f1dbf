import MarginLending.Snapshot.Oracle

/-! The market snapshot.

A market holds its configuration (decimals, rate curve, order sizes), its aggregate scaled
balances, its cumulative interest multipliers and its TWAP statistics, with its oracle and index
price histories. Reading a market checks every field's bounds and then the rate curve: the kink
lies below 100% and the optimal rate does not exceed the maximal rate.

Units: scaled balances in `10^-9`, cumulative interest in `10^-10` (`10^10` is 1.0), utilization
and rates in `10^-6`.
-/

set_option autoImplicit false

namespace MarginLending

open Data Arith Snapshot

inductive MarketStatus where
  | initialized
  | active
  | fillsPaused
  | withdrawPaused
  | reduceOnly
  | settlement
  | delisted
  deriving DecidableEq, Repr

namespace MarketStatus

def names : List (String × MarketStatus) :=
  [("initialized", initialized), ("active", active), ("fills_paused", fillsPaused),
    ("withdraw_paused", withdrawPaused), ("reduce_only", reduceOnly),
    ("settlement", settlement), ("delisted", delisted)]

def name : MarketStatus → String
  | initialized => "initialized"
  | active => "active"
  | fillsPaused => "fills_paused"
  | withdrawPaused => "withdraw_paused"
  | reduceOnly => "reduce_only"
  | settlement => "settlement"
  | delisted => "delisted"

end MarketStatus

/-- Which side of the market a balance is on: it decides the rounding and the sign. -/
inductive BalanceKind where
  | deposits
  | borrows
  deriving DecidableEq, Repr

namespace BalanceKind

def names : List (String × BalanceKind) := [("deposits", deposits), ("borrows", borrows)]

def name : BalanceKind → String
  | deposits => "deposits"
  | borrows => "borrows"

end BalanceKind

def interestPrecision : Int := 10000000000

def utilizationPrecision : Int := 1000000

structure Market where
  index : Int
  name : String
  status : MarketStatus
  decimals : Int
  cumulativeDepositInterest : Int
  cumulativeBorrowInterest : Int
  depositBalance : Int
  borrowBalance : Int
  optimalUtilization : Int
  optimalBorrowRate : Int
  maxBorrowRate : Int
  lastInterestTs : Value
  tokenDepositTwap : Int
  tokenBorrowTwap : Int
  utilizationTwap : Int
  lastTwapTs : Int
  expiryTs : Int
  orderStepSize : Int
  orderTickSize : Int
  minOrderSize : Int
  oracleHistory : PriceHistory
  indexHistory : IndexHistory

namespace Market

/-- The rate curve is well formed: its kink lies below 100% and its optimal rate does not exceed
its maximal rate. -/
def RateCurveOk (m : Market) : Prop :=
  m.optimalUtilization < utilizationPrecision ∧ m.optimalBorrowRate ≤ m.maxBorrowRate

instance (m : Market) : Decidable m.RateCurveOk :=
  inferInstanceAs (Decidable (_ ∧ _))

def decodeFields (v : Value) : Decoded Market :=
  let u16 := readIntIn 0 IntType.u16.max
  let u32 := readIntIn 0 IntType.u32.max
  let u64 := readIntIn 0 IntType.u64.max
  let u128 := readIntIn 0 IntType.u128.max
  let i64 := readIntIn IntType.i64.min IntType.i64.max
  (join (field v "market_index" (some 0) u16)
  (join (field v "name" (some "") (readText 32))
  (join (field v "status" (some .initialized) (readEnum MarketStatus.names))
  (join (field v "decimals" none u32)
  (join (field v "cumulative_deposit_interest" (some interestPrecision) u128)
  (join (field v "cumulative_borrow_interest" (some interestPrecision) u128)
  (join (field v "deposit_balance" (some 0) u128)
  (join (field v "borrow_balance" (some 0) u128)
  (join (field v "optimal_utilization" none u32)
  (join (field v "optimal_borrow_rate" none u32)
  (join (field v "max_borrow_rate" none u32)
  (join (field v "last_interest_ts" (some 0) u64)
  (join (field v "token_deposit_twap" (some 0) u128)
  (join (field v "token_borrow_twap" (some 0) u128)
  (join (field v "utilization_twap" (some 0) u128)
  (join (field v "last_twap_ts" (some 0) u64)
  (join (field v "expiry_ts" (some 0) i64)
  (join (field v "order_step_size" (some 1) u64)
  (join (field v "order_tick_size" (some 0) u64)
  (join (field v "min_order_size" (some 0) u64)
  (join (nested v "historical_oracle_data" PriceHistory.empty PriceHistory.decode)
    (nested v "historical_index_data" IndexHistory.empty IndexHistory.decode)))))))))))))))))))))).map
  fun ⟨index, name, status, decimals, cdi, cbi, db, bb, ou, obr, mbr, lit, tdt, tbt, ut, ltt,
      expiry, step, tick, minSize, oracle, idx⟩ =>
    ⟨index, name, status, decimals, cdi, cbi, db, bb, ou, obr, mbr, .int lit, tdt, tbt, ut, ltt,
      expiry, step, tick, minSize, oracle, idx⟩

/-- Reads a market: every field, then the rate curve, whose failure has no location. -/
def decode (v : Value) : Decoded Market := do
  let m ← decodeFields v
  if m.RateCurveOk then pure m else throw [⟨[], .valueError⟩]

def toValue (m : Market) : Value :=
  .obj [("market_index", .int m.index), ("name", .str m.name), ("status", .str m.status.name),
    ("decimals", .int m.decimals),
    ("cumulative_deposit_interest", .int m.cumulativeDepositInterest),
    ("cumulative_borrow_interest", .int m.cumulativeBorrowInterest),
    ("deposit_balance", .int m.depositBalance), ("borrow_balance", .int m.borrowBalance),
    ("optimal_utilization", .int m.optimalUtilization),
    ("optimal_borrow_rate", .int m.optimalBorrowRate),
    ("max_borrow_rate", .int m.maxBorrowRate), ("last_interest_ts", m.lastInterestTs.asIntField),
    ("token_deposit_twap", .int m.tokenDepositTwap),
    ("token_borrow_twap", .int m.tokenBorrowTwap),
    ("utilization_twap", .int m.utilizationTwap), ("last_twap_ts", .int m.lastTwapTs),
    ("expiry_ts", .int m.expiryTs), ("order_step_size", .int m.orderStepSize),
    ("order_tick_size", .int m.orderTickSize), ("min_order_size", .int m.minOrderSize),
    ("historical_oracle_data", m.oracleHistory.toValue),
    ("historical_index_data", m.indexHistory.toValue)]

def cumulativeInterest (m : Market) : BalanceKind → Int
  | .deposits => m.cumulativeDepositInterest
  | .borrows => m.cumulativeBorrowInterest

/-- The market is active at `now`: not settling or delisted, and not expired. An expiry of zero
means the market never expires, and `now` is then not compared with it. -/
def isActive (m : Market) (now : Value) : Except Failure Bool := do
  let notExpired ← if m.expiryTs = 0 then pure true else Value.compareBy .lt now (.int m.expiryTs)
  pure (m.status != .settlement && m.status != .delisted && notExpired)

def isReduceOnly (m : Market) : Bool := m.status == .reduceOnly

def fillsEnabled (m : Market) : Bool := m.status != .fillsPaused

end Market

end MarginLending

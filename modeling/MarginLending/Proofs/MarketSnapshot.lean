import MarginLending.Service.Contract
import MarginLending.Proofs.Accrual

/-! Markets stay within their bounds.

A market is bounded when each field lies within the bounds of its machine type, its decimals
within the contract's cap of 19, and its rate curve is well formed (`Market.Bounded`). Accruals
and TWAP updates build their market without reading it again, yet each value they write comes out
of a checked `u128` or `u64` operation, so every market a caller reaches from a bounded one by
these updates is bounded.
-/

set_option autoImplicit false

namespace MarginLending

open Data Arith Snapshot Contract Service

/-! ## Bounded markets -/

structure PriceHistory.Bounded (h : PriceHistory) : Prop where
  lastPrice : IntType.i64.Contains h.lastPrice
  lastConfidence : IntType.u64.Contains h.lastConfidence
  lastDelay : IntType.i64.Contains h.lastDelay
  twap : IntType.i64.Contains h.twap
  twap5min : IntType.i64.Contains h.twap5min
  twapTimestamp : ∃ t, h.twapTimestamp = .int t ∧ IntType.i64.Contains t

structure IndexHistory.Bounded (h : IndexHistory) : Prop where
  bid : IntType.u64.Contains h.bid
  ask : IntType.u64.Contains h.ask
  twap : IntType.u64.Contains h.twap
  twap5min : IntType.u64.Contains h.twap5min
  twapTimestamp : IntType.i64.Contains h.twapTimestamp

/-- Every field of the market within its bounds, and its rate curve well formed. The last accrual
time is any datum that reads as a `u64` index. -/
structure Market.Bounded (m : Market) : Prop where
  index : IntType.u16.Contains m.index
  name : m.name.length ≤ 32
  decimals : 0 ≤ m.decimals ∧ m.decimals ≤ 19
  cumulativeDepositInterest : IntType.u128.Contains m.cumulativeDepositInterest
  cumulativeBorrowInterest : IntType.u128.Contains m.cumulativeBorrowInterest
  depositBalance : IntType.u128.Contains m.depositBalance
  borrowBalance : IntType.u128.Contains m.borrowBalance
  optimalUtilization : IntType.u32.Contains m.optimalUtilization
  optimalBorrowRate : IntType.u32.Contains m.optimalBorrowRate
  maxBorrowRate : IntType.u32.Contains m.maxBorrowRate
  lastInterestTs : ∃ t, m.lastInterestTs.index = .ok t ∧ IntType.u64.Contains t
  tokenDepositTwap : IntType.u128.Contains m.tokenDepositTwap
  tokenBorrowTwap : IntType.u128.Contains m.tokenBorrowTwap
  utilizationTwap : IntType.u128.Contains m.utilizationTwap
  lastTwapTs : IntType.u64.Contains m.lastTwapTs
  expiryTs : IntType.i64.Contains m.expiryTs
  orderStepSize : IntType.u64.Contains m.orderStepSize
  orderTickSize : IntType.u64.Contains m.orderTickSize
  minOrderSize : IntType.u64.Contains m.minOrderSize
  oracleHistory : m.oracleHistory.Bounded
  indexHistory : m.indexHistory.Bounded
  rateCurve : m.RateCurveOk

theorem PriceHistory.empty_bounded : PriceHistory.empty.Bounded :=
  ⟨by decide, by decide, by decide, by decide, by decide, ⟨0, rfl, by decide⟩⟩

theorem IndexHistory.empty_bounded : IndexHistory.empty.Bounded :=
  ⟨by decide, by decide, by decide, by decide, by decide⟩

/-! ## Updates -/

theorem Market.Bounded.accrue {m m' : Market} {now : Value} (bounded : m.Bounded)
    (ok : m.accrue now = .ok m') : m'.Bounded := by
  rcases Market.accrue_bounds ok with rfl | ⟨deposit, borrow, n, index, time, raised, raised', rfl⟩
  · exact bounded
  · exact { bounded with
      cumulativeDepositInterest := raised
      cumulativeBorrowInterest := raised'
      lastInterestTs := ⟨n, index, time⟩ }

theorem Market.Bounded.updateTwapStats {m m' : Market} {now : Value} (bounded : m.Bounded)
    (ok : m.updateTwapStats now = .ok m') : m'.Bounded := by
  obtain ⟨deposits, borrows, util, time, hd, hb, hu, ht, rfl⟩ := Market.updateTwapStats_bounds ok
  exact { bounded with
    tokenDepositTwap := hd
    tokenBorrowTwap := hb
    utilizationTwap := hu
    lastTwapTs := ht }

/-- The markets a caller reaches from `m` by accruals and TWAP updates at any times, each update
applied to the market the one before it returned. -/
inductive Market.Reachable (m : Market) : Market → Prop
  | refl : Market.Reachable m m
  | accrue {m₁ m₂ : Market} (now : Value) :
      Market.Reachable m m₁ → m₁.accrue now = .ok m₂ → Market.Reachable m m₂
  | updateTwapStats {m₁ m₂ : Market} (now : Value) :
      Market.Reachable m m₁ → m₁.updateTwapStats now = .ok m₂ → Market.Reachable m m₂

theorem Market.Reachable.bounded {m m' : Market} (reached : m.Reachable m') (start : m.Bounded) :
    m'.Bounded := by
  induction reached with
  | refl => exact start
  | accrue now _ ok ih => exact ih.accrue ok
  | updateTwapStats now _ ok ih => exact ih.updateTwapStats ok

/-- The market that a snapshot with only the required fields loads as. -/
def minimalMarket : Market :=
  ⟨0, "", .initialized, 6, 10000000000, 10000000000, 0, 0, 800000, 100000, 1000000, .int 0, 0, 0,
    0, 0, 0, 1, 0, 0, PriceHistory.empty, IndexHistory.empty⟩

theorem minimalMarket_bounded : minimalMarket.Bounded :=
  ⟨by decide, by decide, by decide, by decide, by decide, by decide, by decide, by decide,
    by decide, by decide, ⟨0, rfl, by decide⟩, by decide, by decide, by decide, by decide,
    by decide, by decide, by decide, by decide, PriceHistory.empty_bounded,
    IndexHistory.empty_bounded, by decide⟩

end MarginLending

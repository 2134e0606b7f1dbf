import MarginLending.Proofs.TwapRange

/-! A TWAP update at a time not after the last one changes nothing.

A TWAP weighs the new point by the time since the last update, `max 0 (now - last)`, and a zero
weight returns the old TWAP itself, cast to `i64` and back to `u128`. So a market update at a stale
time returns each daily TWAP as it was, and the TWAP time `max now last` is the old one: the
update is the identity, and running it before any later update changes nothing.

The time difference is an `i64` subtraction, taken before the weights are clamped. A stale time
more than `2^63` seconds before the last update underflows it, and the update then fails rather
than returning the market.
-/

set_option autoImplicit false

namespace MarginLending

open Arith Data

namespace Lending

theorem weightedAverage_zero_weight {p₁ p₂ w₂ : Int} (point₁ : IntType.i64.Contains p₁)
    (point₂ : IntType.i64.Contains p₂) (positive : 0 < w₂) (fits : w₂ ≤ IntType.i64.max) :
    weightedAverage (.int p₁) (.int p₂) (.int 0) (.int w₂) = .ok p₂ := by
  have result : IntType.i64.Contains (averageOf p₁ p₂ 0 w₂) := by
    simpa [averageOf] using point₂
  simpa [averageOf] using
    weightedAverage_eq_averageOf point₁ point₂ le_rfl positive (by omega) result

/-- A TWAP at a time not after the last update returns the old TWAP: the new price weighs
nothing and the old TWAP the whole period. -/
theorem twap_stale {p now l last period : Int} (price : IntType.i64.Contains p)
    (previous : IntType.i64.Contains l) (clock : IntType.i64.Contains now)
    (stamp : IntType.i64.Contains last) (window : IntType.i64.Contains period)
    (positive : 0 < period) (stale : now ≤ last) (gap : IntType.i64.Contains (now - last)) :
    twap (.int p) (.int now) (.int l) (.int last) (.int period) = .ok l := by
  have idle : max 0 (now - last) = 0 := by omega
  have rest : max 1 (period - 0) = period := by omega
  have remaining : IntType.i64.Contains (period - 0) := by simpa using window
  simp only [twap, checkedData_int, checkedOp_sub_eq_ok clock stamp gap, except_ok_bind, idle,
    checkedOp_sub_eq_ok window (IntType.contains_zero _) remaining, rest]
  exact weightedAverage_zero_weight price previous positive window.2

end Lending

namespace Market

open Lending

variable {m : Market} {now : Int}

theorem window_contains : IntType.i64.Contains marketTwapWindow := by decide

theorem statTwap_stale {c l : Int} (current : IntType.i64.Contains c) (nonneg : 0 ≤ l)
    (previous : IntType.i64.Contains l) (clock : IntType.i64.Contains now)
    (stamp : IntType.i64.Contains m.lastTwapTs) (stale : now ≤ m.lastTwapTs)
    (gap : IntType.i64.Contains (now - m.lastTwapTs)) :
    m.statTwap (.int now) c l = .ok l := by
  have wide : IntType.u128.Contains l := by
    simp only [IntType.Contains, IntType.i64_min, IntType.i64_max] at previous
    simp only [IntType.Contains, IntType.u128_min, IntType.u128_max]
    omega
  simp only [statTwap, cast_of_contains current, cast_of_contains previous, except_ok_bind,
    twap_stale current previous clock stamp window_contains (by decide) stale gap,
    cast_of_contains wide]

theorem updateTwapStats_stale {deposits borrows u : Int}
    (amounts : m.tokenAmounts = .ok (deposits, borrows))
    (util : Lending.utilization (.int deposits) (.int borrows) = .ok u)
    (fit : IntType.i64.Contains deposits ∧ IntType.i64.Contains borrows ∧ IntType.i64.Contains u)
    (twaps : 0 ≤ m.tokenDepositTwap ∧ IntType.i64.Contains m.tokenDepositTwap ∧
      0 ≤ m.tokenBorrowTwap ∧ IntType.i64.Contains m.tokenBorrowTwap ∧
      0 ≤ m.utilizationTwap ∧ IntType.i64.Contains m.utilizationTwap)
    (stamp : 0 ≤ m.lastTwapTs ∧ m.lastTwapTs ≤ 2 ^ 63 - 1) (clock : IntType.i64.Contains now)
    (stale : now ≤ m.lastTwapTs) (gap : IntType.i64.Contains (now - m.lastTwapTs)) :
    m.updateTwapStats (.int now) = .ok m := by
  obtain ⟨depositsFit, borrowsFit, utilFit⟩ := fit
  obtain ⟨dt₀, dt, bt₀, bt, ut₀, ut⟩ := twaps
  have last : IntType.i64.Contains m.lastTwapTs := by
    simp only [IntType.Contains, IntType.i64_min, IntType.i64_max]
    omega
  have time : IntType.u64.Contains m.lastTwapTs := by
    simp only [IntType.Contains, IntType.u64_min, IntType.u64_max]
    omega
  -- the later of the two times is the old one
  have later : max now m.lastTwapTs = m.lastTwapTs := max_eq_right stale
  simp only [updateTwapStats, amounts, util, except_ok_bind,
    statTwap_stale depositsFit dt₀ dt clock last stale gap,
    statTwap_stale borrowsFit bt₀ bt clock last stale gap,
    statTwap_stale utilFit ut₀ ut clock last stale gap, Value.largerOf_int, later, castData_int,
    cast_of_contains time]
  rfl

theorem updateTwapStats_gap_underflow {deposits borrows u : Int}
    (amounts : m.tokenAmounts = .ok (deposits, borrows))
    (util : Lending.utilization (.int deposits) (.int borrows) = .ok u)
    (point : IntType.i64.Contains deposits)
    (past : IntType.i64.Contains m.tokenDepositTwap) (stamp : IntType.i64.Contains m.lastTwapTs)
    (clock : IntType.i64.Contains now) (below : now - m.lastTwapTs < IntType.i64.min) :
    m.updateTwapStats (.int now) =
      .error (.arith ⟨.sub, IntType.i64, now, m.lastTwapTs, .underflow⟩) := by
  have underflow : checkedOp IntType.i64 .sub now m.lastTwapTs =
      .error (.arith ⟨.sub, IntType.i64, now, m.lastTwapTs, .underflow⟩) :=
    checkedOp_underflow (by decide) clock stamp (fun divides => nomatch divides) below
  simp only [updateTwapStats, amounts, util, except_ok_bind, statTwap, twap, checkedData_int,
    cast_of_contains point, cast_of_contains past, underflow, except_error_bind]

/-- A stale market TWAP update is the identity. For a market whose token amounts and utilization
are `i64`s, whose TWAPs are `u128`s that fit an `i64` and whose TWAP time lies in `[0, 2^63)`, at
an `i64` time not after that time: when the time difference is an `i64`, the update returns the
market itself, so running it first changes no later update, at any time; a time more than `2^63`
seconds before the TWAP time underflows the difference instead. -/
theorem stale_twap_update_is_identity {m : Market} {now deposits borrows u : Int}
    (amounts : m.tokenAmounts = .ok (deposits, borrows))
    (util : Lending.utilization (.int deposits) (.int borrows) = .ok u)
    (fit : IntType.i64.Contains deposits ∧ IntType.i64.Contains borrows ∧ IntType.i64.Contains u)
    (twaps : 0 ≤ m.tokenDepositTwap ∧ IntType.i64.Contains m.tokenDepositTwap ∧
      0 ≤ m.tokenBorrowTwap ∧ IntType.i64.Contains m.tokenBorrowTwap ∧
      0 ≤ m.utilizationTwap ∧ IntType.i64.Contains m.utilizationTwap)
    (stamp : 0 ≤ m.lastTwapTs ∧ m.lastTwapTs ≤ 2 ^ 63 - 1) (clock : IntType.i64.Contains now)
    (stale : now ≤ m.lastTwapTs) :
    (IntType.i64.Contains (now - m.lastTwapTs) →
      m.updateTwapStats (.int now) = .ok m ∧
        ∀ later : Value, (m.updateTwapStats (.int now) >>= fun m' => m'.updateTwapStats later) =
          m.updateTwapStats later) ∧
    (now - m.lastTwapTs < IntType.i64.min →
      m.updateTwapStats (.int now) =
        .error (.arith ⟨.sub, IntType.i64, now, m.lastTwapTs, .underflow⟩)) := by
  have last : IntType.i64.Contains m.lastTwapTs := by
    simp only [IntType.Contains, IntType.i64_min, IntType.i64_max]
    omega
  constructor
  · intro gap
    have same := updateTwapStats_stale amounts util fit twaps stamp clock stale gap
    exact ⟨same, fun later => by rw [same, except_ok_bind]⟩
  · exact updateTwapStats_gap_underflow amounts util fit.1 twaps.2.1 last clock

def oneSecondMarketData : Value :=
  .obj [("decimals", .int 6), ("optimal_utilization", .int 800000),
    ("optimal_borrow_rate", .int 100000), ("max_borrow_rate", .int 1000000),
    ("last_twap_ts", .int 1)]

def oneSecondMarket : Market := { minimalMarket with lastTwapTs := 1 }

/-- At the earliest `i64` time a valid market whose TWAP time is `1` is not returned unchanged:
the time difference `-2^63 - 1` underflows `i64`. -/
theorem earliest_time_underflows_stale_update :
    Service.loadMarket oneSecondMarketData = .ok oneSecondMarket ∧
      oneSecondMarket.updateTwapStats (.int (-9223372036854775808)) =
        .error (.arith ⟨.sub, IntType.i64, -9223372036854775808, 1, .underflow⟩) :=
  ⟨rfl, rfl⟩

def staleSampleMarket : Market :=
  { minimalMarket with lastTwapTs := 100, tokenDepositTwap := 7 }

theorem sample_stale_update_is_identity :
    staleSampleMarket.tokenAmounts = .ok (0, 0) ∧ (40 : Int) ≤ staleSampleMarket.lastTwapTs ∧
      IntType.i64.Contains (40 - staleSampleMarket.lastTwapTs) ∧
      staleSampleMarket.updateTwapStats (.int 40) = .ok staleSampleMarket ∧
      ∀ later : Value,
        (staleSampleMarket.updateTwapStats (.int 40) >>= fun m' => m'.updateTwapStats later) =
          staleSampleMarket.updateTwapStats later :=
  ⟨rfl, by decide, by decide,
    (@stale_twap_update_is_identity staleSampleMarket 40 0 0 0 rfl rfl (by decide) (by decide)
      (by decide) (by decide) (by decide)).1 (by decide)⟩

end Market

end MarginLending

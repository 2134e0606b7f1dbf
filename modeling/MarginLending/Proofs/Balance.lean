import MarginLending.Proofs.Checked
import MarginLending.Lending.Balance

/-! Scaled balances and the rounding of their round trip.

A token amount `t` becomes the scaled balance `⌊t · P / C⌋` (with `P = 10^(19 - decimals)` and
`C` the side's cumulative interest), one more when rounded up and not zero, and a balance `b`
becomes `⌊b · C / P⌋` tokens on deposits and `⌈b · C / P⌉` on borrows. A deposit's round trip
never credits more than was deposited and loses less than `C / P + 1` tokens. A borrow's round
trip charges at least what was borrowed, except when `t · P < C`: the balance is then zero,
rounding up leaves a zero balance alone, and the borrow comes back as nothing.
-/

set_option autoImplicit false

namespace MarginLending.Lending

open Arith Data

/-! ## The conversions, one step at a time -/

theorem precisionIncrease_eq_ok {d P : Int} (ok : precisionIncrease (.int d) = .ok P) :
    d ≤ 19 ∧ P = 10 ^ (19 - d).toNat := by
  simp only [precisionIncrease, except_bind_eq_ok, checkedData_int] at ok
  obtain ⟨e, difference, power⟩ := ok
  obtain ⟨-, -, inU32, rfl⟩ := checkedOp_ok_of_binary (by decide) difference
  obtain ⟨-, -, -, -, rfl⟩ := checkedOp_pow_eq_ok_iff.mp power
  refine ⟨?_, by simp [exact, balanceScaleExponent]⟩
  simp only [exact, balanceScaleExponent, IntType.Contains, IntType.u32_min] at inU32
  omega

theorem precision_pos (d : Int) : (0 : Int) < 10 ^ (19 - d).toNat := by positivity

theorem scaledBalance_eq_ok {t b : Int} {m : Market} {kind : BalanceKind} {roundUp : Value}
    (ok : scaledBalance (.int t) m kind roundUp = .ok b) :
    0 ≤ t ∧ 0 < m.cumulativeInterest kind ∧ m.decimals ≤ 19 ∧
      b = if roundUp.truthy ∧ t * 10 ^ (19 - m.decimals).toNat / m.cumulativeInterest kind ≠ 0
        then t * 10 ^ (19 - m.decimals).toNat / m.cumulativeInterest kind + 1
        else t * 10 ^ (19 - m.decimals).toNat / m.cumulativeInterest kind := by
  simp only [scaledBalance, except_bind_eq_ok, checkedData_int] at ok
  obtain ⟨P, increase, product, multiplied, balance, divided, rounded⟩ := ok
  obtain ⟨decimals, rfl⟩ := precisionIncrease_eq_ok increase
  obtain ⟨amount, -, inRange, rfl⟩ := checkedOp_ok_of_binary (by decide) multiplied
  simp only [exact] at inRange divided
  obtain ⟨-, interest, nonzero, -, rfl⟩ := (checkedOp_eq_ok_iff (by decide)).mp divided
  have positive : 0 < m.cumulativeInterest kind := by
    simp only [IntType.Contains, IntType.u128_min] at interest
    have := nonzero rfl
    omega
  -- the product lies in u128, so it is not negative and truncation is the floor
  have productNonneg : 0 ≤ t * 10 ^ (19 - m.decimals).toNat := by
    simpa using inRange.1
  have quotient : ArithOp.div.value (t * 10 ^ (19 - m.decimals).toNat) (m.cumulativeInterest kind) =
      t * 10 ^ (19 - m.decimals).toNat / m.cumulativeInterest kind := by
    rw [← exact_eq_value, exact, Int.tdiv_eq_ediv_of_nonneg productNonneg]
  simp only [IntType.Contains, IntType.u128_min] at amount
  rw [quotient] at rounded
  refine ⟨amount.1, positive, decimals, ?_⟩
  -- the add of one is checked in u128 too, but it only runs when rounding up
  split at rounded
  · obtain ⟨-, -, -, -, rfl⟩ := (checkedOp_eq_ok_iff (by decide)).mp rounded
    simp_all [ArithOp.value]
  · simp_all [pure, Except.pure]

theorem tokenAmount_deposits_eq_ok {b t : Int} {m : Market}
    (ok : tokenAmount (.int b) m .deposits = .ok t) :
    m.decimals ≤ 19 ∧ t = b * m.cumulativeDepositInterest / 10 ^ (19 - m.decimals).toNat := by
  simp only [tokenAmount, except_bind_eq_ok, checkedData_int] at ok
  obtain ⟨P, increase, scaled, multiplied, divided⟩ := ok
  obtain ⟨decimals, rfl⟩ := precisionIncrease_eq_ok increase
  obtain ⟨-, -, inRange, rfl⟩ := checkedOp_ok_of_binary (by decide) multiplied
  obtain ⟨-, -, -, rfl⟩ := checkedOp_ok_of_binary (by decide) divided
  have scaledNonneg : 0 ≤ b * m.cumulativeDepositInterest := by
    simpa [exact, Market.cumulativeInterest] using inRange.1
  refine ⟨decimals, ?_⟩
  simp only [exact, Market.cumulativeInterest]
  exact Int.tdiv_eq_ediv_of_nonneg scaledNonneg

theorem tokenAmount_borrows_eq_ok {b t : Int} {m : Market}
    (ok : tokenAmount (.int b) m .borrows = .ok t) :
    m.decimals ≤ 19 ∧ t = -(-(b * m.cumulativeBorrowInterest) / 10 ^ (19 - m.decimals).toNat) := by
  simp only [tokenAmount, except_bind_eq_ok, checkedData_int] at ok
  obtain ⟨P, increase, scaled, multiplied, divided⟩ := ok
  obtain ⟨decimals, rfl⟩ := precisionIncrease_eq_ok increase
  obtain ⟨-, -, -, rfl⟩ := checkedOp_ok_of_binary (by decide) multiplied
  obtain ⟨-, -, -, rfl⟩ := checkedOp_ok_of_binary (by decide) divided
  refine ⟨decimals, ?_⟩
  simp only [exact, Market.cumulativeInterest]
  rw [Int.fdiv_eq_ediv_of_nonneg _ (precision_pos m.decimals).le]

/-! ## The round trips over the integers -/

theorem deposit_round_trip_bounds (t P C : Int) (hP : 0 < P) (hC : 0 < C) :
    t * P / C * C / P ≤ t ∧ (t - t * P / C * C / P) * P < C + P := by
  have floorBalance : t * P / C * C ≤ t * P := Int.ediv_mul_le _ (ne_of_gt hC)
  have ceilBalance : t * P < (t * P / C + 1) * C := Int.lt_ediv_add_one_mul_self _ hC
  have floorTokens : t * P / C * C / P * P ≤ t * P / C * C := Int.ediv_mul_le _ (ne_of_gt hP)
  have ceilTokens : t * P / C * C < (t * P / C * C / P + 1) * P :=
    Int.lt_ediv_add_one_mul_self _ hP
  generalize t * P / C = b at *
  generalize b * C / P = back at *
  constructor
  · exact le_of_mul_le_mul_right (le_trans floorTokens floorBalance) hP
  · nlinarith

theorem borrow_round_trip_bounds (t P C : Int) (hP : 0 < P) (hC : 0 < C) :
    t ≤ -(-((t * P / C + 1) * C) / P) := by
  have ceilBalance : t * P < (t * P / C + 1) * C := Int.lt_ediv_add_one_mul_self _ hC
  have floorTokens : -((t * P / C + 1) * C) / P * P ≤ -((t * P / C + 1) * C) :=
    Int.ediv_mul_le _ (ne_of_gt hP)
  generalize (t * P / C + 1) * C = owed at *
  generalize -owed / P = back at *
  nlinarith

/-! ## The round trips of the kernel -/

/-- Converting a token amount to a scaled balance and back favours the protocol. A deposit is
never over-credited and comes back short by less than `C / 10^(19 - decimals) + 1` tokens. A
borrow rounded up is never under-charged once `t · 10^(19 - decimals)` reaches the cumulative
interest `C`; below that its balance is zero, which rounding up leaves alone, and it comes back as
nothing. -/
theorem scaled_round_trip_favours_protocol (m : Market) (t : Int) :
    (∀ b back, scaledBalance (.int t) m .deposits (.bool false) = .ok b →
      tokenAmount (.int b) m .deposits = .ok back →
      back ≤ t ∧ ((t - back : Int) : ℚ) <
        (m.cumulativeDepositInterest : ℚ) / 10 ^ (19 - m.decimals).toNat + 1) ∧
    (∀ b back, scaledBalance (.int t) m .borrows (.bool true) = .ok b →
      tokenAmount (.int b) m .borrows = .ok back →
      (m.cumulativeBorrowInterest ≤ t * 10 ^ (19 - m.decimals).toNat → t ≤ back) ∧
      (t * 10 ^ (19 - m.decimals).toNat < m.cumulativeBorrowInterest → b = 0 ∧ back = 0)) := by
  have scale := precision_pos m.decimals
  constructor
  · intro b back toBalance toTokens
    obtain ⟨-, positive, -, balance⟩ := scaledBalance_eq_ok toBalance
    obtain ⟨-, rfl⟩ := tokenAmount_deposits_eq_ok toTokens
    simp only [Value.truthy, Bool.false_eq_true, false_and, if_false] at balance
    subst balance
    obtain ⟨below, shortfall⟩ := deposit_round_trip_bounds t _ _ scale positive
    refine ⟨below, ?_⟩
    -- the shortfall bound, divided through by the positive scale
    have scaleQ : (0 : ℚ) < 10 ^ (19 - m.decimals).toNat := by positivity
    rw [div_add_one scaleQ.ne', lt_div_iff₀ scaleQ]
    exact_mod_cast shortfall
  · intro b back toBalance toTokens
    obtain ⟨amount, positive, -, balance⟩ := scaledBalance_eq_ok toBalance
    obtain ⟨-, rfl⟩ := tokenAmount_borrows_eq_ok toTokens
    simp only [Value.truthy, true_and, Market.cumulativeInterest] at balance positive
    constructor
    · -- at least one scaled unit: the quotient is not zero, so the balance is raised by one
      intro large
      have nonzero : t * 10 ^ (19 - m.decimals).toNat / m.cumulativeBorrowInterest ≠ 0 := by
        have : 1 ≤ t * 10 ^ (19 - m.decimals).toNat / m.cumulativeBorrowInterest :=
          Int.le_ediv_of_mul_le positive (by simpa using large)
        omega
      rw [if_pos nonzero] at balance
      subst balance
      exact borrow_round_trip_bounds t _ _ scale positive
    · -- below one scaled unit the quotient is zero, and rounding up keeps a zero balance
      intro small
      have zero : t * 10 ^ (19 - m.decimals).toNat / m.cumulativeBorrowInterest = 0 :=
        Int.ediv_eq_zero_of_lt (Int.mul_nonneg amount scale.le) small
      simp only [zero, ne_eq, not_true_eq_false, if_false] at balance
      subst balance
      simp

/-- The market of the balance tests: six decimals, deposits at `1.05` and borrows at `1.1`, with
a million tokens lent out of each 1.25 million deposited. -/
def sampleMarket : Market :=
  { index := 0, name := "", status := .active, decimals := 6,
    cumulativeDepositInterest := 10500000000, cumulativeBorrowInterest := 11000000000,
    depositBalance := 1190476190476190, borrowBalance := 909090909090909,
    optimalUtilization := 800000, optimalBorrowRate := 100000, maxBorrowRate := 1000000,
    lastInterestTs := .int 1700000000, tokenDepositTwap := 0, tokenBorrowTwap := 0,
    utilizationTwap := 0, lastTwapTs := 1700000000, expiryTs := 0, orderStepSize := 1,
    orderTickSize := 0, minOrderSize := 0, oracleHistory := .empty, indexHistory := .empty }

theorem sample_round_trips :
    (999999 ≤ (1000000 : Int) ∧ (((1000000 - 999999 : Int)) : ℚ) <
      (sampleMarket.cumulativeDepositInterest : ℚ) / 10 ^ (19 - sampleMarket.decimals).toNat + 1) ∧
    (sampleMarket.cumulativeBorrowInterest ≤ 1000000 * 10 ^ (19 - sampleMarket.decimals).toNat →
      (1000000 : Int) ≤ 1000001) :=
  ⟨(scaled_round_trip_favours_protocol sampleMarket 1000000).1 952380952 999999 rfl rfl,
    ((scaled_round_trip_favours_protocol sampleMarket 1000000).2 909090910 1000001 rfl rfl).1⟩

/-- One token borrowed at nineteen decimals is worth less than a scaled unit: its balance stays
zero under rounding up, and it converts back to no tokens, less than was borrowed. -/
theorem unit_borrow_round_trip_undercharges :
    ¬ ∀ b back : Int,
      scaledBalance (.int 1) { sampleMarket with decimals := 19 } .borrows (.bool true) = .ok b →
      tokenAmount (.int b) { sampleMarket with decimals := 19 } .borrows = .ok back → 1 ≤ back := by
  intro charged
  have nothing := charged 0 0 rfl rfl
  omega

end MarginLending.Lending

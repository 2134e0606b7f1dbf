import MarginLending.Proofs.Balance
import MarginLending.Lending.Twap

/-! What one market update does.

An accrual reads the time since the last accrual (`now` must not be before it), then raises the
borrow multiplier by `C_b · r · e / year / 10^6 + 1` and the deposit multiplier by
`C_d · ⌊r · e · u / 10^6⌋ / year / 10^6`, both truncated, where `r` is the borrow rate, `e` the
elapsed time and `u` the utilization. Every quantity is a `u128`, so neither increment is
negative and the borrow increment is at least one; at a utilization of at most 100% the deposit
increment is smaller than the borrow increment whenever deposits do not carry the larger
multiplier. A TWAP update moves only the three daily TWAPs and takes the later of the two TWAP
times.
-/

set_option autoImplicit false

namespace MarginLending.Lending

open Arith Data

theorem utilization_nonneg {deposits borrows u : Int}
    (ok : utilization (.int deposits) (.int borrows) = .ok u) : 0 ≤ u := by
  simp only [utilization, checkedData_int, except_bind_eq_ok] at ok
  obtain ⟨numerator, -, ok⟩ := ok
  split at ok
  · cases ok
    split <;> decide
  · exact IntType.nonneg_of_contains rfl (checkedOp_ok_of_binary (by decide) ok).2.2.1

end MarginLending.Lending

namespace MarginLending.Market

open Arith Lending Data

variable {m m' : Market} {now : Value} {u rate e : Int} {a : Accrual}

theorem operand_eq_ok {v : Value} {n : Int} (ok : v.operand = .ok n) : v = .int n := by
  cases v <;> simp_all [Value.operand]

theorem elapsedSince_eq_ok {n : Int} (ok : m.elapsedSince (.int n) = .ok e) :
    ∃ last, m.lastInterestTs = .int last ∧ e = n - last ∧ 0 ≤ e := by
  simp only [elapsedSince, Value.index_int, except_bind_eq_ok, Except.ok.injEq,
    exists_eq_left'] at ok
  split at ok
  · simp [throw, throwThe, MonadExceptOf.throw, bind, Except.bind] at ok
  · simp only [checkedData, except_bind_eq_ok, Value.operand_int, Except.ok.injEq,
      exists_eq_left'] at ok
    obtain ⟨last, operand, difference⟩ := ok
    obtain ⟨-, -, elapsed, rfl⟩ := checkedOp_ok_of_binary (by decide) difference
    exact ⟨last, operand_eq_ok operand, rfl, IntType.nonneg_of_contains rfl elapsed⟩

theorem elapsedSince_index (ok : m.elapsedSince now = .ok e) :
    ∃ n, now.index = .ok n ∧ IntType.u64.Contains n := by
  simp only [elapsedSince, except_bind_eq_ok] at ok
  obtain ⟨n, index, rest⟩ := ok
  refine ⟨n, index, ?_⟩
  split at rest
  · cases rest
  · simpa using ‹¬¬ IntType.u64.Contains n›

theorem accrualAt_eq_ok (ok : m.accrualAt u rate now = .ok a) :
    ∃ elapsed, m.elapsedSince now = .ok elapsed ∧ 0 ≤ rate * elapsed ∧ 0 ≤ u ∧
      0 ≤ m.cumulativeDepositInterest ∧ 0 ≤ m.cumulativeBorrowInterest ∧
      a.borrows = m.cumulativeBorrowInterest * (rate * elapsed) / secondsPerYear /
        utilizationPrecision + 1 ∧
      a.deposits = m.cumulativeDepositInterest * (rate * elapsed * u / utilizationPrecision) /
        secondsPerYear / utilizationPrecision := by
  simp only [accrualAt, except_bind_eq_ok] at ok
  obtain ⟨elapsed, since, periodBorrow, borrowRate, scaled, byUtilization, periodDeposit,
    perMillion, borrowProduct, borrowMultiplied, borrowYear, borrowPerYear, borrowRaw,
    borrowPerMillion, borrows, borrowsRaised, depositProduct, depositMultiplied, depositYear,
    depositPerYear, deposits, depositPerMillion, result⟩ := ok
  obtain ⟨-, -, rfl⟩ := checkedOp_mul_unsigned rfl borrowRate
  obtain ⟨periodNonneg, utilNonneg, rfl⟩ := checkedOp_mul_unsigned rfl byUtilization
  obtain ⟨-, -, rfl⟩ := checkedOp_div_unsigned rfl perMillion
  obtain ⟨borrowNonneg, -, rfl⟩ := checkedOp_mul_unsigned rfl borrowMultiplied
  obtain ⟨-, -, rfl⟩ := checkedOp_div_unsigned rfl borrowPerYear
  obtain ⟨-, -, rfl⟩ := checkedOp_div_unsigned rfl borrowPerMillion
  obtain ⟨-, -, rfl⟩ := checkedOp_add_unsigned rfl borrowsRaised
  obtain ⟨depositNonneg, -, rfl⟩ := checkedOp_mul_unsigned rfl depositMultiplied
  obtain ⟨-, -, rfl⟩ := checkedOp_div_unsigned rfl depositPerYear
  obtain ⟨-, -, rfl⟩ := checkedOp_div_unsigned rfl depositPerMillion
  simp only [pure, Except.pure, Except.ok.injEq] at result
  subst result
  exact ⟨elapsed, since, periodNonneg, utilNonneg, depositNonneg, borrowNonneg, rfl, rfl⟩

theorem accruedInterest_eq_ok (ok : m.accruedInterest now = .ok a) :
    ∃ u, m.utilization = .ok u ∧
      (u = 0 ∧ a = ⟨0, 0⟩ ∨
        u ≠ 0 ∧ ∃ rate, m.borrowRate (.int u) = .ok rate ∧ m.accrualAt u rate now = .ok a) := by
  simp only [accruedInterest, except_bind_eq_ok] at ok
  obtain ⟨u, util, rest⟩ := ok
  refine ⟨u, util, ?_⟩
  split at rest
  · simp only [pure, Except.pure, Except.ok.injEq] at rest
    exact .inl ⟨‹_›, rest.symm⟩
  · simp only [except_bind_eq_ok] at rest
    exact .inr ⟨‹_›, rest⟩

theorem utilization_nonneg (util : m.utilization = .ok u) : 0 ≤ u := by
  simp only [Market.utilization, except_bind_eq_ok] at util
  obtain ⟨⟨deposits, borrows⟩, -, util⟩ := util
  exact Lending.utilization_nonneg util

/-! ## The increments -/

theorem accrualAt_increments (ok : m.accrualAt u rate now = .ok a) :
    0 ≤ a.deposits ∧ 0 < a.borrows := by
  obtain ⟨elapsed, -, period, util, deposit, borrow, borrows, deposits⟩ := accrualAt_eq_ok ok
  have share : 0 ≤ rate * elapsed * u / utilizationPrecision :=
    Int.ediv_nonneg (Int.mul_nonneg period util) (by decide)
  constructor
  · rw [deposits]
    exact Int.ediv_nonneg (Int.ediv_nonneg (Int.mul_nonneg deposit share) (by decide)) (by decide)
  · have : 0 ≤ m.cumulativeBorrowInterest * (rate * elapsed) / secondsPerYear /
        utilizationPrecision :=
      Int.ediv_nonneg (Int.ediv_nonneg (Int.mul_nonneg borrow period) (by decide)) (by decide)
    omega

/-- At a utilization of at most 100% the deposits' share of a period's rate is at most the
borrows' share, so with the smaller multiplier deposits gain less than borrows. -/
theorem accrualAt_deposits_lt_borrows (ok : m.accrualAt u rate now = .ok a)
    (full : u ≤ utilizationPrecision)
    (ordered : m.cumulativeDepositInterest ≤ m.cumulativeBorrowInterest) :
    a.deposits < a.borrows := by
  obtain ⟨elapsed, -, period, util, deposit, -, borrows, deposits⟩ := accrualAt_eq_ok ok
  have share : rate * elapsed * u / utilizationPrecision ≤ rate * elapsed := by
    calc rate * elapsed * u / utilizationPrecision
        ≤ rate * elapsed * utilizationPrecision / utilizationPrecision :=
          Int.ediv_le_ediv (by decide) (Int.mul_le_mul_of_nonneg_left full period)
      _ = rate * elapsed := Int.mul_ediv_cancel _ (by decide)
  have shareNonneg : 0 ≤ rate * elapsed * u / utilizationPrecision :=
    Int.ediv_nonneg (Int.mul_nonneg period util) (by decide)
  have product : m.cumulativeDepositInterest * (rate * elapsed * u / utilizationPrecision) ≤
      m.cumulativeBorrowInterest * (rate * elapsed) :=
    Int.mul_le_mul ordered share shareNonneg (le_trans deposit ordered)
  have truncated := Int.ediv_le_ediv (by decide : (0 : Int) < utilizationPrecision)
    (Int.ediv_le_ediv (by decide : (0 : Int) < secondsPerYear) product)
  omega

theorem accruedInterest_nonneg (ok : m.accruedInterest now = .ok a) :
    0 ≤ a.deposits ∧ 0 ≤ a.borrows := by
  obtain ⟨u, -, ⟨-, rfl⟩ | ⟨-, rate, -, accrual⟩⟩ := accruedInterest_eq_ok ok
  · exact ⟨le_refl 0, le_refl 0⟩
  · obtain ⟨deposits, borrows⟩ := accrualAt_increments accrual
    exact ⟨deposits, borrows.le⟩

theorem accruedInterest_of_used (ok : m.accruedInterest now = .ok a)
    (util : m.utilization = .ok u) (used : u ≠ 0) :
    ∃ rate, m.borrowRate (.int u) = .ok rate ∧ m.accrualAt u rate now = .ok a := by
  obtain ⟨u', util', rest⟩ := accruedInterest_eq_ok ok
  -- the utilization is computed from the market alone, so both readings agree
  obtain rfl : u' = u := by
    rw [util] at util'
    exact (Except.ok.inj util').symm
  rcases rest with ⟨idle, -⟩ | ⟨-, accrual⟩
  · exact absurd idle used
  · exact accrual

theorem accruedInterest_borrows_pos (ok : m.accruedInterest now = .ok a)
    (util : m.utilization = .ok u) (used : u ≠ 0) : 0 < a.borrows := by
  obtain ⟨rate, -, accrual⟩ := accruedInterest_of_used ok util used
  exact (accrualAt_increments accrual).2

theorem accruedInterest_deposits_lt_borrows (ok : m.accruedInterest now = .ok a)
    (util : m.utilization = .ok u) (used : 0 < u) (full : u ≤ utilizationPrecision)
    (ordered : m.cumulativeDepositInterest ≤ m.cumulativeBorrowInterest) :
    a.deposits < a.borrows := by
  obtain ⟨rate, -, accrual⟩ := accruedInterest_of_used ok util used.ne'
  exact accrualAt_deposits_lt_borrows accrual full ordered

/-! ## Accrual -/

/-- An accrual either finds no time elapsed and leaves the market alone, or adds the period's
increments to both multipliers and records `now` as the last accrual time. -/
theorem accrue_eq_ok (ok : m.accrue now = .ok m') :
    ∃ elapsed, m.elapsedSince now = .ok elapsed ∧
      (elapsed = 0 ∧ m' = m ∨
        elapsed ≠ 0 ∧ ∃ a, m.accruedInterest now = .ok a ∧
          m' = { m with
            cumulativeDepositInterest := m.cumulativeDepositInterest + a.deposits
            cumulativeBorrowInterest := m.cumulativeBorrowInterest + a.borrows
            lastInterestTs := now }) := by
  simp only [accrue, except_bind_eq_ok] at ok
  obtain ⟨elapsed, since, rest⟩ := ok
  refine ⟨elapsed, since, ?_⟩
  split at rest
  · simp only [pure, Except.pure, Except.ok.injEq] at rest
    exact .inl ⟨‹_›, rest.symm⟩
  · simp only [except_bind_eq_ok] at rest
    obtain ⟨a, accrued, deposit, raisedDeposit, borrow, raisedBorrow, result⟩ := rest
    obtain ⟨-, -, rfl⟩ := checkedOp_add_unsigned rfl raisedDeposit
    obtain ⟨-, -, rfl⟩ := checkedOp_add_unsigned rfl raisedBorrow
    simp only [pure, Except.pure, Except.ok.injEq] at result
    exact .inr ⟨‹_›, a, accrued, result.symm⟩

theorem accrue_bounds (ok : m.accrue now = .ok m') :
    m' = m ∨ ∃ deposit borrow n, now.index = .ok n ∧ IntType.u64.Contains n ∧
      IntType.u128.Contains deposit ∧ IntType.u128.Contains borrow ∧
      m' = { m with
        cumulativeDepositInterest := deposit
        cumulativeBorrowInterest := borrow
        lastInterestTs := now } := by
  simp only [accrue, except_bind_eq_ok] at ok
  obtain ⟨elapsed, since, rest⟩ := ok
  split at rest
  · simp only [pure, Except.pure, Except.ok.injEq] at rest
    exact .inl rest.symm
  · simp only [except_bind_eq_ok] at rest
    obtain ⟨a, -, deposit, raisedDeposit, borrow, raisedBorrow, result⟩ := rest
    obtain ⟨n, index, time⟩ := elapsedSince_index since
    simp only [pure, Except.pure, Except.ok.injEq] at result
    exact .inr ⟨deposit, borrow, n, index, time,
      (checkedOp_ok_of_binary (by decide) raisedDeposit).2.2.1,
      (checkedOp_ok_of_binary (by decide) raisedBorrow).2.2.1, result.symm⟩

/-- An accrual writes the two multipliers and the last accrual time, and nothing else. -/
theorem accrue_frame (ok : m.accrue now = .ok m') :
    ∃ deposit borrow time, m' = { m with
      cumulativeDepositInterest := deposit
      cumulativeBorrowInterest := borrow
      lastInterestTs := time } := by
  obtain ⟨-, -, ⟨-, rfl⟩ | ⟨-, a, -, rfl⟩⟩ := accrue_eq_ok ok
  · exact ⟨_, _, _, rfl⟩
  · exact ⟨_, _, _, rfl⟩

theorem accrue_interest_mono (ok : m.accrue now = .ok m') :
    m.cumulativeDepositInterest ≤ m'.cumulativeDepositInterest ∧
      m.cumulativeBorrowInterest ≤ m'.cumulativeBorrowInterest := by
  obtain ⟨-, -, ⟨-, rfl⟩ | ⟨-, a, accrued, rfl⟩⟩ := accrue_eq_ok ok
  · exact ⟨le_refl _, le_refl _⟩
  · obtain ⟨deposits, borrows⟩ := accruedInterest_nonneg accrued
    exact ⟨by simp only; omega, by simp only; omega⟩

theorem accrue_time {n : Int} (ok : m.accrue (.int n) = .ok m') :
    ∃ last, m.lastInterestTs = .int last ∧ last ≤ n ∧ m'.lastInterestTs = .int n := by
  obtain ⟨elapsed, since, rest⟩ := accrue_eq_ok ok
  obtain ⟨last, stored, rfl, nonneg⟩ := elapsedSince_eq_ok since
  refine ⟨last, stored, by omega, ?_⟩
  rcases rest with ⟨idle, rfl⟩ | ⟨-, a, -, rfl⟩
  · rw [stored, show last = n by omega]
  · rfl

theorem accrue_borrow_lt {n last : Int} (ok : m.accrue (.int n) = .ok m')
    (stored : m.lastInterestTs = .int last) (later : last < n)
    (util : m.utilization = .ok u) (used : u ≠ 0) :
    m.cumulativeBorrowInterest < m'.cumulativeBorrowInterest := by
  obtain ⟨elapsed, since, rest⟩ := accrue_eq_ok ok
  obtain ⟨last', stored', rfl, -⟩ := elapsedSince_eq_ok since
  rw [stored] at stored'
  cases stored'
  -- time has passed, so the accrual cannot take its idle branch
  rcases rest with ⟨idle, -⟩ | ⟨-, a, accrued, rfl⟩
  · omega
  · have := accruedInterest_borrows_pos accrued util used
    simp only
    omega

theorem accrue_ordered (ok : m.accrue now = .ok m')
    (ordered : m.cumulativeDepositInterest ≤ m.cumulativeBorrowInterest)
    (full : ∀ u, m.utilization = .ok u → u ≤ utilizationPrecision) :
    m'.cumulativeDepositInterest ≤ m'.cumulativeBorrowInterest := by
  obtain ⟨-, -, ⟨-, rfl⟩ | ⟨-, a, accrued, rfl⟩⟩ := accrue_eq_ok ok
  · exact ordered
  · -- an idle market accrues nothing; a used one accrues less on deposits than on borrows
    obtain ⟨u, util, ⟨-, rfl⟩ | ⟨used, -⟩⟩ := accruedInterest_eq_ok accrued
    · simpa using ordered
    · have nonneg := (accruedInterest_nonneg accrued).1
      have positive : 0 < u := lt_of_le_of_ne (utilization_nonneg util) (Ne.symm used)
      have less := accruedInterest_deposits_lt_borrows accrued util positive (full u util) ordered
      simp only
      omega

/-! ## TWAP statistics -/

theorem updateTwapStats_eq_ok {n : Int} (ok : m.updateTwapStats (.int n) = .ok m') :
    ∃ deposits borrows util, m' = { m with
      tokenDepositTwap := deposits
      tokenBorrowTwap := borrows
      utilizationTwap := util
      lastTwapTs := max n m.lastTwapTs } := by
  simp only [updateTwapStats, except_bind_eq_ok, Value.largerOf_int, Except.ok.injEq,
    exists_eq_left', castData_int] at ok
  obtain ⟨-, -, -, -, deposits, -, borrows, -, util, -, time, cast, result⟩ := ok
  obtain ⟨rfl, -⟩ := cast_eq_ok cast
  simp only [pure, Except.pure, Except.ok.injEq] at result
  exact ⟨deposits, borrows, util, result.symm⟩

theorem statTwap_contains {current last r : Int} (ok : m.statTwap now current last = .ok r) :
    IntType.u128.Contains r := by
  simp only [statTwap, except_bind_eq_ok] at ok
  obtain ⟨-, -, -, -, average, -, narrowed⟩ := ok
  obtain ⟨rfl, member⟩ := cast_eq_ok narrowed
  exact member

theorem updateTwapStats_bounds (ok : m.updateTwapStats now = .ok m') :
    ∃ deposits borrows util time, IntType.u128.Contains deposits ∧
      IntType.u128.Contains borrows ∧ IntType.u128.Contains util ∧ IntType.u64.Contains time ∧
      m' = { m with
        tokenDepositTwap := deposits
        tokenBorrowTwap := borrows
        utilizationTwap := util
        lastTwapTs := time } := by
  simp only [updateTwapStats, except_bind_eq_ok] at ok
  obtain ⟨_, -, _, -, deposits, depositTwap, borrows, borrowTwap, util, utilTwap, _, -, time,
    stamp, result⟩ := ok
  simp only [castData, except_bind_eq_ok] at stamp
  obtain ⟨_, -, narrowed⟩ := stamp
  obtain ⟨rfl, member⟩ := cast_eq_ok narrowed
  simp only [pure, Except.pure, Except.ok.injEq] at result
  exact ⟨deposits, borrows, util, _, statTwap_contains depositTwap, statTwap_contains borrowTwap,
    statTwap_contains utilTwap, member, result.symm⟩

end MarginLending.Market

import MarginLending.Proofs.MarketSnapshot

/-! Interest accrual at a time that cannot be accrued to.

A time is accrued to only when it is a `u64` at or after the last accrual. Applying interest
looks at the time first: a time outside `u64` does not cast, and an earlier one underflows the
`u64` difference. Computing the interest looks at it last. It computes the market's utilization,
returns no interest at zero utilization, and computes the borrow rate before it reads the time.
So it refuses a bad time as applying interest does only at a utilization that is not zero and a
rate that succeeds; an idle market yields no interest at any time, even before the last accrual
or at a negative time, and a failing utilization or rate fails first.
-/

set_option autoImplicit false

namespace MarginLending.Market

open Arith Lending Data

/-- How a time `n` that is not a `u64` at or after the last accrual `last` is refused: a time
outside `u64` does not cast, an earlier one underflows the difference. -/
def timeRefusal (last n : Int) : Failure :=
  if IntType.u64.Contains n then .arith ⟨.sub, IntType.u64, n, last, .underflow⟩
  else .timestamp n

variable {m : Market} {now : Value} {e : Failure}

theorem elapsedSince_refuses {last n : Int} (stamp : m.lastInterestTs = .int last)
    (valid : IntType.u64.Contains last) (bad : ¬ IntType.u64.Contains n ∨ n < last) :
    m.elapsedSince (.int n) = .error (timeRefusal last n) := by
  by_cases cast : IntType.u64.Contains n
  · have before : n < last := bad.resolve_left (not_not_intro cast)
    have underflow : checkedOp IntType.u64 .sub n last =
        .error (.arith ⟨.sub, IntType.u64, n, last, .underflow⟩) :=
      checkedOp_underflow (by decide) cast valid (fun divides => nomatch divides)
        (show n - last < IntType.u64.min by simp; omega)
    simp [elapsedSince, timeRefusal, cast, stamp, underflow, bind, Except.bind]
  · simp [elapsedSince, timeRefusal, cast, throw, throwThe, MonadExceptOf.throw, bind,
      Except.bind]

theorem accrue_of_elapsed_error (refused : m.elapsedSince now = .error e) :
    m.accrue now = .error e := by
  simp [accrue, refused, bind, Except.bind]

theorem accrualAt_of_elapsed_error {u rate : Int} (refused : m.elapsedSince now = .error e) :
    m.accrualAt u rate now = .error e := by
  simp [accrualAt, refused, bind, Except.bind]

/-! ## Computing the interest, step by step -/

theorem accruedInterest_idle (idle : m.utilization = .ok 0) :
    m.accruedInterest now = .ok ⟨0, 0⟩ := by
  simp [accruedInterest, idle, bind, Except.bind, pure, Except.pure]

theorem accruedInterest_of_utilization_error (failed : m.utilization = .error e) :
    m.accruedInterest now = .error e := by
  simp [accruedInterest, failed, bind, Except.bind]

theorem accruedInterest_of_rate_error {u : Int} (used : m.utilization = .ok u) (busy : u ≠ 0)
    (failed : m.borrowRate (.int u) = .error e) : m.accruedInterest now = .error e := by
  simp [accruedInterest, used, busy, failed, bind, Except.bind]

theorem accruedInterest_of_rate {u rate : Int} (used : m.utilization = .ok u) (busy : u ≠ 0)
    (priced : m.borrowRate (.int u) = .ok rate) :
    m.accruedInterest now = m.accrualAt u rate now := by
  simp [accruedInterest, used, busy, priced, bind, Except.bind]

/-- Interest at a bad time, for a market whose last accrual time is a `u64` integer, as the
reader makes it. Applying interest refuses a time outside `u64` as a timestamp that does not
cast and an earlier one as a `u64` underflow. Computing the interest gives the same refusal at a
utilization that is not zero with a borrow rate that succeeds; at zero utilization it returns no
interest, and a utilization or a rate that fails makes it fail with that failure instead. -/
theorem bad_accrual_time_refusals (m : Market) (last n : Int)
    (stamp : m.lastInterestTs = .int last) (valid : IntType.u64.Contains last)
    (bad : ¬ IntType.u64.Contains n ∨ n < last) :
    m.accrue (.int n) = .error (timeRefusal last n) ∧
    (∀ u rate, m.utilization = .ok u → u ≠ 0 → m.borrowRate (.int u) = .ok rate →
      m.accruedInterest (.int n) = .error (timeRefusal last n)) ∧
    (m.utilization = .ok 0 → m.accruedInterest (.int n) = .ok ⟨0, 0⟩) ∧
    (∀ f, m.utilization = .error f → m.accruedInterest (.int n) = .error f) ∧
    (∀ u f, m.utilization = .ok u → u ≠ 0 → m.borrowRate (.int u) = .error f →
      m.accruedInterest (.int n) = .error f) := by
  have refused := elapsedSince_refuses stamp valid bad
  refine ⟨accrue_of_elapsed_error refused, fun u rate used busy priced => ?_,
    accruedInterest_idle, fun f failed => accruedInterest_of_utilization_error failed,
    fun u f used busy failed => accruedInterest_of_rate_error used busy failed⟩
  rw [accruedInterest_of_rate used busy priced]
  exact accrualAt_of_elapsed_error refused

theorem minimal_market_bad_time_refusals :
    minimalMarket.accrue (.int (-1)) = .error (timeRefusal 0 (-1)) ∧
    (∀ u rate, minimalMarket.utilization = .ok u → u ≠ 0 →
      minimalMarket.borrowRate (.int u) = .ok rate →
      minimalMarket.accruedInterest (.int (-1)) = .error (timeRefusal 0 (-1))) ∧
    (minimalMarket.utilization = .ok 0 →
      minimalMarket.accruedInterest (.int (-1)) = .ok ⟨0, 0⟩) ∧
    (∀ f, minimalMarket.utilization = .error f →
      minimalMarket.accruedInterest (.int (-1)) = .error f) ∧
    (∀ u f, minimalMarket.utilization = .ok u → u ≠ 0 →
      minimalMarket.borrowRate (.int u) = .error f →
      minimalMarket.accruedInterest (.int (-1)) = .error f) :=
  bad_accrual_time_refusals minimalMarket 0 (-1) rfl (by decide) (.inl (by decide))

/-- The minimal market holds no balances, so its utilization is zero. At the time `-1` applying
interest refuses the time as a timestamp that does not cast, while computing the interest returns
none. -/
theorem idle_market_interest_ignores_time :
    minimalMarket.accrue (.int (-1)) = .error (.timestamp (-1)) ∧
      minimalMarket.accruedInterest (.int (-1)) = .ok ⟨0, 0⟩ :=
  ⟨by rfl, by rfl⟩

end MarginLending.Market

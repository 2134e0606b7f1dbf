import MarginLending.Proofs.TwapRange

/-! Interest accrual never divides by zero.

Every division of an accrual is by a divisor that is not zero on the path that reaches it. The
token amounts divide by `10^(19 - decimals)`, a power. The utilization divides by the deposits only
after testing them against zero. The borrow rate divides by the kink below it and by the room
`10^6 - kink` above it: the room is positive because the kink lies below 100%, and the kink is
reached only at a positive utilization not above it, because accrual returns early at zero
utilization. The remaining divisors are the precision `10^6` and the seconds of a year.

The early return is what guards the kink: at a kink of zero the borrow rate at zero utilization
does divide by zero.
-/

set_option autoImplicit false

namespace MarginLending

open Arith Data

namespace FailsOnly

variable {ε α β : Type} {Q : ε → Prop}

theorem bind_of_forall {x : Except ε α} {f : α → Except ε β} (hx : FailsOnly Q x)
    (hf : ∀ a, FailsOnly Q (f a)) : FailsOnly Q (x >>= f) :=
  FailsOnly.bind hx fun a _ => hf a

end FailsOnly

/-! ## Steps that never divide -/

theorem Data.Value.operand_failsOnly (v : Value) :
    FailsOnly (fun e => ¬ e.DividesByZero) v.operand := by
  rintro e failed ⟨op, t, a, b, rfl⟩
  cases v <;> cases failed

theorem Data.Value.index_failsOnly (v : Value) :
    FailsOnly (fun e => ¬ e.DividesByZero) v.index := by
  rintro e failed ⟨op, t, a, b, rfl⟩
  cases v <;> cases failed

namespace Arith

variable {t : IntType} {op : ArithOp}

theorem checkedData_failsOnly {lhs rhs : Value}
    (nonzero : ∀ b, rhs.operand = .ok b → op.divides → b ≠ 0) :
    FailsOnly (fun e => ¬ e.DividesByZero) (checkedData t op lhs rhs) := by
  unfold checkedData
  refine FailsOnly.bind_of_forall lhs.operand_failsOnly fun a => ?_
  refine FailsOnly.bind rhs.operand_failsOnly fun b read => ?_
  exact checkedOp_failsOnly (nonzero b read)

theorem checkedOp_failsOnly_of_not_divides (plain : op.divides = false) (a b : Int) :
    FailsOnly (fun e => ¬ e.DividesByZero) (checkedOp t op a b) :=
  checkedOp_failsOnly fun divides => absurd (plain ▸ divides) Bool.false_ne_true

variable {β : Type} {a b : Int} {f : Int → Except Failure β}

-- The accrual formulas are chains of checked steps; these two take one step off the chain.
theorem checkedOp_bind_failsOnly (nonzero : op.divides → b ≠ 0)
    (rest : ∀ r, FailsOnly (fun e => ¬ e.DividesByZero) (f r)) :
    FailsOnly (fun e => ¬ e.DividesByZero) (checkedOp t op a b >>= f) :=
  FailsOnly.bind_of_forall (checkedOp_failsOnly nonzero) rest

theorem plainOp_bind_failsOnly (plain : op.divides = false)
    (rest : ∀ r, FailsOnly (fun e => ¬ e.DividesByZero) (f r)) :
    FailsOnly (fun e => ¬ e.DividesByZero) (checkedOp t op a b >>= f) :=
  FailsOnly.bind_of_forall (checkedOp_failsOnly_of_not_divides plain a b) rest

end Arith

/-! ## Token amounts and utilization -/

namespace Lending

theorem precisionIncrease_failsOnly (decimals : Value) :
    FailsOnly (fun e => ¬ e.DividesByZero) (precisionIncrease decimals) := by
  unfold precisionIncrease
  refine FailsOnly.bind_of_forall (checkedData_failsOnly fun _ _ divides => nomatch divides)
    fun e => ?_
  exact checkedOp_failsOnly_of_not_divides rfl 10 e

theorem tokenAmount_failsOnly (balance : Value) (m : Market) (kind : BalanceKind) :
    FailsOnly (fun e => ¬ e.DividesByZero) (tokenAmount balance m kind) := by
  unfold tokenAmount
  refine FailsOnly.bind (precisionIncrease_failsOnly _) fun decrease scale => ?_
  have positive : 0 < decrease := by
    obtain ⟨-, rfl⟩ := precisionIncrease_eq_ok scale
    exact precision_pos m.decimals
  refine FailsOnly.bind_of_forall (checkedData_failsOnly fun _ _ divides => nomatch divides)
    fun scaled => ?_
  cases kind with
  | deposits => exact checkedOp_failsOnly fun _ => positive.ne'
  | borrows => exact checkedOp_failsOnly fun _ => positive.ne'

theorem utilization_failsOnly (deposits borrows : Int) :
    FailsOnly (fun e => ¬ e.DividesByZero) (utilization (.int deposits) (.int borrows)) := by
  unfold utilization
  refine FailsOnly.bind_of_forall (checkedData_failsOnly fun _ _ divides => nomatch divides)
    fun numerator => ?_
  simp only [Value.equals_int]
  split
  · exact FailsOnly.ok _
  · next tested =>
    rw [checkedData_int]
    exact checkedOp_failsOnly fun _ zero => tested (decide_eq_true zero)

end Lending

namespace Market

open Lending

variable {m : Market}

theorem tokenAmounts_failsOnly (m : Market) :
    FailsOnly (fun e => ¬ e.DividesByZero) m.tokenAmounts := by
  unfold tokenAmounts
  refine FailsOnly.bind_of_forall (tokenAmount_failsOnly _ m .deposits) fun deposits => ?_
  refine FailsOnly.bind_of_forall (tokenAmount_failsOnly _ m .borrows) fun borrows => ?_
  exact FailsOnly.ok _

theorem utilization_failsOnly (m : Market) :
    FailsOnly (fun e => ¬ e.DividesByZero) m.utilization := by
  unfold Market.utilization
  exact FailsOnly.bind_of_forall m.tokenAmounts_failsOnly fun amounts =>
    Lending.utilization_failsOnly amounts.1 amounts.2

/-- At a positive utilization the borrow rate never divides by zero when the kink lies below
100%: above the kink it divides by the room `10^6 - kink`, and it reaches the kink as a divisor
only when the utilization is at most the kink, hence the kink is positive. -/
theorem borrowRate_failsOnly (kink : m.optimalUtilization < utilizationPrecision) {u : Int}
    (positive : 0 < u) : FailsOnly (fun e => ¬ e.DividesByZero) (m.borrowRate (.int u)) := by
  have precision : utilizationPrecision ≠ 0 := by decide
  unfold borrowRate
  simp only [Value.compareBy_int, Value.holds_gt_int, checkedData_int, except_ok_bind]
  split
  · -- above the kink
    refine plainOp_bind_failsOnly rfl fun _ => ?_
    refine plainOp_bind_failsOnly rfl fun _ => ?_
    refine plainOp_bind_failsOnly rfl fun _ => ?_
    refine FailsOnly.bind (checkedOp_failsOnly_of_not_divides rfl _ _) fun room left => ?_
    have roomPositive : room ≠ 0 := by
      obtain ⟨-, -, -, rfl⟩ := checkedOp_ok_of_binary (by decide) left
      simp only [exact]
      omega
    refine checkedOp_bind_failsOnly (fun _ => roomPositive) fun _ => ?_
    refine plainOp_bind_failsOnly rfl fun _ => ?_
    refine checkedOp_bind_failsOnly (fun _ => precision) fun _ => ?_
    exact checkedOp_failsOnly_of_not_divides rfl _ _
  · -- at or below the kink, which is then positive
    next above =>
    have kinkPositive : m.optimalUtilization ≠ 0 := by
      simp only [decide_eq_true_eq] at above
      omega
    refine plainOp_bind_failsOnly rfl fun _ => ?_
    refine checkedOp_bind_failsOnly (fun _ => kinkPositive) fun _ => ?_
    refine plainOp_bind_failsOnly rfl fun _ => ?_
    exact checkedOp_failsOnly fun _ => precision

theorem elapsedSince_failsOnly (m : Market) (now : Value) :
    FailsOnly (fun e => ¬ e.DividesByZero) (m.elapsedSince now) := by
  unfold elapsedSince
  refine FailsOnly.bind_of_forall now.index_failsOnly fun n => ?_
  split
  · rintro e failed ⟨op, t, a, b, rfl⟩
    cases failed
  · show FailsOnly _ (checkedData IntType.u64 .sub (.int n) m.lastInterestTs)
    exact checkedData_failsOnly fun _ _ divides => nomatch divides

theorem accrualAt_failsOnly (m : Market) (u rate : Int) (now : Value) :
    FailsOnly (fun e => ¬ e.DividesByZero) (m.accrualAt u rate now) := by
  have precision : utilizationPrecision ≠ 0 := by decide
  have year : secondsPerYear ≠ 0 := by decide
  unfold accrualAt
  refine FailsOnly.bind_of_forall (m.elapsedSince_failsOnly now) fun _ => ?_
  refine plainOp_bind_failsOnly rfl fun _ => ?_
  refine plainOp_bind_failsOnly rfl fun _ => ?_
  refine checkedOp_bind_failsOnly (fun _ => precision) fun _ => ?_
  refine plainOp_bind_failsOnly rfl fun _ => ?_
  refine checkedOp_bind_failsOnly (fun _ => year) fun _ => ?_
  refine checkedOp_bind_failsOnly (fun _ => precision) fun _ => ?_
  refine plainOp_bind_failsOnly rfl fun _ => ?_
  refine plainOp_bind_failsOnly rfl fun _ => ?_
  refine checkedOp_bind_failsOnly (fun _ => year) fun _ => ?_
  refine checkedOp_bind_failsOnly (fun _ => precision) fun _ => ?_
  exact FailsOnly.ok _

/-- The interest of a market whose kink lies below 100% never divides by zero: the borrow rate
is computed only at a utilization that is not zero, and a utilization is never negative. -/
theorem accruedInterest_failsOnly (kink : m.optimalUtilization < utilizationPrecision)
    (now : Value) : FailsOnly (fun e => ¬ e.DividesByZero) (m.accruedInterest now) := by
  unfold accruedInterest
  refine FailsOnly.bind m.utilization_failsOnly fun u util => ?_
  split
  · exact FailsOnly.ok _
  · next busy =>
    have positive : 0 < u := lt_of_le_of_ne (utilization_nonneg util) (Ne.symm busy)
    refine FailsOnly.bind_of_forall (borrowRate_failsOnly kink positive) fun rate => ?_
    exact m.accrualAt_failsOnly u rate now

theorem accrue_failsOnly (kink : m.optimalUtilization < utilizationPrecision) (now : Value) :
    FailsOnly (fun e => ¬ e.DividesByZero) (m.accrue now) := by
  unfold accrue
  refine FailsOnly.bind_of_forall (m.elapsedSince_failsOnly now) fun elapsed => ?_
  split
  · exact FailsOnly.ok _
  · refine FailsOnly.bind_of_forall (accruedInterest_failsOnly kink now) fun _ => ?_
    refine plainOp_bind_failsOnly rfl fun _ => ?_
    refine plainOp_bind_failsOnly rfl fun _ => ?_
    exact FailsOnly.ok _

/-- Computing and applying interest never divide by zero on a market whose rate curve is well
formed, at any time given as any datum. No bound on the decimals is needed: decimals above 19
underflow the `u32` exponent before any division. -/
theorem accrual_never_divides_by_zero (m : Market) (curve : m.RateCurveOk) (now : Value) :
    (∀ e, m.accruedInterest now = .error e → ¬ e.DividesByZero) ∧
      ∀ e, m.accrue now = .error e → ¬ e.DividesByZero :=
  ⟨accruedInterest_failsOnly curve.1 now, accrue_failsOnly curve.1 now⟩

theorem minimal_market_accrual_never_divides_by_zero :
    minimalMarket.RateCurveOk ∧
      (∀ e, minimalMarket.accruedInterest (.int 3600) = .error e → ¬ e.DividesByZero) ∧
      ∀ e, minimalMarket.accrue (.int 3600) = .error e → ¬ e.DividesByZero :=
  ⟨by decide, accrual_never_divides_by_zero minimalMarket (by decide) (.int 3600)⟩

/-- The early return at zero utilization is what guards the kink: with the kink at zero, the
borrow rate at zero utilization divides the scaled optimal rate by the kink. -/
theorem borrowRate_at_zero_kink_divides_by_zero (zero : m.optimalUtilization = 0)
    (rate : IntType.u32.Contains m.optimalBorrowRate) :
    m.borrowRate (.int 0) = .error (.arith ⟨.div, IntType.u128,
      m.optimalBorrowRate * utilizationPrecision, 0, .divisionByZero⟩) := by
  have fits : ∀ v, 0 ≤ v → v ≤ 340282366920938463463374607431768211455 →
      IntType.u128.Contains v := fun _ low high => ⟨low, high⟩
  have range : 0 ≤ m.optimalBorrowRate ∧ m.optimalBorrowRate ≤ 4294967295 := by
    simpa [IntType.Contains] using rate
  have precision : utilizationPrecision = 1000000 := rfl
  have product : IntType.u128.Contains (m.optimalBorrowRate * utilizationPrecision) :=
    fits _ (by rw [precision]; omega) (by rw [precision]; omega)
  have scaled := checkedOp_mul_eq_ok (fits m.optimalBorrowRate range.1 (by omega))
    (fits utilizationPrecision (by decide) (by decide)) product
  have divided := checkedOp_eq_error
    (checked_zero_divisor (by decide) (rfl : ArithOp.div.divides = true) product)
  unfold borrowRate
  simp only [Value.compareBy_int, Value.holds_gt_int, zero, lt_self_iff_false, decide_false,
    Bool.false_eq_true, if_false, except_ok_bind, scaled, divided, except_error_bind]

end Market

end MarginLending

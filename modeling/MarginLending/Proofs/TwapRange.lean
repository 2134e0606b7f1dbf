import MarginLending.Proofs.MarketSnapshot

/-! Time-weighted averages stay within one unit of their two points.

The weighted average of two points is their mean truncated toward zero, which lies between
them, then moved by one toward the heavier weighted point when the second weight exceeds one.
The move compares the weighted points `p₁ · w₁` and `p₂ · w₂`, not the points, so a mean that
truncation left at one end of the hull can be pushed one unit past it: a TWAP lies within one
unit of the hull of the new price and the old TWAP, and no closer. Its one division is by the sum
of a non-negative and a positive weight, so it never divides by zero.

A market's daily TWAPs average amounts that are not negative, so the only negative value one
can take is `-1`, which the `u128` cast of the market update refuses.
-/

set_option autoImplicit false

namespace MarginLending

open Arith Data

/-! ## Failures of a computation -/

/-- Every failure of the computation satisfies `Q`. -/
def FailsOnly {ε α : Type} (Q : ε → Prop) (x : Except ε α) : Prop := ∀ e, x = .error e → Q e

namespace FailsOnly

variable {ε α β : Type} {Q : ε → Prop}

theorem ok (a : α) : FailsOnly Q (Except.ok a : Except ε α) := fun _ failed => nomatch failed

theorem bind {x : Except ε α} {f : α → Except ε β} (hx : FailsOnly Q x)
    (hf : ∀ a, x = .ok a → FailsOnly Q (f a)) : FailsOnly Q (x >>= f) := by
  intro e failed
  cases h : x with
  | error e' =>
    rw [h] at failed
    cases failed
    exact hx e h
  | ok a =>
    rw [h] at failed
    exact hf a h e failed

end FailsOnly

def Failure.DividesByZero (e : Failure) : Prop :=
  ∃ op t a b, e = .arith ⟨op, t, a, b, .divisionByZero⟩

namespace Arith

variable {t : IntType} {op : ArithOp} {a b : Int}

theorem checked_divisionByZero {f : Fault} (refused : checked t op a b = .error f)
    (zero : f.reason = .divisionByZero) : op.divides ∧ b = 0 := by
  unfold checked within at refused
  -- every refusal but the divisor check names another reason
  split at refused
  · cases refused
    cases zero
  split at refused
  · split at refused
    · cases refused
      cases zero
    split at refused
    · cases refused
      cases zero
    split at refused
    · cases refused
    · cases refused
      split at zero <;> cases zero
  split at refused
  · cases refused
    cases zero
  split at refused
  next divisor => exact divisor
  split at refused
  · cases refused
  · cases refused
    split at zero <;> cases zero

theorem checkedOp_failsOnly (nonzero : op.divides → b ≠ 0) :
    FailsOnly (fun e => ¬ e.DividesByZero) (checkedOp t op a b) := by
  rintro e failed ⟨op', t', a', b', rfl⟩
  cases h : checked t op a b with
  | ok r => simp [checkedOp, h, Except.mapError] at failed
  | error f =>
    simp only [checkedOp, h, Except.mapError, Except.error.injEq, Failure.arith.injEq] at failed
    obtain ⟨divides, zero⟩ := checked_divisionByZero h (by rw [failed])
    exact nonzero divides zero

theorem except_ok_bind {ε α β : Type} {a : α} {f : α → Except ε β} :
    (Except.ok a : Except ε α) >>= f = f a := rfl

theorem except_error_bind {ε α β : Type} {e : ε} {f : α → Except ε β} :
    (Except.error e : Except ε α) >>= f = .error e := rfl

theorem cast_of_contains {v : Int} (member : t.Contains v) : cast v t = .ok v := by
  simp [cast, member]

theorem cast_failsOnly (v : Int) (t : IntType) :
    FailsOnly (fun e => ¬ e.DividesByZero) (cast v t) := by
  rintro e failed ⟨op, t', a, b, rfl⟩
  unfold cast at failed
  split at failed <;> cases failed

end Arith

namespace Lending

/-! ## Weighted averages -/

def nudge (w₂ previous weighted : Int) : Int :=
  if 1 < w₂ then (if weighted < previous then -1 else if previous < weighted then 1 else 0) else 0

/-- The weighted average of two points in exact arithmetic: a zero weight picks the other point,
otherwise the mean truncated toward zero and nudged. -/
def averageOf (p₁ p₂ w₁ w₂ : Int) : Int :=
  if w₁ = 0 then p₂
  else if w₂ = 0 then p₁
  else (p₁ * w₁ + p₂ * w₂).tdiv (w₁ + w₂) + nudge w₂ (p₁ * w₁) (p₂ * w₂)

theorem nudge_mem (w₂ previous weighted : Int) :
    -1 ≤ nudge w₂ previous weighted ∧ nudge w₂ previous weighted ≤ 1 := by
  unfold nudge
  split_ifs <;> omega

theorem tdiv_mem_of_mul_le {s w lo hi : Int} (positive : 0 < w) (low : lo * w ≤ s)
    (high : s ≤ hi * w) : lo ≤ s.tdiv w ∧ s.tdiv w ≤ hi := by
  have split := Int.mul_tdiv_add_tmod s w
  have below := Int.lt_tmod_of_pos s positive
  have above := Int.tmod_lt_of_pos s positive
  constructor
  · by_contra under
    have : w * s.tdiv w ≤ w * (lo - 1) := Int.mul_le_mul_of_nonneg_left (by omega) positive.le
    have : w * (lo - 1) = lo * w - w := by rw [Int.mul_sub, Int.mul_one, Int.mul_comm]
    omega
  · by_contra beyond
    have : w * (hi + 1) ≤ w * s.tdiv w := Int.mul_le_mul_of_nonneg_left (by omega) positive.le
    have : w * (hi + 1) = hi * w + w := by rw [Int.mul_add, Int.mul_one, Int.mul_comm]
    omega

theorem weighted_sum_mem {p₁ p₂ w₁ w₂ : Int} (first : 0 ≤ w₁) (second : 0 ≤ w₂) :
    min p₁ p₂ * (w₁ + w₂) ≤ p₁ * w₁ + p₂ * w₂ ∧ p₁ * w₁ + p₂ * w₂ ≤ max p₁ p₂ * (w₁ + w₂) := by
  have low₁ := Int.mul_le_mul_of_nonneg_right (min_le_left p₁ p₂) first
  have low₂ := Int.mul_le_mul_of_nonneg_right (min_le_right p₁ p₂) second
  have high₁ := Int.mul_le_mul_of_nonneg_right (le_max_left p₁ p₂) first
  have high₂ := Int.mul_le_mul_of_nonneg_right (le_max_right p₁ p₂) second
  rw [Int.mul_add, Int.mul_add]
  omega

theorem tdiv_weighted_mem (p₁ p₂ : Int) {w₁ w₂ : Int} (first : 0 ≤ w₁) (second : 0 ≤ w₂)
    (positive : 0 < w₁ + w₂) :
    min p₁ p₂ ≤ (p₁ * w₁ + p₂ * w₂).tdiv (w₁ + w₂) ∧
      (p₁ * w₁ + p₂ * w₂).tdiv (w₁ + w₂) ≤ max p₁ p₂ :=
  tdiv_mem_of_mul_le positive (weighted_sum_mem first second).1 (weighted_sum_mem first second).2

theorem averageOf_mem (p₁ p₂ : Int) {w₁ w₂ : Int} (first : 0 ≤ w₁) (second : 0 < w₂) :
    min p₁ p₂ - 1 ≤ averageOf p₁ p₂ w₁ w₂ ∧ averageOf p₁ p₂ w₁ w₂ ≤ max p₁ p₂ + 1 := by
  unfold averageOf
  split_ifs with zero
  · omega
  · omega
  · have mean := tdiv_weighted_mem p₁ p₂ first second.le (by omega)
    have step := nudge_mem w₂ (p₁ * w₁) (p₂ * w₂)
    omega

theorem average_tail_eq_ok {previous weighted denominator n r : Int}
    (ok : (do
      let sum ← checkedOp IntType.i128 .add previous weighted
      let quotient ← checkedOp IntType.i128 .div sum denominator
      let average ← cast quotient IntType.i64
      checkedOp IntType.i64 .add average n) = .ok r) :
    r = (previous + weighted).tdiv denominator + n := by
  simp only [except_bind_eq_ok] at ok
  obtain ⟨sum, added, quotient, divided, average, narrowed, raised⟩ := ok
  obtain ⟨-, -, -, rfl⟩ := checkedOp_ok_of_binary (by decide) added
  obtain ⟨-, -, -, rfl⟩ := checkedOp_ok_of_binary (by decide) divided
  obtain ⟨rfl, -⟩ := cast_eq_ok narrowed
  obtain ⟨-, -, -, rfl⟩ := checkedOp_ok_of_binary (by decide) raised
  rfl

theorem weightedAverage_eq_ok {p₁ p₂ w₁ w₂ r : Int}
    (ok : weightedAverage (.int p₁) (.int p₂) (.int w₁) (.int w₂) = .ok r) :
    r = averageOf p₁ p₂ w₁ w₂ := by
  simp only [weightedAverage, checkedData_int, Value.equals_int, castData_int,
    Value.compareBy_int, Value.holds_gt_int, except_bind_eq_ok] at ok
  obtain ⟨sum, added, denominator, widened, previous, timesFirst, weighted, timesSecond, rest⟩ := ok
  obtain ⟨rfl, -⟩ := cast_eq_ok widened
  obtain ⟨-, -, -, rfl⟩ := checkedOp_ok_of_binary (by decide) added
  obtain ⟨-, -, -, rfl⟩ := checkedOp_ok_of_binary (by decide) timesFirst
  obtain ⟨-, -, -, rfl⟩ := checkedOp_ok_of_binary (by decide) timesSecond
  unfold averageOf
  by_cases first : w₁ = 0
  · simp only [first, decide_true, if_true] at rest ⊢
    exact (cast_eq_ok rest).1
  by_cases second : w₂ = 0
  · simp only [first, second, decide_true, decide_false, Bool.false_eq_true, if_true,
      if_false] at rest ⊢
    exact (cast_eq_ok rest).1
  simp only [first, second, decide_false, Bool.false_eq_true, if_false, except_bind_eq_ok,
    Except.ok.injEq, exists_eq_left'] at rest ⊢
  -- the nudge is decided before the quotient is taken
  unfold nudge
  by_cases nudging : 1 < w₂
  · simp only [nudging, decide_true, if_true, pure_bind] at rest ⊢
    exact average_tail_eq_ok rest
  · simp only [nudging, decide_false, Bool.false_eq_true, if_false, pure_bind] at rest ⊢
    exact average_tail_eq_ok rest

theorem weightedAverage_failsOnly {p₁ p₂ w₁ w₂ : Int} (nonzero : w₁ + w₂ ≠ 0) :
    FailsOnly (fun e => ¬ e.DividesByZero)
      (weightedAverage (.int p₁) (.int p₂) (.int w₁) (.int w₂)) := by
  simp only [weightedAverage, checkedData_int, Value.equals_int, castData_int,
    Value.compareBy_int, Value.holds_gt_int]
  refine FailsOnly.bind (checkedOp_failsOnly (fun d => nomatch d)) fun sum added => ?_
  refine FailsOnly.bind (cast_failsOnly _ _) fun denominator widened => ?_
  obtain ⟨-, -, -, rfl⟩ := checkedOp_ok_of_binary (by decide) added
  obtain ⟨rfl, -⟩ := cast_eq_ok widened
  refine FailsOnly.bind (checkedOp_failsOnly (fun d => nomatch d)) fun previous _ => ?_
  refine FailsOnly.bind (checkedOp_failsOnly (fun d => nomatch d)) fun weighted _ => ?_
  split
  · exact cast_failsOnly _ _
  split
  · exact cast_failsOnly _ _
  refine FailsOnly.bind (FailsOnly.ok _) fun nudging _ => ?_
  split <;>
  · refine FailsOnly.bind (FailsOnly.ok _) fun n _ => ?_
    refine FailsOnly.bind (checkedOp_failsOnly (fun d => nomatch d)) fun s _ => ?_
    refine FailsOnly.bind (checkedOp_failsOnly fun _ => nonzero) fun q _ => ?_
    refine FailsOnly.bind (cast_failsOnly _ _) fun a _ => ?_
    exact checkedOp_failsOnly (fun d => nomatch d)

theorem average_tail_ok {previous weighted denominator n : Int}
    (first : IntType.i128.Contains previous) (second : IntType.i128.Contains weighted)
    (sum : IntType.i128.Contains (previous + weighted))
    (divisor : IntType.i128.Contains denominator) (nonzero : denominator ≠ 0)
    (mean : IntType.i64.Contains ((previous + weighted).tdiv denominator))
    (step : IntType.i64.Contains n)
    (result : IntType.i64.Contains ((previous + weighted).tdiv denominator + n)) :
    (do
      let sum ← checkedOp IntType.i128 .add previous weighted
      let quotient ← checkedOp IntType.i128 .div sum denominator
      let average ← cast quotient IntType.i64
      checkedOp IntType.i64 .add average n) =
      Except.ok ((previous + weighted).tdiv denominator + n) := by
  have wide : IntType.i128.Contains ((previous + weighted).tdiv denominator) :=
    mean.widen (by decide) (by decide)
  have divided : checkedOp IntType.i128 .div (previous + weighted) denominator =
      .ok ((previous + weighted).tdiv denominator) :=
    checkedOp_eq_exact (by decide) sum divisor (fun _ => nonzero) wide
  simp only [checkedOp_add_eq_ok first second sum, divided, cast_of_contains mean,
    checkedOp_add_eq_ok mean step result, bind, Except.bind]

/-- A weighted average of two `i64` points under a weight that is not negative and a positive one,
whose sum is an `i64`, returns `averageOf` them when that fits an `i64`: the products of `i64`s
fit an `i128`. -/
theorem weightedAverage_eq_averageOf {p₁ p₂ w₁ w₂ : Int} (point₁ : IntType.i64.Contains p₁)
    (point₂ : IntType.i64.Contains p₂) (first : 0 ≤ w₁) (second : 0 < w₂)
    (sum : w₁ + w₂ ≤ IntType.i64.max) (result : IntType.i64.Contains (averageOf p₁ p₂ w₁ w₂)) :
    weightedAverage (.int p₁) (.int p₂) (.int w₁) (.int w₂) = .ok (averageOf p₁ p₂ w₁ w₂) := by
  have wide : ∀ v, IntType.i64.Contains v → IntType.i128.Contains v := fun _ narrow =>
    narrow.widen (by decide) (by decide)
  have range₁ := point₁
  simp only [IntType.Contains, IntType.i64_min, IntType.i64_max] at range₁
  have range₂ := point₂
  simp only [IntType.Contains, IntType.i64_min, IntType.i64_max] at range₂
  simp only [IntType.i64_max] at sum
  have weight₁ : IntType.i64.Contains w₁ := by
    simp only [IntType.Contains, IntType.i64_min, IntType.i64_max]
    omega
  have weight₂ : IntType.i64.Contains w₂ := by
    simp only [IntType.Contains, IntType.i64_min, IntType.i64_max]
    omega
  have total : IntType.i64.Contains (w₁ + w₂) := by
    simp only [IntType.Contains, IntType.i64_min, IntType.i64_max]
    omega
  -- an `i64` point times a weight in `[0, 2^63)` lies within `±2^126`
  have low₁ := Int.mul_le_mul_of_nonneg_right range₁.1 first
  have high₁ := Int.mul_le_mul_of_nonneg_right range₁.2 first
  have low₂ := Int.mul_le_mul_of_nonneg_right range₂.1 second.le
  have high₂ := Int.mul_le_mul_of_nonneg_right range₂.2 second.le
  have product₁ : IntType.i128.Contains (p₁ * w₁) := by
    simp only [IntType.Contains, IntType.i128_min, IntType.i128_max]
    omega
  have product₂ : IntType.i128.Contains (p₂ * w₂) := by
    simp only [IntType.Contains, IntType.i128_min, IntType.i128_max]
    omega
  have products : IntType.i128.Contains (p₁ * w₁ + p₂ * w₂) := by
    simp only [IntType.Contains, IntType.i128_min, IntType.i128_max]
    omega
  simp only [weightedAverage, checkedData_int, Value.equals_int, castData_int,
    Value.compareBy_int, Value.holds_gt_int, checkedOp_add_eq_ok weight₁ weight₂ total,
    cast_of_contains (wide _ total), checkedOp_mul_eq_ok (wide _ point₁) (wide _ weight₁) product₁,
    checkedOp_mul_eq_ok (wide _ point₂) (wide _ weight₂) product₂, cast_of_contains point₂,
    except_ok_bind]
  unfold averageOf at result ⊢
  by_cases zero : w₁ = 0
  · simp [zero]
  have mean := tdiv_weighted_mem p₁ p₂ first second.le (by omega)
  have inType : IntType.i64.Contains ((p₁ * w₁ + p₂ * w₂).tdiv (w₁ + w₂)) := by
    simp only [IntType.Contains, IntType.i64_min, IntType.i64_max]
    omega
  have step := nudge_mem w₂ (p₁ * w₁) (p₂ * w₂)
  have nudgeInType : IntType.i64.Contains (nudge w₂ (p₁ * w₁) (p₂ * w₂)) := by
    simp only [IntType.Contains, IntType.i64_min, IntType.i64_max]
    omega
  simp only [zero, second.ne', decide_false, Bool.false_eq_true, if_false] at result ⊢
  have tail := average_tail_ok product₁ product₂ products (wide _ total) (by omega) inType
    nudgeInType result
  -- the nudge is decided before the quotient is taken
  unfold nudge at tail ⊢
  by_cases nudging : 1 < w₂
  · simp only [nudging, decide_true, if_true, pure_bind] at tail ⊢
    exact tail
  · simp only [nudging, decide_false, Bool.false_eq_true, if_false, pure_bind] at tail ⊢
    exact tail

/-! ## TWAPs -/

theorem twap_eq_ok {p now l last period r : Int}
    (ok : twap (.int p) (.int now) (.int l) (.int last) (.int period) = .ok r) :
    r = averageOf p l (max 0 (now - last)) (max 1 (period - max 0 (now - last))) := by
  simp only [twap, checkedData_int, except_bind_eq_ok] at ok
  obtain ⟨elapsed, since, rest, left, averaged⟩ := ok
  obtain ⟨-, -, -, rfl⟩ := checkedOp_ok_of_binary (by decide) since
  obtain ⟨-, -, -, rfl⟩ := checkedOp_ok_of_binary (by decide) left
  exact weightedAverage_eq_ok averaged

theorem twap_failsOnly (p now l last period : Int) :
    FailsOnly (fun e => ¬ e.DividesByZero)
      (twap (.int p) (.int now) (.int l) (.int last) (.int period)) := by
  simp only [twap, checkedData_int]
  refine FailsOnly.bind (checkedOp_failsOnly (fun d => nomatch d)) fun elapsed _ => ?_
  refine FailsOnly.bind (checkedOp_failsOnly (fun d => nomatch d)) fun rest _ => ?_
  exact weightedAverage_failsOnly (by omega)

/-- A TWAP update lies within one unit of the old TWAP and the new price, and never divides by
zero. The weights are the time since the last update, at least zero, and what is left of the
period, at least one, so the one division is by a positive sum and the truncated mean lies
between the two points; the nudge toward the heavier weighted point may carry it one unit past
either end. -/
theorem twap_within_one_of_points (p now l last period : Int) :
    (∀ e, twap (.int p) (.int now) (.int l) (.int last) (.int period) = .error e →
      ¬ e.DividesByZero) ∧
    ∀ r, twap (.int p) (.int now) (.int l) (.int last) (.int period) = .ok r →
      min p l - 1 ≤ r ∧ r ≤ max p l + 1 := by
  refine ⟨twap_failsOnly p now l last period, fun r ok => ?_⟩
  rw [twap_eq_ok ok]
  exact averageOf_mem _ _ (le_max_left _ _) (lt_of_lt_of_le Int.zero_lt_one (le_max_left _ _))

/-- Equal points, yet the TWAP moves off them: one second into a four-second period the old TWAP
outweighs the new price three to one and the average is nudged up, and three seconds into a
five-second period the new price outweighs it and the average is nudged down. -/
theorem twap_leaves_hull :
    twap (.int 100) (.int 1) (.int 100) (.int 0) (.int 4) = .ok 101 ∧
      twap (.int 100) (.int 3) (.int 100) (.int 0) (.int 5) = .ok 99 :=
  ⟨rfl, rfl⟩

theorem tokenAmount_nonneg {balance : Value} {m : Market} {kind : BalanceKind} {t : Int}
    (ok : tokenAmount balance m kind = .ok t) : 0 ≤ t := by
  simp only [tokenAmount, except_bind_eq_ok] at ok
  obtain ⟨decrease, -, scaled, -, divided⟩ := ok
  -- both roundings end in a `u128` quotient
  cases kind with
  | deposits =>
    exact IntType.nonneg_of_contains rfl (checkedOp_ok_of_binary (by decide) divided).2.2.1
  | borrows =>
    exact IntType.nonneg_of_contains rfl (checkedOp_ok_of_binary (by decide) divided).2.2.1

end Lending

namespace Market

open Lending

theorem tokenAmounts_nonneg {m : Market} {deposits borrows : Int}
    (ok : m.tokenAmounts = .ok (deposits, borrows)) : 0 ≤ deposits ∧ 0 ≤ borrows := by
  simp only [tokenAmounts, except_bind_eq_ok, pure, Except.pure, Except.ok.injEq,
    Prod.mk.injEq] at ok
  obtain ⟨d, deposit, b, borrow, rfl, rfl⟩ := ok
  exact ⟨tokenAmount_nonneg deposit, tokenAmount_nonneg borrow⟩

variable {m : Market} {now c l : Int}

theorem statTwap_eq_cast (current : 0 ≤ c ∧ c < 2 ^ 62) (previous : 0 ≤ l ∧ l < 2 ^ 62)
    (stamp : 0 ≤ m.lastTwapTs ∧ m.lastTwapTs ≤ 2 ^ 63 - 1) (clock : IntType.i64.Contains now)
    (gap : IntType.i64.Contains (now - m.lastTwapTs)) (short : now - m.lastTwapTs < 2 ^ 63 - 1) :
    m.statTwap (.int now) c l = cast (averageOf c l (max 0 (now - m.lastTwapTs))
      (max 1 (marketTwapWindow - max 0 (now - m.lastTwapTs)))) IntType.u128 ∧
    -1 ≤ averageOf c l (max 0 (now - m.lastTwapTs))
      (max 1 (marketTwapWindow - max 0 (now - m.lastTwapTs))) ∧
    averageOf c l (max 0 (now - m.lastTwapTs))
      (max 1 (marketTwapWindow - max 0 (now - m.lastTwapTs))) ≤ 2 ^ 62 := by
  have window : marketTwapWindow = 86400 := rfl
  have range := gap
  simp only [IntType.Contains, IntType.i64_min, IntType.i64_max] at range
  have point₁ : IntType.i64.Contains c := by
    simp only [IntType.Contains, IntType.i64_min, IntType.i64_max]
    omega
  have point₂ : IntType.i64.Contains l := by
    simp only [IntType.Contains, IntType.i64_min, IntType.i64_max]
    omega
  have last : IntType.i64.Contains m.lastTwapTs := by
    simp only [IntType.Contains, IntType.i64_min, IntType.i64_max]
    omega
  have period : IntType.i64.Contains marketTwapWindow := by rw [window]; decide
  have rest : IntType.i64.Contains (marketTwapWindow - max 0 (now - m.lastTwapTs)) := by
    simp only [IntType.Contains, IntType.i64_min, IntType.i64_max]
    omega
  have weight₁ : 0 ≤ max 0 (now - m.lastTwapTs) := le_max_left _ _
  have elapsed : IntType.i64.Contains (max 0 (now - m.lastTwapTs)) := by
    simp only [IntType.Contains, IntType.i64_min, IntType.i64_max]
    omega
  have weight₂ : 0 < max 1 (marketTwapWindow - max 0 (now - m.lastTwapTs)) :=
    lt_of_lt_of_le Int.zero_lt_one (le_max_left _ _)
  have bounds := averageOf_mem c l weight₁ weight₂
  have low : min c l - 1 ≥ -1 := by omega
  have high : max c l + 1 ≤ 2 ^ 62 := by omega
  have average := weightedAverage_eq_averageOf point₁ point₂ weight₁ weight₂
    (by simp only [IntType.i64_max]; omega)
    (by simp only [IntType.Contains, IntType.i64_min, IntType.i64_max]; omega)
  have averaged : twap (.int c) (.int now) (.int l) (.int m.lastTwapTs) (.int marketTwapWindow) =
      .ok (averageOf c l (max 0 (now - m.lastTwapTs))
        (max 1 (marketTwapWindow - max 0 (now - m.lastTwapTs)))) := by
    simp only [twap, checkedData_int, checkedOp_sub_eq_ok clock last gap,
      checkedOp_sub_eq_ok period elapsed rest, except_ok_bind, average]
  refine ⟨?_, by omega, by omega⟩
  simp only [statTwap, cast_of_contains point₁, cast_of_contains point₂, except_ok_bind, averaged]

theorem statTwap_at_gap_limit (current : IntType.i64.Contains c) (previous : IntType.i64.Contains l)
    (stamp : 0 ≤ m.lastTwapTs ∧ m.lastTwapTs ≤ 2 ^ 63 - 1) (clock : IntType.i64.Contains now)
    (limit : now - m.lastTwapTs = 2 ^ 63 - 1) :
    m.statTwap (.int now) c l =
      .error (.arith ⟨.add, IntType.i64, 9223372036854775807, 1, .overflow⟩) := by
  have last : IntType.i64.Contains m.lastTwapTs := by
    simp only [IntType.Contains, IntType.i64_min, IntType.i64_max]
    omega
  have gap : IntType.i64.Contains (now - m.lastTwapTs) := by
    rw [limit]
    decide
  simp only [statTwap, twap, checkedData_int, cast_of_contains current, cast_of_contains previous,
    checkedOp_sub_eq_ok clock last gap, limit, except_ok_bind]
  rfl

theorem cast_u128_cases {r : Int} (low : -1 ≤ r) (high : r ≤ 2 ^ 62) :
    (0 ≤ r ∧ cast r IntType.u128 = .ok r) ∨ cast r IntType.u128 = .error (.cast (-1) IntType.u128) := by
  by_cases nonneg : 0 ≤ r
  · exact .inl ⟨nonneg, cast_of_contains ⟨nonneg, by rw [IntType.u128_max]; omega⟩⟩
  · obtain rfl : r = -1 := by omega
    exact .inr rfl

/-- The market TWAP update refuses only the TWAP `-1`. For a market whose deposit and borrow
amounts, utilization and TWAPs lie below `2^62`, whose TWAP time is at most `2^63 - 1`, at an
`i64` time whose distance from that time is an `i64`: when the distance is below `2^63 - 1`, the
update either succeeds with three TWAPs that are not negative and the later of the two times, or
refuses a TWAP of `-1` that some statistic's nudge produced; at the distance `2^63 - 1` the `i64`
sum of the weights overflows. -/
theorem market_twap_update_fails_only_on_minus_one {m : Market} {now deposits borrows u : Int}
    (amounts : m.tokenAmounts = .ok (deposits, borrows))
    (util : Lending.utilization (.int deposits) (.int borrows) = .ok u)
    (small : deposits < 2 ^ 62 ∧ borrows < 2 ^ 62 ∧ u < 2 ^ 62)
    (twaps : 0 ≤ m.tokenDepositTwap ∧ m.tokenDepositTwap < 2 ^ 62 ∧ 0 ≤ m.tokenBorrowTwap ∧
      m.tokenBorrowTwap < 2 ^ 62 ∧ 0 ≤ m.utilizationTwap ∧ m.utilizationTwap < 2 ^ 62)
    (stamp : 0 ≤ m.lastTwapTs ∧ m.lastTwapTs ≤ 2 ^ 63 - 1) (clock : IntType.i64.Contains now)
    (gap : IntType.i64.Contains (now - m.lastTwapTs)) :
    (now - m.lastTwapTs < 2 ^ 63 - 1 →
      (∃ m', m.updateTwapStats (.int now) = .ok m' ∧ 0 ≤ m'.tokenDepositTwap ∧
        0 ≤ m'.tokenBorrowTwap ∧ 0 ≤ m'.utilizationTwap ∧ m'.lastTwapTs = max now m.lastTwapTs) ∨
      m.updateTwapStats (.int now) = .error (.cast (-1) IntType.u128)) ∧
    (now - m.lastTwapTs = 2 ^ 63 - 1 →
      m.updateTwapStats (.int now) =
        .error (.arith ⟨.add, IntType.i64, 9223372036854775807, 1, .overflow⟩)) := by
  obtain ⟨depositsNonneg, borrowsNonneg⟩ := tokenAmounts_nonneg amounts
  have utilNonneg := Lending.utilization_nonneg util
  obtain ⟨depositsSmall, borrowsSmall, utilSmall⟩ := small
  obtain ⟨dt₀, dt₁, bt₀, bt₁, ut₀, ut₁⟩ := twaps
  constructor
  · intro short
    obtain ⟨depositTwap, dLow, dHigh⟩ := statTwap_eq_cast (m := m) ⟨depositsNonneg, depositsSmall⟩
      ⟨dt₀, dt₁⟩ stamp clock gap short
    obtain ⟨borrowTwap, bLow, bHigh⟩ := statTwap_eq_cast (m := m) ⟨borrowsNonneg, borrowsSmall⟩
      ⟨bt₀, bt₁⟩ stamp clock gap short
    obtain ⟨utilTwap, uLow, uHigh⟩ := statTwap_eq_cast (m := m) ⟨utilNonneg, utilSmall⟩
      ⟨ut₀, ut₁⟩ stamp clock gap short
    have time : IntType.u64.Contains (max now m.lastTwapTs) := by
      simp only [IntType.Contains, IntType.i64_min, IntType.i64_max] at clock
      simp only [IntType.Contains, IntType.u64_min, IntType.u64_max]
      omega
    simp only [updateTwapStats, amounts, util, except_ok_bind, depositTwap, borrowTwap, utilTwap,
      Value.largerOf_int, castData_int, cast_of_contains time]
    -- the statistics are taken in turn, and the first refused one ends the update
    rcases cast_u128_cases dLow dHigh with ⟨dPos, dOk⟩ | dFail
    · rcases cast_u128_cases bLow bHigh with ⟨bPos, bOk⟩ | bFail
      · rcases cast_u128_cases uLow uHigh with ⟨uPos, uOk⟩ | uFail
        · exact .inl ⟨_, by simp only [dOk, bOk, uOk, except_ok_bind]; rfl, dPos, bPos, uPos, rfl⟩
        · exact .inr (by simp only [dOk, bOk, uFail, except_ok_bind, except_error_bind])
      · exact .inr (by simp only [dOk, bFail, except_ok_bind, except_error_bind])
    · exact .inr (by simp only [dFail, except_error_bind])
  · intro limit
    have point : IntType.i64.Contains deposits := by
      simp only [IntType.Contains, IntType.i64_min, IntType.i64_max]
      omega
    have past : IntType.i64.Contains m.tokenDepositTwap := by
      simp only [IntType.Contains, IntType.i64_min, IntType.i64_max]
      omega
    simp only [updateTwapStats, amounts, util, except_ok_bind,
      statTwap_at_gap_limit point past stamp clock limit, except_error_bind]

def oneTokenMarketData : Value :=
  .obj [("decimals", .int 9), ("optimal_utilization", .int 800000),
    ("optimal_borrow_rate", .int 100000), ("max_borrow_rate", .int 1000000),
    ("deposit_balance", .int 1)]

def oneTokenMarket : Market := { minimalMarket with decimals := 9, depositBalance := 1 }

/-- One second after the start of the window, the deposit TWAP of a market holding one token
averages the amount `1` and the TWAP `0` to a truncated mean of `0`, which the heavier new point
nudges down to `-1`: the update is refused by the `u128` cast. -/
theorem fresh_market_twap_goes_negative :
    Service.loadMarket oneTokenMarketData = .ok oneTokenMarket ∧ oneTokenMarket.decimals ≤ 19 ∧
      oneTokenMarket.tokenAmounts = .ok (1, 0) ∧
      Lending.utilization (.int 1) (.int 0) = .ok 0 ∧
      oneTokenMarket.updateTwapStats (.int 1) = .error (.cast (-1) IntType.u128) :=
  ⟨rfl, by decide, rfl, rfl, rfl⟩

theorem one_token_market_update_refused_or_nonneg :
    (∃ m', oneTokenMarket.updateTwapStats (.int 1) = .ok m' ∧ 0 ≤ m'.tokenDepositTwap ∧
        0 ≤ m'.tokenBorrowTwap ∧ 0 ≤ m'.utilizationTwap ∧
        m'.lastTwapTs = max 1 oneTokenMarket.lastTwapTs) ∨
      oneTokenMarket.updateTwapStats (.int 1) = .error (.cast (-1) IntType.u128) :=
  (@market_twap_update_fails_only_on_minus_one oneTokenMarket 1 1 0 0 rfl rfl
    (by decide) (by decide) (by decide) (by decide) (by decide)).1 (by decide)

end Market

end MarginLending

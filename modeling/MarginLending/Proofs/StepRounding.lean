import MarginLending.Proofs.TickRounding

/-! Rounding an order size to the step.

For a size and a positive step, both of `u64`, rounding down takes the remainder off the size,
which gives the greatest multiple of the step at or below it and never leaves the type. Rounding
up keeps a size on the grid and otherwise computes `(size + step) - remainder`, the least multiple
at or above the size. The sum is checked before the remainder comes off, so within one step of
`2^64` rounding up refuses with the overflow of `size + step` even where `u64` holds the least
multiple: two below `2^64`, with a step of three, is refused although `2^64 - 1` is a multiple of
three. A price rounded short adds what the remainder lacks of a tick instead, and has no such
early bound. A size is a multiple of the step exactly when both roundings keep it.
-/

set_option autoImplicit false

namespace MarginLending.Pricing

open Arith

variable {size step : Int}

theorem standardizeSize_eq (hs : IntType.u64.Contains size) (ht : IntType.u64.Contains step)
    (positive : 0 < step) : standardizeSize size step = .ok (size - size % step) := by
  have remainder := Int.emod_nonneg size positive.ne'
  have short := Int.emod_lt_of_pos size positive
  -- zero is a multiple at or below the size, so the greatest one is not negative
  have floorNonneg : 0 ≤ size - size % step :=
    (isGreatest_sub_emod positive).2 ⟨Int.dvd_zero step, IntType.nonneg_of_contains rfl hs⟩
  simp only [standardizeSize, remainder_eq hs ht positive, bind, Except.bind]
  exact checkedOp_sub_eq_ok hs
    (IntType.u64.contains_between IntType.u64.contains_zero ht remainder short.le)
    (IntType.u64.contains_between IntType.u64.contains_zero hs floorNonneg (by omega))

theorem standardizeSizeUp_on_grid (hs : IntType.u64.Contains size)
    (ht : IntType.u64.Contains step) (positive : 0 < step) (on : step ∣ size) :
    standardizeSizeUp size step = .ok size := by
  simp [standardizeSizeUp, remainder_eq hs ht positive, Int.emod_eq_zero_of_dvd on, bind,
    Except.bind, pure, Except.pure]

theorem standardizeSizeUp_off_grid (hs : IntType.u64.Contains size)
    (ht : IntType.u64.Contains step) (positive : 0 < step) (off : ¬ step ∣ size)
    (fits : size + step ≤ IntType.u64.max) :
    standardizeSizeUp size step = .ok (size + (step - size % step)) := by
  have remainder := emod_pos_of_not_dvd positive off
  have short := Int.emod_lt_of_pos size positive
  have sizeNonneg := IntType.nonneg_of_contains rfl hs
  have sum : IntType.u64.Contains (size + step) := ⟨by simp; omega, fits⟩
  have sumOk := checkedOp_add_eq_ok hs ht sum
  have lowered : checkedOp IntType.u64 .sub (size + step) (size % step) =
      .ok (size + (step - size % step)) := by
    rw [← Int.add_sub_assoc]
    exact checkedOp_sub_eq_ok sum
      (IntType.u64.contains_between IntType.u64.contains_zero ht remainder.le short.le)
      (IntType.u64.contains_between IntType.u64.contains_zero sum (by omega) (by omega))
  simp only [standardizeSizeUp, remainder_eq hs ht positive, remainder.ne', sumOk, lowered, bind,
    Except.bind, if_false]

/-- Off the grid, a sum that leaves `u64` is refused, whatever the least multiple. -/
theorem standardizeSizeUp_overflow (hs : IntType.u64.Contains size)
    (ht : IntType.u64.Contains step) (positive : 0 < step) (off : ¬ step ∣ size)
    (above : IntType.u64.max < size + step) :
    standardizeSizeUp size step =
      .error (.arith ⟨.add, IntType.u64, size, step, .overflow⟩) := by
  have remainder := emod_pos_of_not_dvd positive off
  have refused : checkedOp IntType.u64 .add size step =
      .error (.arith ⟨.add, IntType.u64, size, step, .overflow⟩) :=
    checkedOp_overflow (by decide) hs ht (fun divides => nomatch divides) above
  simp only [standardizeSizeUp, remainder_eq hs ht positive, remainder.ne', refused, bind,
    Except.bind, if_false]

theorem isMultiple_eq (hs : IntType.u64.Contains size) (ht : IntType.u64.Contains step)
    (positive : 0 < step) : isMultiple size step = .ok (decide (step ∣ size)) := by
  simp only [isMultiple, remainder_eq hs ht positive, Int.dvd_iff_emod_eq_zero, bind,
    Except.bind, pure, Except.pure]

/-- Order sizes round to the step. For a size of `u64` and a positive step of `u64`, rounding
down returns the greatest multiple of the step at or below the size. Rounding up returns the
least multiple at or above it when the size is on the grid or `size + step` fits `u64`, and
otherwise refuses with the overflow of `size + step`, whether or not `u64` holds that multiple.
The size is a multiple of the step exactly when both roundings return it. -/
theorem order_size_rounds_to_step (size step : Int) (hs : IntType.u64.Contains size)
    (ht : IntType.u64.Contains step) (positive : 0 < step) :
    (∃ v, standardizeSize size step = .ok v ∧ IsGreatest {m | step ∣ m ∧ m ≤ size} v) ∧
    (step ∣ size ∨ size + step ≤ IntType.u64.max →
      ∃ v, standardizeSizeUp size step = .ok v ∧ IsLeast {m | step ∣ m ∧ size ≤ m} v) ∧
    (¬ step ∣ size → IntType.u64.max < size + step →
      standardizeSizeUp size step =
        .error (.arith ⟨.add, IntType.u64, size, step, .overflow⟩)) ∧
    (isMultiple size step = .ok true ↔
      standardizeSize size step = .ok size ∧ standardizeSizeUp size step = .ok size) := by
  have floor := standardizeSize_eq hs ht positive
  refine ⟨⟨_, floor, isGreatest_sub_emod positive⟩, ?_,
    standardizeSizeUp_overflow hs ht positive, ?_⟩
  · intro reachable
    by_cases on : step ∣ size
    · exact ⟨size, standardizeSizeUp_on_grid hs ht positive on, ⟨on, le_refl size⟩,
        fun m within => within.2⟩
    · exact ⟨_, standardizeSizeUp_off_grid hs ht positive on (reachable.resolve_left on),
        isLeast_add_sub_emod positive on⟩
  · rw [isMultiple_eq hs ht positive, floor]
    constructor
    · intro multiple
      have on : step ∣ size := of_decide_eq_true (Except.ok.inj multiple)
      rw [Int.emod_eq_zero_of_dvd on, Int.sub_zero]
      exact ⟨rfl, standardizeSizeUp_on_grid hs ht positive on⟩
    · rintro ⟨kept, -⟩
      -- rounding down keeps the size only when nothing was taken off
      have zero : size % step = 0 := by
        have := Except.ok.inj kept
        omega
      rw [decide_eq_true (Int.dvd_iff_emod_eq_zero.mpr zero)]

theorem sample_size_rounds_to_step :
    (∃ v, standardizeSize 18446744073709551614 3 = .ok v ∧
        IsGreatest {m | (3 : Int) ∣ m ∧ m ≤ 18446744073709551614} v) ∧
      ((3 : Int) ∣ 18446744073709551614 ∨
          (18446744073709551614 : Int) + 3 ≤ IntType.u64.max →
        ∃ v, standardizeSizeUp 18446744073709551614 3 = .ok v ∧
          IsLeast {m | (3 : Int) ∣ m ∧ 18446744073709551614 ≤ m} v) ∧
      (¬ (3 : Int) ∣ 18446744073709551614 →
        IntType.u64.max < (18446744073709551614 : Int) + 3 →
        standardizeSizeUp 18446744073709551614 3 =
          .error (.arith ⟨.add, IntType.u64, 18446744073709551614, 3, .overflow⟩)) ∧
      (isMultiple 18446744073709551614 3 = .ok true ↔
        standardizeSize 18446744073709551614 3 = .ok 18446744073709551614 ∧
          standardizeSizeUp 18446744073709551614 3 = .ok 18446744073709551614) :=
  order_size_rounds_to_step 18446744073709551614 3 (by decide) (by decide) (by decide)

/-- Two below `2^64`, with a step of three: the least multiple of three at or above the size is
`2^64 - 1`, which `u64` holds, yet rounding up refuses, because `size + 3` overflows before the
remainder comes off. -/
theorem size_rounding_up_overflows_below_bound :
    IsLeast {m | (3 : Int) ∣ m ∧ 18446744073709551614 ≤ m} 18446744073709551615 ∧
      IntType.u64.Contains 18446744073709551615 ∧
      standardizeSizeUp 18446744073709551614 3 =
        .error (.arith ⟨.add, IntType.u64, 18446744073709551614, 3, .overflow⟩) := by
  have off : ¬ (3 : Int) ∣ 18446744073709551614 := by decide
  have least := isLeast_add_sub_emod (by decide : (0 : Int) < 3) off
  have multiple : (18446744073709551614 : Int) + (3 - 18446744073709551614 % 3) =
      18446744073709551615 := by decide
  rw [multiple] at least
  exact ⟨least, by decide,
    standardizeSizeUp_overflow (by decide) (by decide) (by decide) off (by decide)⟩

end MarginLending.Pricing

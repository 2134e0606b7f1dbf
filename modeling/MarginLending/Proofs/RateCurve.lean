import MarginLending.Proofs.MarketSnapshot

/-! The borrow-rate curve is monotone and bounded.

Below the kink the rate is `u · ⌊r_opt · 10^6 / kink⌋ / 10^6`; above it
`r_opt + (u - kink) · ⌊(r_max - r_opt) · 10^6 / (10^6 - kink)⌋ / 10^6`. Each truncated slope
times the width of its segment is at most the rise it stands for, so the lower segment ends at or
below the optimal rate and the upper one at or below the maximal rate, while the upper segment
starts at the optimal rate itself. The curve may jump up at the kink, never down. Every step is a
`u128` operation, and with `u32` rates none of them overflows; only a kink at zero has no lower
slope, and there the curve is read above zero only.
-/

set_option autoImplicit false

namespace MarginLending

open Arith Data

namespace Market

variable {m : Market} {u u₁ u₂ : Int}

/-- The rate-curve fields as a market holds them: a `u32` kink and two `u32` rates, the kink
below 100% and the optimal rate at most the maximal one. -/
structure CurveValid (m : Market) : Prop where
  kink : IntType.u32.Contains m.optimalUtilization
  optimal : IntType.u32.Contains m.optimalBorrowRate
  maximal : IntType.u32.Contains m.maxBorrowRate
  curve : m.RateCurveOk

def lowerSlope (m : Market) : Int :=
  m.optimalBorrowRate * utilizationPrecision / m.optimalUtilization

def upperSlope (m : Market) : Int :=
  (m.maxBorrowRate - m.optimalBorrowRate) * utilizationPrecision /
    (utilizationPrecision - m.optimalUtilization)

/-- The rate of the curve at `u`, in integer arithmetic. -/
def curveRate (m : Market) (u : Int) : Int :=
  if m.optimalUtilization < u then
    m.optimalBorrowRate + (u - m.optimalUtilization) * m.upperSlope / utilizationPrecision
  else u * m.lowerSlope / utilizationPrecision

def RateInSegment (m : Market) (u r : Int) : Prop :=
  (u ≤ m.optimalUtilization → r ≤ m.optimalBorrowRate) ∧
    (m.optimalUtilization < u → m.optimalBorrowRate ≤ r ∧ r ≤ m.maxBorrowRate)

theorem curveRate_of_le (below : u ≤ m.optimalUtilization) :
    m.curveRate u = u * m.lowerSlope / utilizationPrecision := by
  simp [curveRate, not_lt.mpr below]

theorem curveRate_of_lt (above : m.optimalUtilization < u) :
    m.curveRate u =
      m.optimalBorrowRate + (u - m.optimalUtilization) * m.upperSlope / utilizationPrecision := by
  simp [curveRate, above]

namespace CurveValid

variable (valid : m.CurveValid)
include valid

theorem bounds :
    0 ≤ m.optimalUtilization ∧ m.optimalUtilization < utilizationPrecision ∧
      0 ≤ m.optimalBorrowRate ∧ m.optimalBorrowRate ≤ m.maxBorrowRate ∧
      m.maxBorrowRate ≤ 4294967295 := by
  obtain ⟨⟨kinkLow, -⟩, ⟨optimalLow, -⟩, ⟨-, maximalHigh⟩, kinkHigh, ordered⟩ := valid
  simp only [IntType.u32_min, IntType.u32_max] at *
  exact ⟨kinkLow, kinkHigh, optimalLow, ordered, maximalHigh⟩

/-! ## The slopes -/

theorem lowerSlope_nonneg : 0 ≤ m.lowerSlope := by
  obtain ⟨kinkLow, -, optimalLow, -⟩ := valid.bounds
  exact Int.ediv_nonneg (Int.mul_nonneg optimalLow (by decide)) kinkLow

theorem upperSlope_nonneg : 0 ≤ m.upperSlope := by
  obtain ⟨-, kinkHigh, -, ordered, -⟩ := valid.bounds
  exact Int.ediv_nonneg (Int.mul_nonneg (by omega) (by decide)) (by omega)

theorem lowerSlope_mul_kink_le :
    m.lowerSlope * m.optimalUtilization ≤ m.optimalBorrowRate * utilizationPrecision := by
  obtain ⟨-, -, optimalLow, -⟩ := valid.bounds
  by_cases flat : m.optimalUtilization = 0
  · -- a kink at zero has no lower segment
    rw [flat, Int.mul_zero]
    exact Int.mul_nonneg optimalLow (by decide)
  · exact Int.ediv_mul_le _ flat

theorem upperSlope_mul_room_le :
    m.upperSlope * (utilizationPrecision - m.optimalUtilization) ≤
      (m.maxBorrowRate - m.optimalBorrowRate) * utilizationPrecision := by
  obtain ⟨-, kinkHigh, -⟩ := valid.bounds
  exact Int.ediv_mul_le _ (by omega)

theorem lowerSlope_le : m.lowerSlope ≤ m.optimalBorrowRate * utilizationPrecision := by
  obtain ⟨kinkLow, -, optimalLow, -⟩ := valid.bounds
  exact Int.ediv_le_self _ (Int.mul_nonneg optimalLow (by decide))

theorem upperSlope_le :
    m.upperSlope ≤ (m.maxBorrowRate - m.optimalBorrowRate) * utilizationPrecision := by
  obtain ⟨-, -, -, ordered, -⟩ := valid.bounds
  exact Int.ediv_le_self _ (Int.mul_nonneg (by omega) (by decide))

/-! ## The two segments -/

theorem curveRate_le_optimal (low : 0 ≤ u) (below : u ≤ m.optimalUtilization) :
    0 ≤ m.curveRate u ∧ m.curveRate u ≤ m.optimalBorrowRate := by
  rw [curveRate_of_le below]
  have slope := valid.lowerSlope_nonneg
  have rise : u * m.lowerSlope ≤ m.optimalBorrowRate * utilizationPrecision :=
    calc u * m.lowerSlope ≤ m.optimalUtilization * m.lowerSlope :=
          Int.mul_le_mul_of_nonneg_right below slope
      _ = m.lowerSlope * m.optimalUtilization := Int.mul_comm _ _
      _ ≤ m.optimalBorrowRate * utilizationPrecision := valid.lowerSlope_mul_kink_le
  exact ⟨Int.ediv_nonneg (Int.mul_nonneg low slope) (by decide),
    Int.ediv_le_of_le_mul (by decide) rise⟩

theorem curveRate_mem_upper (above : m.optimalUtilization < u) (full : u ≤ utilizationPrecision) :
    m.optimalBorrowRate ≤ m.curveRate u ∧ m.curveRate u ≤ m.maxBorrowRate := by
  rw [curveRate_of_lt above]
  have slope := valid.upperSlope_nonneg
  have rise : (u - m.optimalUtilization) * m.upperSlope ≤
      (m.maxBorrowRate - m.optimalBorrowRate) * utilizationPrecision :=
    calc (u - m.optimalUtilization) * m.upperSlope
        ≤ (utilizationPrecision - m.optimalUtilization) * m.upperSlope :=
          Int.mul_le_mul_of_nonneg_right (by omega) slope
      _ = m.upperSlope * (utilizationPrecision - m.optimalUtilization) := Int.mul_comm _ _
      _ ≤ (m.maxBorrowRate - m.optimalBorrowRate) * utilizationPrecision :=
          valid.upperSlope_mul_room_le
  have step := Int.ediv_le_of_le_mul (by decide) rise
  have stepNonneg : 0 ≤ (u - m.optimalUtilization) * m.upperSlope / utilizationPrecision :=
    Int.ediv_nonneg (Int.mul_nonneg (by omega) slope) (by decide)
  omega

theorem curveRate_inSegment (low : 0 ≤ u) (full : u ≤ utilizationPrecision) :
    m.RateInSegment u (m.curveRate u) :=
  ⟨fun below => (valid.curveRate_le_optimal low below).2,
    fun above => valid.curveRate_mem_upper above full⟩

theorem curveRate_nonneg (low : 0 ≤ u) (full : u ≤ utilizationPrecision) :
    0 ≤ m.curveRate u := by
  by_cases above : m.optimalUtilization < u
  · have := (valid.curveRate_mem_upper above full).1
    have := valid.bounds.2.2.1
    omega
  · exact (valid.curveRate_le_optimal low (not_lt.mp above)).1

theorem curveRate_le_max (low : 0 ≤ u) (full : u ≤ utilizationPrecision) :
    m.curveRate u ≤ m.maxBorrowRate := by
  by_cases above : m.optimalUtilization < u
  · exact (valid.curveRate_mem_upper above full).2
  · have := (valid.curveRate_le_optimal low (not_lt.mp above)).2
    have := valid.bounds.2.2.2.1
    omega

/-- The curve never falls: within a segment the slope is not negative, and across the kink the
lower segment ends at or below the optimal rate where the upper one starts. -/
theorem curveRate_mono (low : 0 ≤ u₁) (ordered : u₁ ≤ u₂) (full : u₂ ≤ utilizationPrecision) :
    m.curveRate u₁ ≤ m.curveRate u₂ := by
  by_cases above₂ : m.optimalUtilization < u₂
  · by_cases above₁ : m.optimalUtilization < u₁
    · rw [curveRate_of_lt above₁, curveRate_of_lt above₂]
      have := Int.ediv_le_ediv (by decide : (0 : Int) < utilizationPrecision)
        (Int.mul_le_mul_of_nonneg_right (by omega : u₁ - m.optimalUtilization ≤
          u₂ - m.optimalUtilization) valid.upperSlope_nonneg)
      omega
    · have := (valid.curveRate_le_optimal low (not_lt.mp above₁)).2
      have := (valid.curveRate_mem_upper above₂ full).1
      omega
  · have below₂ := not_lt.mp above₂
    rw [curveRate_of_le (le_trans ordered below₂), curveRate_of_le below₂]
    exact Int.ediv_le_ediv (by decide) (Int.mul_le_mul_of_nonneg_right ordered
      valid.lowerSlope_nonneg)

/-! ## The checked computation -/

/-- On `[0, 100%]`, and above zero when the kink is at zero, the checked borrow rate is the
curve's rate: no step of it overflows `u128`. -/
theorem borrowRate_eq_curveRate (low : 0 ≤ u) (full : u ≤ utilizationPrecision)
    (kinkZero : m.optimalUtilization = 0 → 0 < u) :
    m.borrowRate (.int u) = .ok (m.curveRate u) := by
  obtain ⟨kinkLow, kinkHigh, optimalLow, ordered, maximalHigh⟩ := valid.bounds
  have fits : ∀ v, 0 ≤ v → v ≤ 340282366920938463463374607431768211455 →
      IntType.u128.Contains v := fun _ low high => ⟨low, high⟩
  have precision : utilizationPrecision = 1000000 := rfl
  have scale : IntType.u128.Contains utilizationPrecision := fits _ (by decide) (by decide)
  unfold borrowRate
  simp only [Value.compareBy_int, Value.holds_gt_int, checkedData_int, bind, Except.bind]
  by_cases above : m.optimalUtilization < u
  · -- the upper segment: the surplus, the upper slope, the rise, then the optimal rate added
    have slope := valid.upperSlope_nonneg
    have slopeBound := valid.upperSlope_le
    rw [precision] at slopeBound
    have riseNonneg := Int.mul_nonneg (by omega : 0 ≤ u - m.optimalUtilization) slope
    have rise : (u - m.optimalUtilization) * m.upperSlope ≤ 1000000 * (4294967295 * 1000000) :=
      Int.mul_le_mul (by omega) (by omega) slope (by omega)
    have step := Int.ediv_le_self utilizationPrecision riseNonneg
    have stepNonneg := Int.ediv_nonneg riseNonneg (by decide : (0 : Int) ≤ utilizationPrecision)
    have upperRate := (valid.curveRate_mem_upper above full).2
    rw [curveRate_of_lt above] at upperRate
    have surplus := checkedOp_sub_eq_ok (fits u low (by omega))
      (fits m.optimalUtilization kinkLow (by omega)) (fits _ (by omega) (by omega))
    have spread := checkedOp_sub_eq_ok (fits m.maxBorrowRate (by omega) (by omega))
      (fits m.optimalBorrowRate optimalLow (by omega)) (fits _ (by omega) (by omega))
    have scaled := checkedOp_mul_eq_ok (fits (m.maxBorrowRate - m.optimalBorrowRate) (by omega)
      (by omega)) scale (fits _ (by rw [precision]; omega) (by rw [precision]; omega))
    have room := checkedOp_sub_eq_ok scale (fits m.optimalUtilization kinkLow (by omega))
      (fits _ (by omega) (by omega))
    have upper := checkedOp_div_eq_ok_unsigned rfl
      (fits ((m.maxBorrowRate - m.optimalBorrowRate) * utilizationPrecision)
        (by rw [precision]; omega) (by rw [precision]; omega))
      (fits (utilizationPrecision - m.optimalUtilization) (by omega) (by omega)) (by omega)
    have lifted := checkedOp_mul_eq_ok (fits (u - m.optimalUtilization) (by omega) (by omega))
      (fits m.upperSlope slope (by omega)) (fits _ riseNonneg (by omega))
    have stepped := checkedOp_div_eq_ok_unsigned rfl
      (fits ((u - m.optimalUtilization) * m.upperSlope) riseNonneg (by omega)) scale (by decide)
    have total := checkedOp_add_eq_ok (fits m.optimalBorrowRate optimalLow (by omega))
      (fits ((u - m.optimalUtilization) * m.upperSlope / utilizationPrecision) stepNonneg
        (by omega)) (fits _ (by omega) (by omega))
    rw [← upperSlope] at upper
    simp only [above, decide_true, if_true, surplus, spread, scaled, room, upper, lifted,
      stepped, total, curveRate_of_lt above]
  · -- the lower segment: the lower slope, then the rise to `u`
    have below := not_lt.mp above
    have kinkPos : m.optimalUtilization ≠ 0 := fun zero => by
      have := kinkZero zero
      omega
    have slope := valid.lowerSlope_nonneg
    have slopeBound := valid.lowerSlope_le
    rw [precision] at slopeBound
    have riseNonneg := Int.mul_nonneg low slope
    have rise : u * m.lowerSlope ≤ 1000000 * (4294967295 * 1000000) :=
      Int.mul_le_mul (by omega) (by omega) slope (by omega)
    have scaled := checkedOp_mul_eq_ok (fits m.optimalBorrowRate optimalLow (by omega)) scale
      (fits _ (by rw [precision]; omega) (by rw [precision]; omega))
    have lower := checkedOp_div_eq_ok_unsigned rfl
      (fits (m.optimalBorrowRate * utilizationPrecision) (by rw [precision]; omega)
        (by rw [precision]; omega)) (fits m.optimalUtilization kinkLow (by omega)) kinkPos
    have lifted := checkedOp_mul_eq_ok (fits u low (by omega)) (fits m.lowerSlope slope (by omega))
      (fits _ riseNonneg (by omega))
    have stepped := checkedOp_div_eq_ok_unsigned rfl (fits (u * m.lowerSlope) riseNonneg (by omega))
      scale (by decide)
    rw [← lowerSlope] at lower
    simp only [above, decide_false, Bool.false_eq_true, if_false, scaled, lower, lifted, stepped,
      curveRate_of_le below]

theorem depositRate_le_borrowRate (low : 0 ≤ u) (full : u ≤ utilizationPrecision)
    (kinkZero : m.optimalUtilization = 0 → 0 < u) :
    ∃ d, m.depositRate (.int u) = .ok d ∧ d ≤ m.curveRate u := by
  have fits : ∀ v, 0 ≤ v → v ≤ 340282366920938463463374607431768211455 →
      IntType.u128.Contains v := fun _ low high => ⟨low, high⟩
  have nonneg := valid.curveRate_nonneg low full
  have capped := valid.curveRate_le_max low full
  have maximal := valid.bounds.2.2.2.2
  have percent : u ≤ 1000000 := full
  have product : m.curveRate u * u ≤ 4294967295 * 1000000 :=
    Int.mul_le_mul (by omega) full low (by omega)
  have productNonneg := Int.mul_nonneg nonneg low
  have scaled := checkedOp_mul_eq_ok (fits (m.curveRate u) nonneg (by omega))
    (fits u low (by omega)) (fits _ productNonneg (by omega))
  have divided := checkedOp_div_eq_ok_unsigned rfl
    (fits (m.curveRate u * u) productNonneg (by omega))
    (fits utilizationPrecision (by decide) (by decide)) (by decide)
  refine ⟨m.curveRate u * u / utilizationPrecision, ?_, ?_⟩
  · simp only [depositRate, valid.borrowRate_eq_curveRate low full kinkZero, checkedData_int,
      scaled, divided, bind, Except.bind]
  · -- a utilization of at most 100% scales the rate down
    calc m.curveRate u * u / utilizationPrecision
        ≤ m.curveRate u * utilizationPrecision / utilizationPrecision :=
          Int.ediv_le_ediv (by decide) (Int.mul_le_mul_of_nonneg_left full nonneg)
      _ = m.curveRate u := Int.mul_ediv_cancel _ (by decide)

end CurveValid

/-- The borrow-rate curve is monotone and bounded. For a market whose rate curve is valid and
utilizations `0 ≤ u₁ ≤ u₂ ≤ 100%`, with `u₁` above zero when the kink is at zero, the borrow rate
succeeds at both and does not fall from `u₁` to `u₂`; each rate is at most the optimal rate up to
the kink and between the optimal and the maximal rate above it; and the deposit rate at each
utilization succeeds and is at most the borrow rate there. -/
theorem borrow_rate_curve_monotone_bounded {m : Market} {u₁ u₂ : Int} (valid : m.CurveValid)
    (low : 0 ≤ u₁) (kinkZero : m.optimalUtilization = 0 → 0 < u₁) (ordered : u₁ ≤ u₂)
    (full : u₂ ≤ utilizationPrecision) :
    ∃ r₁ r₂, m.borrowRate (.int u₁) = .ok r₁ ∧ m.borrowRate (.int u₂) = .ok r₂ ∧ r₁ ≤ r₂ ∧
      m.RateInSegment u₁ r₁ ∧ m.RateInSegment u₂ r₂ ∧
      ∃ d₁ d₂, m.depositRate (.int u₁) = .ok d₁ ∧ m.depositRate (.int u₂) = .ok d₂ ∧
        d₁ ≤ r₁ ∧ d₂ ≤ r₂ := by
  have full₁ : u₁ ≤ utilizationPrecision := le_trans ordered full
  have low₂ : 0 ≤ u₂ := le_trans low ordered
  have kinkZero₂ : m.optimalUtilization = 0 → 0 < u₂ := fun zero =>
    lt_of_lt_of_le (kinkZero zero) ordered
  obtain ⟨d₁, deposit₁, below₁⟩ := valid.depositRate_le_borrowRate low full₁ kinkZero
  obtain ⟨d₂, deposit₂, below₂⟩ := valid.depositRate_le_borrowRate low₂ full kinkZero₂
  exact ⟨_, _, valid.borrowRate_eq_curveRate low full₁ kinkZero,
    valid.borrowRate_eq_curveRate low₂ full kinkZero₂, valid.curveRate_mono low ordered full,
    valid.curveRate_inSegment low full₁, valid.curveRate_inSegment low₂ full,
    d₁, d₂, deposit₁, deposit₂, below₁, below₂⟩

/-- The curve of the minimal market, read below and above its kink at 80%. -/
theorem sample_curve_rises :
    minimalMarket.CurveValid ∧ (0 : Int) ≤ 500000 ∧
      (minimalMarket.optimalUtilization = 0 → (0 : Int) < 500000) ∧ (500000 : Int) ≤ 900000 ∧
      (900000 : Int) ≤ utilizationPrecision ∧
      ∃ r₁ r₂, minimalMarket.borrowRate (.int 500000) = .ok r₁ ∧
        minimalMarket.borrowRate (.int 900000) = .ok r₂ ∧ r₁ ≤ r₂ ∧
        minimalMarket.RateInSegment 500000 r₁ ∧ minimalMarket.RateInSegment 900000 r₂ ∧
        ∃ d₁ d₂, minimalMarket.depositRate (.int 500000) = .ok d₁ ∧
          minimalMarket.depositRate (.int 900000) = .ok d₂ ∧ d₁ ≤ r₁ ∧ d₂ ≤ r₂ :=
  have valid : minimalMarket.CurveValid := ⟨by decide, by decide, by decide, by decide⟩
  ⟨valid, by decide, fun _ => by decide, by decide, by decide,
    borrow_rate_curve_monotone_bounded valid (by decide) (fun _ => by decide) (by decide)
      (by decide)⟩

end Market

end MarginLending

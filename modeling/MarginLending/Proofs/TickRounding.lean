import Mathlib.Order.Bounds.Defs
import MarginLending.Pricing.Standardize
import MarginLending.Proofs.Checked

/-! Rounding a price to the tick grid.

A price of zero and a price on the grid are kept. A price off the grid goes, in the order's
direction, to the greatest multiple of the tick at or below it (long), to the least multiple at or
above it (short), or a whole tick up (two-way). The remainder is Euclidean, so a negative price also
rounds toward negative infinity when long. The remainder and what it lacks of a whole tick always
fit the type, so only the last sum or difference can leave it: the rounded price is returned when
the type holds it, and is a checked-arithmetic failure when it does not. Hence a long price never
lies above the price and a short one never below, both on the grid.
-/

set_option autoImplicit false

namespace MarginLending

open Arith Data

/-- `x` returns `v` when the type `t` holds `v`, and fails with a checked-arithmetic failure when
it does not. -/
def ReturnsIn (t : IntType) (x : Except Failure Int) (v : Int) : Prop :=
  (t.Contains v ∧ x = .ok v) ∨ (¬ t.Contains v ∧ ∃ f, x = .error (.arith f))

theorem ReturnsIn.eq_of_ok {t : IntType} {x : Except Failure Int} {v w : Int}
    (returns : ReturnsIn t x v) (ok : x = .ok w) : w = v := by
  rcases returns with ⟨-, returned⟩ | ⟨-, f, failed⟩
  · rw [returned, Except.ok.injEq] at ok
    exact ok.symm
  · rw [failed] at ok
    cases ok

namespace Arith

theorem IntType.contains_between (t : IntType) {lo hi v : Int} (low : t.Contains lo)
    (high : t.Contains hi) (above : lo ≤ v) (below : v ≤ hi) : t.Contains v :=
  ⟨Int.le_trans low.1 above, Int.le_trans below high.2⟩

variable {t : IntType} {op : ArithOp} {a b : Int}

theorem checkedOp_returnsIn (binary : op ≠ .pow) (ha : t.Contains a) (hb : t.Contains b)
    (divisor : op.divides → b ≠ 0) : ReturnsIn t (checkedOp t op a b) (op.value a b) := by
  by_cases fits : t.Contains (op.value a b)
  · exact .inl ⟨fits, (checkedOp_eq_ok_iff binary).mpr ⟨ha, hb, divisor, fits, rfl⟩⟩
  · exact .inr ⟨fits, _, checkedOp_eq_error (checked_result_out binary ha hb divisor fits)⟩

end Arith

namespace Pricing

/-! ## Multiples of the tick -/

variable {p tick : Int}

theorem isGreatest_sub_emod (positive : 0 < tick) :
    IsGreatest {m | tick ∣ m ∧ m ≤ p} (p - p % tick) := by
  have split : p - p % tick = tick * (p / tick) := by
    rw [Int.emod_def]
    omega
  have remainder := Int.emod_nonneg p positive.ne'
  refine ⟨⟨split ▸ Int.dvd_mul_right tick (p / tick), by omega⟩, ?_⟩
  rintro m ⟨⟨k, rfl⟩, below⟩
  have quotient : k ≤ p / tick := Int.le_ediv_of_mul_le positive (by rw [Int.mul_comm]; exact below)
  rw [split]
  exact Int.mul_le_mul_of_nonneg_left quotient positive.le

theorem emod_pos_of_not_dvd (positive : 0 < tick) (off : ¬ tick ∣ p) : 0 < p % tick := by
  have nonzero : p % tick ≠ 0 := fun zero => off (Int.dvd_iff_emod_eq_zero.mpr zero)
  have := Int.emod_nonneg p positive.ne'
  omega

theorem isLeast_add_sub_emod (positive : 0 < tick) (off : ¬ tick ∣ p) :
    IsLeast {m | tick ∣ m ∧ p ≤ m} (p + (tick - p % tick)) := by
  have remainder := emod_pos_of_not_dvd positive off
  have short := Int.emod_lt_of_pos p positive
  have split : p + (tick - p % tick) = tick * (p / tick + 1) := by
    rw [Int.emod_def, Int.mul_add, Int.mul_one]
    omega
  refine ⟨⟨split ▸ Int.dvd_mul_right tick (p / tick + 1), by omega⟩, ?_⟩
  rintro m ⟨⟨k, rfl⟩, above⟩
  -- a multiple at or above the price lies above the multiple `tick * (p / tick)` below it
  rw [Int.emod_def] at remainder
  have below : tick * (p / tick) < tick * k := by omega
  have quotient := Int.lt_of_mul_lt_mul_left below positive.le
  rw [split]
  exact Int.mul_le_mul_of_nonneg_left (by omega) positive.le

/-! ## Rounding in a type -/

/-- Where a price `p` off the grid of `tick` goes in the direction `d`: long to the greatest
multiple at or below it, short to the least multiple at or above it, two-way a whole tick up. -/
def RoundsTo (d : Direction) (tick p v : Int) : Prop :=
  match d with
  | .long => IsGreatest {m | tick ∣ m ∧ m ≤ p} v
  | .short => IsLeast {m | tick ∣ m ∧ p ≤ m} v
  | .twoWay => v = p + tick

variable {t : IntType}

theorem remainder_eq (hp : t.Contains p) (ht : t.Contains tick) (positive : 0 < tick) :
    checkedOp t .remEuclid p tick = .ok (p % tick) :=
  checkedOp_eq_exact (by decide) hp ht (fun _ => positive.ne')
    (t.contains_between t.contains_zero ht (Int.emod_nonneg p positive.ne')
      (Int.emod_lt_of_pos p positive).le)

theorem standardizeIn_off_grid (hp : t.Contains p) (ht : t.Contains tick) (positive : 0 < tick)
    (nonzero : p ≠ 0) (off : ¬ tick ∣ p) (d : Direction) :
    ∃ v, RoundsTo d tick p v ∧ ReturnsIn t (standardizeIn t p tick d) v := by
  have remainder := emod_pos_of_not_dvd positive off
  have short := Int.emod_lt_of_pos p positive
  simp only [standardizeIn, nonzero, remainder_eq hp ht positive, bind, Except.bind,
    remainder.ne', if_false]
  cases d with
  | long =>
    exact ⟨_, isGreatest_sub_emod positive,
      checkedOp_returnsIn (by decide) hp (t.contains_between t.contains_zero ht remainder.le
        short.le) (fun divides => nomatch divides)⟩
  | short =>
    have lack : t.Contains (tick - p % tick) :=
      t.contains_between t.contains_zero ht (by omega) (by omega)
    have step : checkedOp t .sub tick (p % tick) = .ok (tick - p % tick) :=
      checkedOp_sub_eq_ok ht (t.contains_between t.contains_zero ht remainder.le short.le) lack
    simp only [step]
    exact ⟨_, isLeast_add_sub_emod positive off,
      checkedOp_returnsIn (by decide) hp lack (fun divides => nomatch divides)⟩
  | twoWay =>
    exact ⟨_, rfl, checkedOp_returnsIn (by decide) hp ht (fun divides => nomatch divides)⟩

/-- The rounding of the price `p` to the grid of `tick` in the type `t`, in each direction. -/
structure RoundsToGrid (t : IntType) (round : Direction → Except Failure Int) (p tick : Int) :
    Prop where
  zero : p = 0 → ∀ d, round d = .ok 0
  onGrid : tick ∣ p → ∀ d, round d = .ok p
  offGrid : p ≠ 0 → ¬ tick ∣ p → ∀ d, ∃ v, RoundsTo d tick p v ∧ ReturnsIn t (round d) v
  brackets : ∀ lo hi, round .long = .ok lo → round .short = .ok hi →
    lo ≤ p ∧ p ≤ hi ∧ tick ∣ lo ∧ tick ∣ hi

theorem standardizeIn_roundsToGrid (hp : t.Contains p) (ht : t.Contains tick)
    (positive : 0 < tick) : RoundsToGrid t (standardizeIn t p tick) p tick := by
  have onGrid : tick ∣ p → ∀ d, standardizeIn t p tick d = .ok p := by
    intro on d
    by_cases zero : p = 0
    · simp [standardizeIn, zero, pure, Except.pure]
    · simp [standardizeIn, zero, remainder_eq hp ht positive, bind, Except.bind, pure, Except.pure,
        Int.dvd_iff_emod_eq_zero.mp on]
  have offGrid := standardizeIn_off_grid hp ht positive
  refine ⟨fun zero d => by simp [standardizeIn, zero, pure, Except.pure], onGrid, offGrid, ?_⟩
  intro lo hi long short
  by_cases on : tick ∣ p
  · rw [onGrid on, Except.ok.injEq] at long short
    subst long short
    exact ⟨Int.le_refl p, Int.le_refl p, on, on⟩
  · -- off the grid the two results are the greatest multiple below and the least above
    have nonzero : p ≠ 0 := fun zero => on (zero ▸ Int.dvd_zero tick)
    obtain ⟨below, greatest, returnsBelow⟩ := offGrid nonzero on .long
    obtain ⟨above, least, returnsAbove⟩ := offGrid nonzero on .short
    obtain rfl := returnsBelow.eq_of_ok long
    obtain rfl := returnsAbove.eq_of_ok short
    exact ⟨greatest.1.2, least.1.2, greatest.1.1, least.1.1⟩

theorem standardizeData_int (t : IntType) (p tick : Int) (d : Direction) :
    standardizeData t (.int p) (.int tick) d = standardizeIn t p tick d := by
  by_cases zero : p = 0
  · simp [standardizeData, standardizeIn, zero]
  · simp [standardizeData, zero, bind, Except.bind]

theorem standardizeData_roundsToGrid (hp : t.Contains p) (ht : t.Contains tick)
    (positive : 0 < tick) : RoundsToGrid t (standardizeData t (.int p) (.int tick)) p tick := by
  rw [show standardizeData t (.int p) (.int tick) = standardizeIn t p tick from
    funext (standardizeData_int t p tick)]
  exact standardizeIn_roundsToGrid hp ht positive

end Pricing

open Pricing in
/-- Price standardization rounds in the order's direction. For a positive tick and a price of
`u64` (resp. `i64`), with the tick in the same type: a price of zero is kept, and so is a price on
the grid; otherwise a long price goes to the greatest multiple of the tick at or below it (toward
negative infinity for a negative price), a short price to the least multiple at or above it, and
a two-way price a whole tick up, each returned when the type holds it and a checked-arithmetic
failure when it does not. So the long result never lies above the price and the short result
never below, both multiples of the tick. -/
theorem standardized_price_rounds_to_grid :
    (∀ p tick : Int, IntType.u64.Contains p → IntType.u64.Contains tick → 0 < tick →
      RoundsToGrid IntType.u64 (standardizePrice (.int p) (.int tick)) p tick) ∧
    (∀ p tick : Int, IntType.i64.Contains p → IntType.i64.Contains tick → 0 < tick →
      RoundsToGrid IntType.i64 (standardizeSignedPrice (.int p) (.int tick)) p tick) :=
  ⟨fun _ _ hp ht positive => standardizeData_roundsToGrid hp ht positive,
    fun _ _ hp ht positive => standardizeData_roundsToGrid hp ht positive⟩

example : Pricing.standardizeSignedPrice (.int (-1234567)) (.int 1000) .long = .ok (-1235000) := rfl

open Pricing in
/-- An unsigned price of `1234567` and a signed price of `-1234567`, both with a tick of `1000`,
are rounded to the grid. -/
theorem sample_prices_round_to_grid :
    RoundsToGrid IntType.u64 (standardizePrice (.int 1234567) (.int 1000)) 1234567 1000 ∧
      RoundsToGrid IntType.i64 (standardizeSignedPrice (.int (-1234567)) (.int 1000)) (-1234567)
        1000 :=
  ⟨standardized_price_rounds_to_grid.1 1234567 1000 (by decide) (by decide) (by decide),
    standardized_price_rounds_to_grid.2 (-1234567) 1000 (by decide) (by decide) (by decide)⟩

end MarginLending

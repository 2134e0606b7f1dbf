import MarginLending.Proofs.Checked
import MarginLending.Lending.Balance

/-! The value of a token amount, and its strict value.

A signed amount `t` of a token with `d` decimals is worth `⌊t · q / 10^d⌋` at the price `q`.
The product `t · q` is an `i128`; a negative product is divided toward negative infinity and a
non-negative one toward zero, which for the positive divisor `10^d` is the same floor, and `i128`
holds `10^d` up to 38 decimals. The strict value of an amount that is not zero needs a positive
oracle price and a positive TWAP and refuses anything else as an invalid oracle. It values a long
amount at the lower of the two prices and a short amount at the higher: the price with the lower
product. The floor of a quotient by a positive divisor is monotone, so the strict value is the
smaller of the amount's values at the two prices, the valuation least favourable to its holder.
-/

set_option autoImplicit false

namespace MarginLending

open Arith Data

theorem Arith.IntType.contains_ediv (t : IntType) {a b : Int} (member : t.Contains a)
    (positive : 0 < b) : t.Contains (a / b) := by
  rcases le_total 0 a with nonneg | nonpos
  · exact ⟨le_trans t.min_le_zero (Int.ediv_nonneg nonneg positive.le),
      le_trans (Int.ediv_le_self b nonneg) member.2⟩
  · have above : a ≤ a / b :=
      Int.le_ediv_of_mul_le positive (by nlinarith)
    have below : a / b ≤ 0 := by
      simpa using Int.ediv_le_ediv positive nonpos
    exact ⟨le_trans member.1 above, le_trans below t.zero_le_max⟩

namespace Lending

variable {t q d v P : Int}

/-! ## The precision and one valuation -/

theorem tokenPrecision_eq_ok (ok : tokenPrecision (.int d) = .ok P) :
    0 ≤ d ∧ IntType.i128.Contains P ∧ P = 10 ^ d.toNat := by
  rw [tokenPrecision, checkedData_int] at ok
  obtain ⟨-, low, -, fits, rfl⟩ := checkedOp_pow_eq_ok_iff.mp ok
  exact ⟨low, fits, rfl⟩

theorem tokenPrecision_of_le (low : 0 ≤ d) (high : d ≤ 38) :
    tokenPrecision (.int d) = .ok (10 ^ d.toNat) := by
  have bound : (10 : Int) ^ d.toNat ≤ 10 ^ 38 := pow_le_pow_right₀ (by decide) (by omega)
  have positive : (0 : Int) < 10 ^ d.toNat := by positivity
  have top : (10 : Int) ^ 38 < 170141183460469231731687303715884105727 := by decide
  rw [tokenPrecision, checkedData_int]
  refine checkedOp_pow_eq_ok_iff.mpr ⟨by decide, low, by omega, ?_, rfl⟩
  simp only [IntType.Contains, IntType.i128_min, IntType.i128_max]
  omega

/-- A valuation divides the `i128` product by the precision, toward negative infinity when it is
negative and toward zero otherwise: either way the floor `t · q / P`. -/
theorem valueAt_eq_ok (ok : valueAt (.int t) (.int d) (.int q) = .ok v) :
    IntType.i128.Contains (t * q) ∧
      ∃ P, tokenPrecision (.int d) = .ok P ∧ 0 < P ∧ v = t * q / P := by
  simp only [valueAt, checkedData_int, except_bind_eq_ok] at ok
  obtain ⟨value, product, P, precision, divided⟩ := ok
  obtain ⟨-, -, inRange, rfl⟩ := checkedOp_ok_of_binary (by decide) product
  obtain ⟨-, -, rfl⟩ := tokenPrecision_eq_ok precision
  have positive : (0 : Int) < 10 ^ d.toNat := by positivity
  refine ⟨inRange, _, precision, positive, ?_⟩
  split at divided
  · obtain ⟨-, -, -, rfl⟩ := checkedOp_ok_of_binary (by decide) divided
    exact Int.fdiv_eq_ediv_of_nonneg _ positive.le
  · obtain ⟨-, -, -, rfl⟩ := checkedOp_ok_of_binary (by decide) divided
    exact Int.tdiv_eq_ediv_of_nonneg (not_lt.mp ‹_›)

theorem valueAt_eq (ht : IntType.i128.Contains t) (hq : IntType.i128.Contains q)
    (hv : IntType.i128.Contains (t * q)) (precision : tokenPrecision (.int d) = .ok P) :
    valueAt (.int t) (.int d) (.int q) = .ok (t * q / P) := by
  obtain ⟨-, hP, rfl⟩ := tokenPrecision_eq_ok precision
  have positive : (0 : Int) < 10 ^ d.toNat := by positivity
  have quotient := IntType.i128.contains_ediv hv positive
  simp only [valueAt, checkedData_int, checkedOp_mul_eq_ok ht hq hv, precision, bind,
    Except.bind]
  split
  · rw [← Int.fdiv_eq_ediv_of_nonneg _ positive.le] at quotient ⊢
    exact checkedOp_eq_exact (by decide) hv hP (fun _ => positive.ne') quotient
  · rw [← Int.tdiv_eq_ediv_of_nonneg (not_lt.mp ‹_›)] at quotient ⊢
    exact checkedOp_eq_exact (by decide) hv hP (fun _ => positive.ne') quotient

theorem valueAt_error {f : Failure} (failed : valueAt (.int t) (.int d) (.int q) = .error f) :
    ∃ g, f = .arith g := by
  unfold valueAt tokenPrecision at failed
  simp only [checkedData_int] at failed
  rcases except_bind_eq_error.mp failed with product | ⟨value, -, rest⟩
  · exact checkedOp_error product
  rcases except_bind_eq_error.mp rest with precision | ⟨P, -, divided⟩
  · exact checkedOp_error precision
  split at divided <;> exact checkedOp_error divided

theorem tokenValue_of_ne_zero {decimals price : Value} (nonzero : t ≠ 0) :
    tokenValue (.int t) decimals price = valueAt (.int t) decimals price := by
  simp [tokenValue, nonzero]

theorem floor_div_pow_ten (a : Int) (n : Nat) : ⌊(a : ℚ) / 10 ^ n⌋ = a / 10 ^ n := by
  have floored := Rat.floor_intCast_div_natCast a (10 ^ n)
  push_cast at floored
  exact floored

theorem tokenValue_eq_floor (low : 0 ≤ d) (high : d ≤ 38) (ht : IntType.i128.Contains t)
    (hq : IntType.i128.Contains q) (hv : IntType.i128.Contains (t * q)) :
    tokenValue (.int t) (.int d) (.int q) = .ok ⌊((t * q : ℤ) : ℚ) / 10 ^ d⌋ := by
  have power : (10 : ℚ) ^ d = 10 ^ d.toNat := by
    rw [← zpow_natCast, Int.toNat_of_nonneg low]
  rw [power, floor_div_pow_ten]
  by_cases zero : t = 0
  · simp [tokenValue, zero]
  · rw [tokenValue_of_ne_zero zero]
    exact valueAt_eq ht hq hv (tokenPrecision_of_le low high)

/-! ## The strict value -/

variable {w : Int} {r : Reading} {decimals : Value}

theorem strictValue_zero {twap : Value} : strictValue (.int 0) decimals r twap = .ok 0 := by
  simp [strictValue, pure, Except.pure]

theorem strictValue_refused (nonzero : t ≠ 0) (bad : w ≤ 0 ∨ r.price ≤ 0) :
    strictValue (.int t) decimals r (.int w) =
      .error (.strictPrice r.price (Value.int w).shown) := by
  have refused : (decide (w ≤ 0) || decide (r.price ≤ 0)) = true := by
    simpa using bad
  simp [strictValue, nonzero, Value.compareBy_int, Value.holds_le_int, refused, bind,
    Except.bind, throw, throwThe, MonadExceptOf.throw]

theorem strictValue_priced (nonzero : t ≠ 0) (hp : 0 < r.price) (hw : 0 < w) :
    strictValue (.int t) decimals r (.int w) =
      valueAt (.int t) decimals (.int (if 0 < t then min r.price w else max r.price w)) := by
  have accepted : (decide (w ≤ 0) || decide (r.price ≤ 0)) = false := by
    simp only [Bool.or_eq_false_iff, decide_eq_false_iff_not, not_le]
    exact ⟨hw, hp⟩
  by_cases long : 0 < t
  · simp [strictValue, nonzero, Value.compareBy_int, Value.holds_le_int, Value.holds_gt_int,
      Value.smallerOf_int, accepted, long, bind, Except.bind]
  · simp [strictValue, nonzero, Value.compareBy_int, Value.holds_le_int, Value.holds_gt_int,
      Value.largerOf_int, accepted, long, bind, Except.bind]

theorem strictPrice_cases (nonzero : t ≠ 0) (p w : Int) :
    ((if 0 < t then min p w else max p w) = p ∧ t * p ≤ t * w) ∨
      ((if 0 < t then min p w else max p w) = w ∧ t * w ≤ t * p) := by
  rcases lt_or_gt_of_ne nonzero with short | long
  · rw [if_neg (not_lt.mpr short.le)]
    rcases le_total p w with pw | wp
    · exact .inr ⟨max_eq_right pw, mul_le_mul_of_nonpos_left pw short.le⟩
    · exact .inl ⟨max_eq_left wp, mul_le_mul_of_nonpos_left wp short.le⟩
  · rw [if_pos long]
    rcases le_total p w with pw | wp
    · exact .inl ⟨min_eq_left pw, mul_le_mul_of_nonneg_left pw long.le⟩
    · exact .inr ⟨min_eq_right wp, mul_le_mul_of_nonneg_left wp long.le⟩

/-- Where the amount's values at both prices exist, the strict value is the smaller of them. -/
theorem strictValue_eq_min {a b : Int} (nonzero : t ≠ 0) (hp : 0 < r.price) (hw : 0 < w)
    (atPrice : tokenValue (.int t) (.int d) (.int r.price) = .ok a)
    (atTwap : tokenValue (.int t) (.int d) (.int w) = .ok b) :
    strictValue (.int t) (.int d) r (.int w) = .ok (min a b) := by
  rw [tokenValue_of_ne_zero nonzero] at atPrice atTwap
  obtain ⟨-, P, precision, positive, rfl⟩ := valueAt_eq_ok atPrice
  obtain ⟨-, P', precision', -, rfl⟩ := valueAt_eq_ok atTwap
  obtain rfl : P' = P := Except.ok.inj (precision'.symm.trans precision)
  rw [strictValue_priced nonzero hp hw]
  -- the value at the price with the lower product is the lower value
  rcases strictPrice_cases nonzero r.price w with ⟨chosen, lower⟩ | ⟨chosen, lower⟩
  · rw [chosen, atPrice, min_eq_left (Int.ediv_le_ediv positive lower)]
  · rw [chosen, atTwap, min_eq_right (Int.ediv_le_ediv positive lower)]

theorem strictValue_invalidOracle_iff :
    (∃ f, strictValue (.int t) (.int d) r (.int w) = .error f ∧ f.kind = "InvalidOracle") ↔
      t ≠ 0 ∧ min r.price w ≤ 0 := by
  constructor
  · rintro ⟨f, failed, invalid⟩
    by_cases zero : t = 0
    · rw [zero, strictValue_zero] at failed
      cases failed
    refine ⟨zero, not_lt.mp fun positive => ?_⟩
    -- with both prices positive the strict value is a valuation, which fails only in arithmetic
    rw [strictValue_priced zero (lt_min_iff.mp positive).1 (lt_min_iff.mp positive).2] at failed
    obtain ⟨g, rfl⟩ := valueAt_error failed
    simp [Failure.kind] at invalid
  · rintro ⟨nonzero, low⟩
    exact ⟨_, strictValue_refused nonzero (by omega), rfl⟩

end Lending

open Lending in
/-- The strict value is the worse of the two valuations. A signed amount `t` of a token with
`d` decimals, `0 ≤ d ≤ 38`, is worth `⌊t · q / 10^d⌋` at a price `q` whenever `t`, `q` and
`t · q` are `i128`s. For an amount that is not zero, a positive oracle price and a positive
TWAP at which both valuations succeed, the strict value is the smaller of the two. The strict
value refuses the oracle exactly when the amount is not zero and one of the prices is not
positive. -/
theorem strict_value_is_lesser_valuation :
    (∀ t q d : Int, 0 ≤ d → d ≤ 38 → IntType.i128.Contains t →
      IntType.i128.Contains q → IntType.i128.Contains (t * q) →
      tokenValue (.int t) (.int d) (.int q) = .ok ⌊((t * q : ℤ) : ℚ) / 10 ^ d⌋) ∧
    (∀ (t d w a b : Int) (r : Reading), t ≠ 0 → 0 < r.price → 0 < w →
      tokenValue (.int t) (.int d) (.int r.price) = .ok a →
      tokenValue (.int t) (.int d) (.int w) = .ok b →
      strictValue (.int t) (.int d) r (.int w) = .ok (min a b)) ∧
    (∀ (t d w : Int) (r : Reading),
      (∃ f, strictValue (.int t) (.int d) r (.int w) = .error f ∧ f.kind = "InvalidOracle") ↔
        t ≠ 0 ∧ min r.price w ≤ 0) :=
  ⟨fun _ _ _ low high ht hq hv => tokenValue_eq_floor low high ht hq hv,
    fun _ _ _ _ _ _ nonzero hp hw atPrice atTwap =>
      strictValue_eq_min nonzero hp hw atPrice atTwap,
    fun _ _ _ _ => strictValue_invalidOracle_iff⟩

open Lending in
/-- Three tokens short at one decimal and a price of one are worth `⌊-0.3⌋ = -1`; a long amount
of one token at six decimals, at an oracle price of `2.0` and a TWAP of `1.9`, is valued at the
TWAP. -/
theorem sample_strict_values :
    tokenValue (.int (-3)) (.int 1) (.int 1) = .ok ⌊((-3 * 1 : ℤ) : ℚ) / 10 ^ (1 : ℤ)⌋ ∧
      strictValue (.int 1000000) (.int 6) ⟨2000000, 0, 0, true⟩ (.int 1900000) =
        .ok (min 2000000 1900000) :=
  ⟨strict_value_is_lesser_valuation.1 (-3) 1 1 (by decide) (by decide) (by decide) (by decide)
      (by decide),
    strict_value_is_lesser_valuation.2.1 1000000 6 1900000 2000000 1900000 ⟨2000000, 0, 0, true⟩
      (by decide) (by decide) (by decide) (by rfl) (by rfl)⟩

end MarginLending

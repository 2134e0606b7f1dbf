import Mathlib.Data.Rat.Floor
import MarginLending.Failure

/-! Checked arithmetic is exact.

Each operation is read against the value it stands for over the rationals (`ArithOp.value`):
division truncates toward zero, `ceilDiv` and `floorDiv` take the ceiling and the floor of `a / b`,
and the remainder is what is left of `a` after the floor of `a / |b|` multiples of `|b|`. A
checked operation returns that value exactly when both operands, the divisor and the value pass
their checks, and otherwise names the first check that failed. The early overflow of a power
never refuses a power that the type holds.
-/

set_option autoImplicit false

namespace MarginLending

theorem except_bind_eq_ok {ε α β : Type} {x : Except ε α} {f : α → Except ε β} {b : β} :
    x >>= f = .ok b ↔ ∃ a, x = .ok a ∧ f a = .ok b := by
  cases x <;> simp [bind, Except.bind]

theorem except_mapError_eq_ok {ε ε' α : Type} {x : Except ε α} {g : ε → ε'} {a : α} :
    x.mapError g = .ok a ↔ x = .ok a := by
  cases x with
  | error e => exact ⟨fun mapped => (nomatch mapped), fun raw => (nomatch raw)⟩
  | ok b =>
    constructor
    · intro mapped
      cases mapped
      rfl
    · intro raw
      cases raw
      rfl

theorem except_map_eq_ok {ε α β : Type} {x : Except ε α} {f : α → β} {b : β} :
    x.map f = .ok b ↔ ∃ a, x = .ok a ∧ f a = b := by
  cases x <;> simp [Except.map]

theorem except_bind_eq_error {ε α β : Type} {x : Except ε α} {f : α → Except ε β} {e : ε} :
    x >>= f = .error e ↔ x = .error e ∨ ∃ a, x = .ok a ∧ f a = .error e := by
  cases x <;> simp [bind, Except.bind]

theorem except_map_eq_error {ε α β : Type} {x : Except ε α} {f : α → β} {e : ε} :
    x.map f = .error e ↔ x = .error e := by
  cases x <;> simp [Except.map]

namespace Arith

/-! ## Integer quotients over the rationals -/

theorem fdiv_natCast_eq_floor (a : Int) (n : Nat) : a.fdiv n = ⌊(a : ℚ) / n⌋ := by
  rw [Int.fdiv_eq_ediv_of_nonneg a (Int.natCast_nonneg n), Rat.floor_intCast_div_natCast]

theorem fdiv_eq_floor (a b : Int) : a.fdiv b = ⌊(a : ℚ) / b⌋ := by
  obtain ⟨n, rfl | rfl⟩ := Int.eq_nat_or_neg b
  · simpa using fdiv_natCast_eq_floor a n
  · -- a negative divisor: move both signs to the dividend
    rw [← Int.neg_fdiv_neg, neg_neg, Int.cast_neg, ← neg_div_neg_eq, neg_neg, ← Int.cast_neg]
    simpa using fdiv_natCast_eq_floor (-a) n

theorem neg_fdiv_neg_eq_ceil (a b : Int) : -((-a).fdiv b) = ⌈(a : ℚ) / b⌉ := by
  rw [fdiv_eq_floor, Int.cast_neg, neg_div, Int.floor_neg, neg_neg]

theorem tdiv_eq_floor (a b : Int) (nonneg : 0 ≤ (a : ℚ) / b) : a.tdiv b = ⌊(a : ℚ) / b⌋ := by
  rw [← fdiv_eq_floor]
  rcases div_nonneg_iff.mp nonneg with ⟨ha, hb⟩ | ⟨ha, hb⟩
  · rw [Int.fdiv_eq_tdiv_of_nonneg (by exact_mod_cast ha) (by exact_mod_cast hb)]
  · have ha : a ≤ 0 := by exact_mod_cast ha
    have hb : b ≤ 0 := by exact_mod_cast hb
    rw [← Int.neg_fdiv_neg, ← Int.neg_tdiv_neg, Int.fdiv_eq_tdiv_of_nonneg (by omega) (by omega)]

theorem tdiv_eq_ceil (a b : Int) (neg : (a : ℚ) / b < 0) : a.tdiv b = ⌈(a : ℚ) / b⌉ := by
  have flipped : 0 ≤ ((-a : Int) : ℚ) / b := by
    rw [Int.cast_neg, neg_div]
    linarith
  rw [← neg_neg (a.tdiv b), ← Int.neg_tdiv, tdiv_eq_floor _ _ flipped, Int.cast_neg, neg_div,
    Int.floor_neg, neg_neg]

theorem emod_eq_sub_floor (a b : Int) : a % b = a - |b| * ⌊(a : ℚ) / ((|b| : Int) : ℚ)⌋ := by
  have quotient : ⌊(a : ℚ) / ((|b| : Int) : ℚ)⌋ = a / |b| := by
    rw [← Int.natCast_natAbs, Int.cast_natCast, Rat.floor_intCast_div_natCast]
  rw [quotient, ← Int.emod_abs, Int.emod_def]

/-! ## What each operation stands for -/

/-- The value an operation stands for. Division truncates toward zero: the floor of a
non-negative quotient, the ceiling of a negative one. The remainder is `a` less the floor of
`a / |b|` multiples of `|b|`; a power reads its exponent as a natural number. -/
def ArithOp.value : ArithOp → Int → Int → Int
  | .add, a, b => a + b
  | .sub, a, b => a - b
  | .mul, a, b => a * b
  | .div, a, b => if 0 ≤ (a : ℚ) / b then ⌊(a : ℚ) / b⌋ else ⌈(a : ℚ) / b⌉
  | .ceilDiv, a, b => ⌈(a : ℚ) / b⌉
  | .floorDiv, a, b => ⌊(a : ℚ) / b⌋
  | .remEuclid, a, b => a - |b| * ⌊(a : ℚ) / ((|b| : Int) : ℚ)⌋
  | .pow, a, b => a ^ b.toNat

theorem exact_eq_value (op : ArithOp) (a b : Int) : exact op a b = op.value a b := by
  cases op with
  | div =>
    simp only [exact, ArithOp.value]
    split
    · exact tdiv_eq_floor a b ‹_›
    · exact tdiv_eq_ceil a b (lt_of_not_ge ‹_›)
  | ceilDiv => exact neg_fdiv_neg_eq_ceil a b
  | floorDiv => exact fdiv_eq_floor a b
  | remEuclid => exact emod_eq_sub_floor a b
  | pow => exact power_eq a b.toNat
  | add | sub | mul => rfl

theorem remEuclid_value_bounds (a b : Int) (nonzero : b ≠ 0) :
    0 ≤ ArithOp.remEuclid.value a b ∧ ArithOp.remEuclid.value a b < |b| := by
  rw [← exact_eq_value]
  exact ⟨Int.emod_nonneg a nonzero, Int.emod_lt_abs a nonzero⟩

/-! ## Ranges of the types -/

namespace IntType

theorem natAbs_lt_of_contains (t : IntType) {v : Int} (member : t.Contains v) :
    v.natAbs < 2 ^ t.bits := by
  obtain ⟨low, high⟩ := member
  have width : 2 ^ t.bits = 2 * 2 ^ (t.bits - 1) := by
    rw [← Nat.pow_succ']
    congr 1
    have := t.bits_pos
    omega
  unfold IntType.min at low
  unfold IntType.max at high
  rw [width] at high ⊢
  generalize 2 ^ (t.bits - 1) = p at low high ⊢
  cases signed : t.signed <;> simp only [signed, ite_true, ite_false, Bool.false_eq_true] at low high
    <;> omega

theorem not_contains_pow (t : IntType) {a : Int} {n : Nat} (big : 1 < a.natAbs) (wide : t.bits ≤ n) :
    ¬ t.Contains (a ^ n) := by
  intro member
  have bound := t.natAbs_lt_of_contains member
  rw [Int.natAbs_pow] at bound
  have : 2 ^ t.bits ≤ a.natAbs ^ n :=
    calc 2 ^ t.bits ≤ 2 ^ n := Nat.pow_le_pow_right (by decide) wide
      _ ≤ a.natAbs ^ n := Nat.pow_le_pow_left big n
  omega

end IntType

/-! ## The checks of `checked` -/

variable {t : IntType} {op : ArithOp} {a b r r' : Int}

theorem within_eq_ok_iff : within t op a b r = .ok r' ↔ t.Contains r ∧ r' = r := by
  unfold within
  split <;> simp_all [eq_comm]

theorem within_of_not_contains (outside : ¬ t.Contains r) :
    within t op a b r = .error ⟨op, t, a, b, if t.max < r then .overflow else .underflow⟩ := by
  simp [within, outside]

theorem checked_eq_ok_iff (binary : op ≠ .pow) :
    checked t op a b = .ok r ↔ t.Contains a ∧ t.Contains b ∧ (op.divides → b ≠ 0) ∧
      t.Contains (op.value a b) ∧ r = op.value a b := by
  rw [← exact_eq_value]
  unfold checked
  -- the checks in the order they run: left operand, right operand, divisor, result
  by_cases ha : t.Contains a
  · by_cases hb : t.Contains b
    · by_cases zero : op.divides ∧ b = 0
      · obtain ⟨divides, rfl⟩ := zero
        simp [ha, hb, divides, binary]
      · have divisor : op.divides → b ≠ 0 := fun d z => zero ⟨d, z⟩
        simp only [ha, hb, zero, binary, not_true, if_false, within_eq_ok_iff, true_and]
        exact ⟨fun found => ⟨divisor, found⟩, And.right⟩
    · simp [ha, hb, binary]
  · simp [ha]

theorem checked_pow_eq_ok_iff :
    checked t .pow a b = .ok r ↔ t.Contains a ∧ 0 ≤ b ∧ b < 2 ^ 32 ∧
      t.Contains (a ^ b.toNat) ∧ r = a ^ b.toNat := by
  have value := exact_eq_value .pow a b
  simp only [ArithOp.value] at value
  have range : IntType.u32.Contains b ↔ 0 ≤ b ∧ b < 2 ^ 32 := by
    simp only [IntType.Contains, IntType.u32_min, IntType.u32_max]
    omega
  unfold checked
  -- the base is checked, then the exponent against u32, then the early exit, then the power
  by_cases ha : t.Contains a
  · by_cases he : IntType.u32.Contains b
    · by_cases early : 1 < a.natAbs ∧ (t.bits : Int) ≤ b
      · -- the early exit refuses only powers that the type cannot hold
        have outside := t.not_contains_pow (n := b.toNat) early.1 (by omega)
        simp [ha, he, early, outside]
      · simp only [ha, he, early, not_true, if_false, if_true, within_eq_ok_iff, value,
          range.mp he, true_and]
    · simp only [ha, he, not_true, not_false_eq_true, if_true, if_false, reduceCtorEq,
        false_iff, true_and, not_and]
      intro low high
      exact absurd (range.mpr ⟨low, high⟩) he
  · simp [ha]

theorem checked_left_out (outside : ¬ t.Contains a) :
    checked t op a b = .error ⟨op, t, a, b, .operand a⟩ := by
  simp [checked, outside]

theorem checked_right_out (binary : op ≠ .pow) (ha : t.Contains a) (outside : ¬ t.Contains b) :
    checked t op a b = .error ⟨op, t, a, b, .operand b⟩ := by
  simp [checked, binary, ha, outside]

theorem checked_zero_divisor (binary : op ≠ .pow) (divides : op.divides) (ha : t.Contains a) :
    checked t op a 0 = .error ⟨op, t, a, 0, .divisionByZero⟩ := by
  simp [checked, binary, ha, divides, t.contains_zero]

theorem checked_result_out (binary : op ≠ .pow) (ha : t.Contains a) (hb : t.Contains b)
    (divisor : op.divides → b ≠ 0) (outside : ¬ t.Contains (op.value a b)) :
    checked t op a b =
      .error ⟨op, t, a, b, if t.max < op.value a b then .overflow else .underflow⟩ := by
  have nonzero : ¬ (op.divides ∧ b = 0) := fun ⟨d, z⟩ => divisor d z
  rw [← exact_eq_value] at outside ⊢
  simp only [checked, binary, ha, hb, nonzero, not_true, if_false]
  exact within_of_not_contains outside

theorem checked_pow_early (ha : t.Contains a) (he : IntType.u32.Contains b) (big : 1 < a.natAbs)
    (wide : (t.bits : Int) ≤ b) :
    checked t .pow a b = .error ⟨.pow, t, a, b, .overflow⟩ := by
  simp [checked, ha, he, big, wide]

/-! ## Checked operations as the kernel raises them -/

theorem checkedOp_eq_ok_iff (binary : op ≠ .pow) :
    checkedOp t op a b = .ok r ↔ t.Contains a ∧ t.Contains b ∧ (op.divides → b ≠ 0) ∧
      t.Contains (op.value a b) ∧ r = op.value a b := by
  rw [checkedOp, except_mapError_eq_ok, checked_eq_ok_iff binary]

theorem checkedOp_ok_of_binary (binary : op ≠ .pow) (ok : checkedOp t op a b = .ok r) :
    t.Contains a ∧ t.Contains b ∧ t.Contains r ∧ r = exact op a b := by
  obtain ⟨ha, hb, -, hr, rfl⟩ := (checkedOp_eq_ok_iff binary).mp ok
  exact ⟨ha, hb, hr, (exact_eq_value op a b).symm⟩

theorem checkedOp_eq_exact (binary : op ≠ .pow) (ha : t.Contains a) (hb : t.Contains b)
    (divisor : op.divides → b ≠ 0) (fits : t.Contains (exact op a b)) :
    checkedOp t op a b = .ok (exact op a b) := by
  rw [exact_eq_value] at fits ⊢
  exact (checkedOp_eq_ok_iff binary).mpr ⟨ha, hb, divisor, fits, rfl⟩

theorem checkedOp_pow_eq_ok_iff :
    checkedOp t .pow a b = .ok r ↔ t.Contains a ∧ 0 ≤ b ∧ b < 2 ^ 32 ∧
      t.Contains (a ^ b.toNat) ∧ r = a ^ b.toNat := by
  rw [checkedOp, except_mapError_eq_ok, checked_pow_eq_ok_iff]

theorem checkedOp_eq_error {f : Fault} (refused : checked t op a b = .error f) :
    checkedOp t op a b = .error (.arith f) := by
  rw [checkedOp, refused]
  rfl

theorem checkedOp_error {e : Failure} (failed : checkedOp t op a b = .error e) :
    ∃ f, e = .arith f := by
  cases refused : checked t op a b with
  | error f =>
    rw [checkedOp, refused] at failed
    exact ⟨f, (Except.error.inj failed).symm⟩
  | ok r =>
    rw [checkedOp, refused] at failed
    cases failed

theorem checkedOp_overflow (binary : op ≠ .pow) (ha : t.Contains a) (hb : t.Contains b)
    (divisor : op.divides → b ≠ 0) (above : t.max < op.value a b) :
    checkedOp t op a b = .error (.arith ⟨op, t, a, b, .overflow⟩) := by
  have outside : ¬ t.Contains (op.value a b) := fun member => absurd member.2 (not_le.mpr above)
  apply checkedOp_eq_error
  rw [checked_result_out binary ha hb divisor outside, if_pos above]

theorem checkedOp_underflow (binary : op ≠ .pow) (ha : t.Contains a) (hb : t.Contains b)
    (divisor : op.divides → b ≠ 0) (below : op.value a b < t.min) :
    checkedOp t op a b = .error (.arith ⟨op, t, a, b, .underflow⟩) := by
  have outside : ¬ t.Contains (op.value a b) := fun member => absurd member.1 (not_le.mpr below)
  -- a value below the minimum is below zero, hence not above the maximum
  have notAbove : ¬ t.max < op.value a b := by
    have := t.min_le_zero
    have := t.zero_le_max
    omega
  apply checkedOp_eq_error
  rw [checked_result_out binary ha hb divisor outside, if_neg notAbove]

theorem checkedOp_pow_early (ha : t.Contains a) (low : 0 ≤ b) (high : b < 2 ^ 32)
    (big : 1 < a.natAbs) (wide : (t.bits : Int) ≤ b) :
    checkedOp t .pow a b = .error (.arith ⟨.pow, t, a, b, .overflow⟩) ∧
      ¬ t.Contains (a ^ b.toNat) := by
  have he : IntType.u32.Contains b := by
    simp only [IntType.Contains, IntType.u32_min, IntType.u32_max]
    omega
  exact ⟨checkedOp_eq_error (checked_pow_early ha he big wide),
    t.not_contains_pow big (by omega)⟩

/-- Checked arithmetic on integers: the seven binary operations return the value they stand for
exactly when both operands lie in the type, a divisor is not zero and the value lies in the type;
otherwise they refuse with the first check that fails, left operand first. A power returns
`a ^ e` exactly when the base lies in the type, the exponent in `u32` and the power in the type,
and its early overflow refuses only powers that the type cannot hold. -/
theorem checkedOp_exact_iff_in_range (t : IntType) :
    (∀ op a b r, op ≠ .pow → (checkedOp t op a b = .ok r ↔ t.Contains a ∧ t.Contains b ∧
        (op.divides → b ≠ 0) ∧ t.Contains (op.value a b) ∧ r = op.value a b)) ∧
    (∀ a b : Int, b ≠ 0 →
        0 ≤ ArithOp.remEuclid.value a b ∧ ArithOp.remEuclid.value a b < |b|) ∧
    (∀ op a b, ¬ t.Contains a → checkedOp t op a b = .error (.arith ⟨op, t, a, b, .operand a⟩)) ∧
    (∀ op a b, op ≠ .pow → t.Contains a → ¬ t.Contains b →
        checkedOp t op a b = .error (.arith ⟨op, t, a, b, .operand b⟩)) ∧
    (∀ op a, op ≠ .pow → op.divides → t.Contains a →
        checkedOp t op a 0 = .error (.arith ⟨op, t, a, 0, .divisionByZero⟩)) ∧
    (∀ op a b, op ≠ .pow → t.Contains a → t.Contains b → (op.divides → b ≠ 0) →
        t.max < op.value a b → checkedOp t op a b = .error (.arith ⟨op, t, a, b, .overflow⟩)) ∧
    (∀ op a b, op ≠ .pow → t.Contains a → t.Contains b → (op.divides → b ≠ 0) →
        op.value a b < t.min → checkedOp t op a b = .error (.arith ⟨op, t, a, b, .underflow⟩)) ∧
    (∀ a e r, checkedOp t .pow a e = .ok r ↔ t.Contains a ∧ 0 ≤ e ∧ e < 2 ^ 32 ∧
        t.Contains (a ^ e.toNat) ∧ r = a ^ e.toNat) ∧
    (∀ a e, t.Contains a → 0 ≤ e → e < 2 ^ 32 → 1 < a.natAbs → (t.bits : Int) ≤ e →
        checkedOp t .pow a e = .error (.arith ⟨.pow, t, a, e, .overflow⟩) ∧
          ¬ t.Contains (a ^ e.toNat)) :=
  ⟨fun _ _ _ _ binary => checkedOp_eq_ok_iff binary,
    fun a b nonzero => remEuclid_value_bounds a b nonzero,
    fun _ _ _ outside => checkedOp_eq_error (checked_left_out outside),
    fun _ _ _ binary ha outside => checkedOp_eq_error (checked_right_out binary ha outside),
    fun _ _ binary divides ha => checkedOp_eq_error (checked_zero_divisor binary divides ha),
    fun _ _ _ binary ha hb divisor above => checkedOp_overflow binary ha hb divisor above,
    fun _ _ _ binary ha hb divisor below => checkedOp_underflow binary ha hb divisor below,
    fun _ _ _ => checkedOp_pow_eq_ok_iff,
    fun _ _ ha low high big wide => checkedOp_pow_early ha low high big wide⟩

theorem i64_division_truncates : checkedOp IntType.i64 .div (-7) 2 = .ok (-3) := by
  have value : ArithOp.div.value (-7) 2 = -3 := by
    rw [← exact_eq_value]
    decide
  refine ((checkedOp_exact_iff_in_range IntType.i64).1 .div (-7) 2 (-3) (by decide)).mpr ?_
  rw [value]
  decide

/-! ## Unsigned operations

In an unsigned type every operand and result is non-negative, so a division is the floor
quotient `a / b` of `Int` and a product or a sum is exact. Chains of `u128` operations are read
through these lemmas. -/

theorem IntType.nonneg_of_contains (unsigned : t.signed = false) {v : Int} (member : t.Contains v) :
    0 ≤ v := by
  have low := member.1
  simp only [IntType.min, unsigned, Bool.false_eq_true, if_false] at low
  exact low

theorem IntType.pos_of_contains (unsigned : t.signed = false) {v : Int} (member : t.Contains v)
    (nonzero : v ≠ 0) : 0 < v :=
  lt_of_le_of_ne (IntType.nonneg_of_contains unsigned member) (Ne.symm nonzero)

/-- A type whose range takes in another's holds every value of the other. -/
theorem IntType.Contains.widen {narrow wide : IntType} {v : Int} (member : narrow.Contains v)
    (low : wide.min ≤ narrow.min) (high : narrow.max ≤ wide.max) : wide.Contains v :=
  ⟨Int.le_trans low member.1, Int.le_trans member.2 high⟩

theorem checkedOp_add_unsigned (unsigned : t.signed = false) (ok : checkedOp t .add a b = .ok r) :
    0 ≤ a ∧ 0 ≤ b ∧ r = a + b := by
  obtain ⟨ha, hb, -, rfl⟩ := checkedOp_ok_of_binary (by decide) ok
  exact ⟨IntType.nonneg_of_contains unsigned ha, IntType.nonneg_of_contains unsigned hb, rfl⟩

theorem checkedOp_mul_unsigned (unsigned : t.signed = false) (ok : checkedOp t .mul a b = .ok r) :
    0 ≤ a ∧ 0 ≤ b ∧ r = a * b := by
  obtain ⟨ha, hb, -, rfl⟩ := checkedOp_ok_of_binary (by decide) ok
  exact ⟨IntType.nonneg_of_contains unsigned ha, IntType.nonneg_of_contains unsigned hb, rfl⟩

theorem checkedOp_div_unsigned (unsigned : t.signed = false) (ok : checkedOp t .div a b = .ok r) :
    0 ≤ a ∧ 0 < b ∧ r = a / b := by
  obtain ⟨ha, hb, divisor, -, rfl⟩ := (checkedOp_eq_ok_iff (by decide)).mp ok
  have dividend := IntType.nonneg_of_contains unsigned ha
  refine ⟨dividend, IntType.pos_of_contains unsigned hb (divisor rfl), ?_⟩
  rw [← exact_eq_value, exact, Int.tdiv_eq_ediv_of_nonneg dividend]

theorem checkedOp_ceilDiv_unsigned (unsigned : t.signed = false)
    (ok : checkedOp t .ceilDiv a b = .ok r) : 0 ≤ a ∧ 0 < b ∧ r = -(-a / b) := by
  obtain ⟨ha, hb, divisor, -, rfl⟩ := (checkedOp_eq_ok_iff (by decide)).mp ok
  have positive := IntType.pos_of_contains unsigned hb (divisor rfl)
  refine ⟨IntType.nonneg_of_contains unsigned ha, positive, ?_⟩
  rw [← exact_eq_value, exact, Int.fdiv_eq_ediv_of_nonneg _ positive.le]

theorem checkedOp_add_eq_ok (ha : t.Contains a) (hb : t.Contains b) (fits : t.Contains (a + b)) :
    checkedOp t .add a b = .ok (a + b) :=
  checkedOp_eq_exact (by decide) ha hb (fun divides => nomatch divides) fits

theorem checkedOp_sub_eq_ok (ha : t.Contains a) (hb : t.Contains b) (fits : t.Contains (a - b)) :
    checkedOp t .sub a b = .ok (a - b) :=
  checkedOp_eq_exact (by decide) ha hb (fun divides => nomatch divides) fits

theorem checkedOp_mul_eq_ok (ha : t.Contains a) (hb : t.Contains b) (fits : t.Contains (a * b)) :
    checkedOp t .mul a b = .ok (a * b) :=
  checkedOp_eq_exact (by decide) ha hb (fun divides => nomatch divides) fits

/-- An unsigned division by a divisor that is not zero always succeeds: the quotient lies
between zero and the dividend. -/
theorem checkedOp_div_eq_ok_unsigned (unsigned : t.signed = false) (ha : t.Contains a)
    (hb : t.Contains b) (nonzero : b ≠ 0) : checkedOp t .div a b = .ok (a / b) := by
  have dividend := IntType.nonneg_of_contains unsigned ha
  have divisor := IntType.pos_of_contains unsigned hb nonzero
  have quotient : exact .div a b = a / b := Int.tdiv_eq_ediv_of_nonneg dividend
  rw [← quotient]
  refine checkedOp_eq_exact (by decide) ha hb (fun _ => nonzero) ?_
  rw [quotient]
  exact ⟨le_trans t.min_le_zero (Int.ediv_nonneg dividend divisor.le),
    le_trans (Int.ediv_le_self b dividend) ha.2⟩

theorem cast_eq_ok {v r : Int} (ok : cast v t = .ok r) : r = v ∧ t.Contains v := by
  unfold cast at ok
  split at ok
  · cases ok
    exact ⟨rfl, ‹_›⟩
  · cases ok

end Arith

end MarginLending

import MarginLending.Pricing.LimitPrice
import MarginLending.Proofs.TickRounding

/-! Resolving the limit price of an order.

An order with an oracle offset is priced at the oracle price plus the offset, an `i64` sum that
must be positive, rounded to the tick in the order's direction. The sign is checked before the
rounding, so a long order whose sum lies below one tick rounds down to zero, the price that means
no limit; short and two-way orders round up and stay positive. A sum below the least `i64` is a
checked-arithmetic underflow, not a refused spread. An order without an offset keeps its price,
or takes the fallback price, rounded, when its price is zero. It has no limit price only when it
has neither, and that is exactly when forcing a limit price fails for want of one.
-/

set_option autoImplicit false

namespace MarginLending.Pricing

open Arith Data

def optionalInt : Option Int → Value
  | none => .null
  | some n => .int n

variable {d : Direction} {e : Failure}

/-! ## Failures of the rounding -/

theorem standardizeIn_error {t : IntType} {p q : Int} (failed : standardizeIn t p q d = .error e) :
    ∃ f, e = .arith f := by
  unfold standardizeIn at failed
  split at failed
  · cases failed
  rcases except_bind_eq_error.mp failed with remainder | ⟨r, -, rounded⟩
  · exact checkedOp_error remainder
  split at rounded
  · cases rounded
  cases d with
  | long => exact checkedOp_error rounded
  | twoWay => exact checkedOp_error rounded
  | short =>
    -- a short price first takes what the remainder lacks of a tick
    rcases except_bind_eq_error.mp rounded with lack | ⟨s, -, sum⟩
    · exact checkedOp_error lack
    · exact checkedOp_error sum

theorem rounded_error {p q : Int}
    (failed : (standardizeIn IntType.u64 p q d).map (some ∘ Value.int) = .error e) :
    ∃ f, e = .arith f :=
  standardizeIn_error (except_map_eq_error.mp failed)

theorem rounded_eq_ok {p q v : Int}
    (ok : (standardizeIn IntType.u64 p q d).map (some ∘ Value.int) = .ok (some (.int v))) :
    standardizeIn IntType.u64 p q d = .ok v := by
  obtain ⟨w, rounded, same⟩ := except_map_eq_ok.mp ok
  cases same
  exact rounded

theorem forceLimitPrice_eq_error {p tick offset oracle fallback : Value} :
    forceLimitPrice p d tick offset oracle fallback = .error e ↔
      limitPrice p d tick offset oracle fallback = .error e ∨
        (limitPrice p d tick offset oracle fallback = .ok none ∧ e = .noLimitPrice) := by
  unfold forceLimitPrice
  cases limitPrice p d tick offset oracle fallback with
  | error e' => simp [bind, Except.bind]
  | ok r =>
    cases r <;> simp [bind, Except.bind, pure, Except.pure, throw, throwThe, MonadExceptOf.throw,
      eq_comm]

/-! ## One lemma per outcome -/

variable {price offset o l : Int} {tick oracle fallback : Value}

theorem limitPrice_priced (priced : price ≠ 0) :
    limitPrice (.int price) d tick (.int 0) oracle fallback = .ok (some (.int price)) := by
  simp [limitPrice, priced, pure, Except.pure]

theorem limitPrice_no_fallback :
    limitPrice (.int 0) d tick (.int 0) oracle .null = .ok none := by
  simp [limitPrice, pure, Except.pure]

theorem limitPrice_fallback {f : Int} :
    limitPrice (.int 0) d tick (.int 0) oracle (.int f) =
      (standardizePrice (.int f) tick d).map (some ∘ Value.int) := by
  simp only [limitPrice, Value.equals_int, decide_true, Bool.not_true, Bool.false_eq_true,
    if_false, if_true]
  cases standardizePrice (.int f) tick d <;> rfl

theorem limitPrice_oracle_missing (offered : offset ≠ 0) :
    limitPrice (.int price) d tick (.int offset) .null fallback = .error .oracleMissing := by
  simp [limitPrice, offered, throw, throwThe, MonadExceptOf.throw, bind, Except.bind]

theorem limitPrice_sum_refused (offered : offset ≠ 0)
    (refused : checkedOp IntType.i64 .add o offset = .error e) :
    limitPrice (.int price) d tick (.int offset) (.int o) fallback = .error e := by
  simp [limitPrice, offered, refused, bind, Except.bind]

theorem limitPrice_spread (offered : offset ≠ 0)
    (sum : checkedOp IntType.i64 .add o offset = .ok l) (nonpos : l ≤ 0) :
    limitPrice (.int price) d tick (.int offset) (.int o) fallback =
      .error (.spreadLimitPrice l) := by
  simp [limitPrice, offered, sum, nonpos, bind, Except.bind, throw, throwThe, MonadExceptOf.throw]

theorem u64_contains_of_i64 (signed : IntType.i64.Contains l) (above : 0 < l) :
    IntType.u64.Contains l := by
  have high := signed.2
  simp only [IntType.Contains, IntType.u64_min, IntType.u64_max, IntType.i64_max] at high ⊢
  omega

theorem limitPrice_rounded (offered : offset ≠ 0)
    (sum : checkedOp IntType.i64 .add o offset = .ok l) (above : 0 < l) :
    limitPrice (.int price) d tick (.int offset) (.int o) fallback =
      (standardizePrice (.int l) tick d).map (some ∘ Value.int) := by
  have unsigned := u64_contains_of_i64 (checkedOp_ok_of_binary (by decide) sum).2.2.1 above
  have cast : Arith.cast l IntType.u64 = .ok l := by simp [Arith.cast, unsigned]
  simp only [limitPrice, Value.equals_int, offered, decide_false, Bool.not_false, if_true,
    checkedData_int, sum, cast, bind, Except.bind, not_le.mpr above, if_false]
  cases standardizePrice (.int l) tick d <;> rfl

/-! ## What a resolution can come to -/

/-- The outcomes of resolving a limit price from integer data: no limit price only without an
offset, a price and a fallback; a price that is an integer; or a failure that is checked
arithmetic, a missing oracle price (only where it is null) or a spread that is not positive. -/
def Resolution (price offset : Int) (oracle fallback : Option Int) :
    Except Failure (Option Value) → Prop
  | .ok none => offset = 0 ∧ price = 0 ∧ fallback = none
  | .ok (some v) => ∃ n, v = .int n
  | .error e => (∃ f, e = .arith f) ∨ (e = .oracleMissing ∧ oracle = none) ∨
      ∃ l, e = .spreadLimitPrice l

theorem resolution_rounded {price offset p q : Int} {oracle fallback : Option Int} :
    Resolution price offset oracle fallback
      ((standardizeIn IntType.u64 p q d).map (some ∘ Value.int)) := by
  cases rounded : (standardizeIn IntType.u64 p q d).map (some ∘ Value.int) with
  | error e => exact .inl (rounded_error rounded)
  | ok r =>
    obtain ⟨v, -, rfl⟩ := except_map_eq_ok.mp rounded
    exact ⟨v, rfl⟩

theorem limitPrice_resolution (price tick offset : Int) (d : Direction)
    (oracle fallback : Option Int) :
    Resolution price offset oracle fallback
      (limitPrice (.int price) d (.int tick) (.int offset) (optionalInt oracle)
        (optionalInt fallback)) := by
  by_cases offered : offset = 0
  · subst offered
    by_cases priced : price = 0
    · subst priced
      cases fallback with
      | none => exact ⟨rfl, rfl, rfl⟩
      | some f =>
        rw [optionalInt, limitPrice_fallback, standardizePrice, standardizeData_int]
        exact resolution_rounded
    · rw [limitPrice_priced priced]
      exact ⟨price, rfl⟩
  · cases oracle with
    | none =>
      rw [optionalInt, limitPrice_oracle_missing offered]
      exact .inr (.inl ⟨rfl, rfl⟩)
    | some o =>
      rw [optionalInt]
      cases sum : checkedOp IntType.i64 .add o offset with
      | error e =>
        rw [limitPrice_sum_refused offered sum]
        exact .inl (checkedOp_error sum)
      | ok l =>
        by_cases above : 0 < l
        · rw [limitPrice_rounded offered sum above, standardizePrice, standardizeData_int]
          exact resolution_rounded
        · rw [limitPrice_spread offered sum (by omega)]
          exact .inr (.inr ⟨l, rfl⟩)

/-! ## Positive prices -/

/-- A positive price rounded to a positive tick stays positive, except a long price below one
tick, which rounds down to zero. -/
theorem RoundsToGrid.pos_iff {t : IntType} {round : Direction → Except Failure Int} {p q v : Int}
    (grid : RoundsToGrid t round p q) (positive : 0 < q) (above : 0 < p)
    (ok : round d = .ok v) : 0 < v ↔ (d = .long → q ≤ p) := by
  by_cases on : q ∣ p
  · rw [grid.onGrid on d, Except.ok.injEq] at ok
    subst ok
    exact ⟨fun _ _ => Int.le_of_dvd above on, fun _ => above⟩
  · obtain ⟨w, rounds, returns⟩ := grid.offGrid (Int.ne_of_gt above) on d
    rw [returns.eq_of_ok ok]
    cases d with
    | long =>
      -- the greatest multiple at or below the price is positive exactly when one tick fits
      refine ⟨fun pos _ => le_trans (Int.le_of_dvd pos rounds.1.1) rounds.1.2,
        fun reaches => ?_⟩
      exact lt_of_lt_of_le positive (rounds.2 ⟨dvd_refl q, reaches rfl⟩)
    | short =>
      exact ⟨fun _ absurd => (nomatch absurd), fun _ => lt_of_lt_of_le above rounds.1.2⟩
    | twoWay =>
      have sum : w = p + q := rounds
      exact ⟨fun _ absurd => (nomatch absurd), fun _ => by omega⟩

/-! ## The limit price of an order -/

section Resolved

variable {price tick offset o : Int} {oracle fallback : Option Int}

theorem limitPrice_eq_none_iff :
    limitPrice (.int price) d (.int tick) (.int offset) (optionalInt oracle)
        (optionalInt fallback) = .ok none ↔ offset = 0 ∧ price = 0 ∧ fallback = none := by
  constructor
  · intro resolved
    have outcome := limitPrice_resolution price tick offset d oracle fallback
    rw [resolved] at outcome
    exact outcome
  · rintro ⟨rfl, rfl, rfl⟩
    exact limitPrice_no_fallback

theorem forceLimitPrice_missing_iff :
    forceLimitPrice (.int price) d (.int tick) (.int offset) (optionalInt oracle)
        (optionalInt fallback) = .error .noLimitPrice ↔
      limitPrice (.int price) d (.int tick) (.int offset) (optionalInt oracle)
        (optionalInt fallback) = .ok none := by
  rw [forceLimitPrice_eq_error]
  constructor
  · rintro (refused | ⟨missing, -⟩)
    · -- resolving never fails for want of a limit price
      have outcome := limitPrice_resolution price tick offset d oracle fallback
      rw [refused] at outcome
      rcases outcome with ⟨f, wrong⟩ | ⟨wrong, -⟩ | ⟨l, wrong⟩ <;> cases wrong
    · exact missing
  · exact fun missing => .inr ⟨missing, rfl⟩

theorem limitPrice_oracleMissing_iff (offered : offset ≠ 0) :
    limitPrice (.int price) d (.int tick) (.int offset) (optionalInt oracle)
        (optionalInt fallback) = .error .oracleMissing ↔ oracle = none := by
  constructor
  · intro refused
    have outcome := limitPrice_resolution price tick offset d oracle fallback
    rw [refused] at outcome
    rcases outcome with ⟨f, wrong⟩ | ⟨-, missing⟩ | ⟨l, wrong⟩
    · cases wrong
    · exact missing
    · cases wrong
  · rintro rfl
    exact limitPrice_oracle_missing offered

variable {fallback : Value}

theorem limitPrice_offset_underflow (offered : offset ≠ 0) (ho : IntType.i64.Contains o)
    (hoff : IntType.i64.Contains offset) (below : o + offset < IntType.i64.min) :
    limitPrice (.int price) d (.int tick) (.int offset) (.int o) fallback =
      .error (.arith ⟨.add, IntType.i64, o, offset, .underflow⟩) :=
  limitPrice_sum_refused offered
    (checkedOp_underflow (by decide) ho hoff (fun divides => nomatch divides) below)

theorem limitPrice_spread_iff (offered : offset ≠ 0) (ho : IntType.i64.Contains o)
    (hoff : IntType.i64.Contains offset) (low : IntType.i64.min ≤ o + offset) :
    limitPrice (.int price) d (.int tick) (.int offset) (.int o) fallback =
        .error (.spreadLimitPrice (o + offset)) ↔ o + offset ≤ 0 := by
  constructor
  · intro refused
    by_contra above
    by_cases high : o + offset ≤ IntType.i64.max
    · rw [limitPrice_rounded offered (checkedOp_add_eq_ok ho hoff ⟨low, high⟩) (by omega),
        standardizePrice, standardizeData_int] at refused
      obtain ⟨f, wrong⟩ := rounded_error refused
      cases wrong
    · have overflow : checkedOp IntType.i64 .add o offset =
          .error (.arith ⟨.add, IntType.i64, o, offset, .overflow⟩) :=
        checkedOp_overflow (by decide) ho hoff (fun divides => nomatch divides)
          (show IntType.i64.max < o + offset by omega)
      rw [limitPrice_sum_refused offered overflow] at refused
      cases refused
  · intro nonpos
    have high : o + offset ≤ IntType.i64.max := le_trans nonpos (by decide)
    exact limitPrice_spread offered (checkedOp_add_eq_ok ho hoff ⟨low, high⟩) nonpos

theorem limitPrice_offset_positive (offered : offset ≠ 0) (ho : IntType.i64.Contains o)
    (hoff : IntType.i64.Contains offset) (above : 0 < o + offset)
    (high : o + offset ≤ IntType.i64.max) (ht : IntType.u64.Contains tick) (positive : 0 < tick) :
    limitPrice (.int price) d (.int tick) (.int offset) (.int o) fallback =
        (standardizePrice (.int (o + offset)) (.int tick) d).map (some ∘ Value.int) ∧
      RoundsToGrid IntType.u64 (standardizePrice (.int (o + offset)) (.int tick)) (o + offset)
        tick ∧
      ∀ v, limitPrice (.int price) d (.int tick) (.int offset) (.int o) fallback =
          .ok (some (.int v)) → (0 < v ↔ (d = .long → tick ≤ o + offset)) := by
  have signed : IntType.i64.Contains (o + offset) := ⟨le_trans (by decide) above.le, high⟩
  have rounded : limitPrice (.int price) d (.int tick) (.int offset) (.int o) fallback =
      (standardizePrice (.int (o + offset)) (.int tick) d).map (some ∘ Value.int) :=
    limitPrice_rounded offered (checkedOp_add_eq_ok ho hoff signed) above
  have grid := standardizeData_roundsToGrid (u64_contains_of_i64 signed above) ht positive
  refine ⟨rounded, grid, fun v resolved => grid.pos_iff positive above ?_⟩
  rw [rounded, standardizePrice, standardizeData_int] at resolved
  rw [standardizeData_int]
  exact rounded_eq_ok resolved

end Resolved

/-- The limit price of an order, resolved from integer data with a positive `u64` tick. It is
missing exactly when the order has no offset, no price and no fallback price, and forcing a limit
price fails for want of one exactly then. An order with an offset needs an oracle price. With an
oracle price `o` and an offset in `i64`, a sum `o + offset` below the least `i64` is a
checked-arithmetic underflow; above it the spread is refused exactly when the sum is not
positive. A positive `i64` sum is rounded to the tick in the order's direction, each rounding
returned when `u64` holds it: the long price lies at or below the sum and the short one at or
above it, both on the grid. The price is positive, except for a long order whose sum lies below
one tick, which resolves to zero. -/
theorem oracle_offset_limit_price (price tick offset : Int) (d : Direction)
    (oracle fallback : Option Int) (ht : IntType.u64.Contains tick) (positive : 0 < tick) :
    (limitPrice (.int price) d (.int tick) (.int offset) (optionalInt oracle)
        (optionalInt fallback) = .ok none ↔ offset = 0 ∧ price = 0 ∧ fallback = none) ∧
    (forceLimitPrice (.int price) d (.int tick) (.int offset) (optionalInt oracle)
        (optionalInt fallback) = .error .noLimitPrice ↔
      limitPrice (.int price) d (.int tick) (.int offset) (optionalInt oracle)
        (optionalInt fallback) = .ok none) ∧
    (offset ≠ 0 → (limitPrice (.int price) d (.int tick) (.int offset) (optionalInt oracle)
        (optionalInt fallback) = .error .oracleMissing ↔ oracle = none)) ∧
    (∀ o, offset ≠ 0 → oracle = some o → IntType.i64.Contains o →
      IntType.i64.Contains offset →
      (o + offset < IntType.i64.min →
        limitPrice (.int price) d (.int tick) (.int offset) (optionalInt oracle)
          (optionalInt fallback) =
            .error (.arith ⟨.add, IntType.i64, o, offset, .underflow⟩)) ∧
      (IntType.i64.min ≤ o + offset →
        (limitPrice (.int price) d (.int tick) (.int offset) (optionalInt oracle)
          (optionalInt fallback) = .error (.spreadLimitPrice (o + offset)) ↔
          o + offset ≤ 0)) ∧
      (0 < o + offset → o + offset ≤ IntType.i64.max →
        limitPrice (.int price) d (.int tick) (.int offset) (optionalInt oracle)
            (optionalInt fallback) =
          (standardizePrice (.int (o + offset)) (.int tick) d).map (some ∘ Value.int) ∧
        RoundsToGrid IntType.u64 (standardizePrice (.int (o + offset)) (.int tick))
          (o + offset) tick ∧
        ∀ v, limitPrice (.int price) d (.int tick) (.int offset) (optionalInt oracle)
            (optionalInt fallback) = .ok (some (.int v)) →
          (0 < v ↔ (d = .long → tick ≤ o + offset)))) := by
  refine ⟨limitPrice_eq_none_iff, forceLimitPrice_missing_iff,
    limitPrice_oracleMissing_iff, ?_⟩
  rintro o offered rfl ho hoff
  exact ⟨limitPrice_offset_underflow offered ho hoff, limitPrice_spread_iff offered ho hoff,
    fun above high => limitPrice_offset_positive offered ho hoff above high ht positive⟩

/-- A long order one above an oracle price of `1234567`, with a tick of `1000`, is priced at
`1234568` rounded to the grid. -/
theorem sample_offset_order_rounds :
    limitPrice (.int 0) .long (.int 1000) (.int 1) (optionalInt (some 1234567))
        (optionalInt none) =
      (standardizePrice (.int (1234567 + 1)) (.int 1000) .long).map (some ∘ Value.int) ∧
    RoundsToGrid IntType.u64 (standardizePrice (.int (1234567 + 1)) (.int 1000)) (1234567 + 1)
      1000 :=
  let resolved := ((oracle_offset_limit_price 0 1000 1 .long (some 1234567) none (by decide)
    (by decide)).2.2.2 1234567 (by decide) rfl (by decide) (by decide)).2.2 (by decide)
    (by decide)
  ⟨resolved.1, resolved.2.1⟩

/-- The sign is checked before the rounding. A long order one above an oracle price of five, with
a tick of ten, resolves to zero, the price that means no limit; and an order one below the least
`i64` oracle price, whose sum is not positive, is refused by the checked sum and not as a
spread. -/
theorem offset_limit_price_can_vanish :
    limitPrice (.int 0) .long (.int 10) (.int 1) (.int 5) .null = .ok (some (.int 0)) ∧
      (-9223372036854775808 : Int) + -1 ≤ 0 ∧
      limitPrice (.int 0) .long (.int 10) (.int (-1)) (.int (-9223372036854775808)) .null =
        .error (.arith ⟨.add, IntType.i64, -9223372036854775808, -1, .underflow⟩) :=
  ⟨by rfl, by decide, by rfl⟩

end MarginLending.Pricing

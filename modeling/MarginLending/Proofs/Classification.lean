import MarginLending.Oracle.Validity
import MarginLending.Proofs.Checked

/-! The classification of an oracle reading.

The classes are ordered by severity, as the enumeration numbers them: `invalid` is the worst and
`valid` the best. A reading is classified by the first check it fails, so its class is at least
`v` exactly when it passes every check ranked below `v` (`le_classify_iff`). Hence the
classification is monotone: a reading of the same price with a wider confidence interval, a
longer delay or fewer data points is classified no better, and looser rails classify a reading
no worse.

The strict form runs the same checks and refuses the four classes below
`insufficientDataPoints`, each with the failure of its own check, so it is the classification
followed by that refusal. Against an `i64` TWAP, the checks of a reading with an `i64` price and a
`u64` confidence fail only when its confidence share overflows `u64`: the volatility ratio is a
quotient of two positive `i64`s, never above the dividend, and a price that is not positive skips
both computations.
-/

set_option autoImplicit false

namespace MarginLending

open Arith Data

namespace Validity

def rank : Validity → Nat
  | invalid => 0
  | volatile => 1
  | uncertain => 2
  | staleForMargin => 3
  | insufficientDataPoints => 4
  | valid => 5

instance : LE Validity := ⟨fun a b => a.rank ≤ b.rank⟩

instance (a b : Validity) : Decidable (a ≤ b) := inferInstanceAs (Decidable (a.rank ≤ b.rank))

theorem le_iff_rank {a b : Validity} : a ≤ b ↔ a.rank ≤ b.rank := Iff.rfl

theorem le_refl (a : Validity) : a ≤ a := Nat.le_refl a.rank

/-- What the strict form makes of a class: the four classes below `insufficientDataPoints`
refuse the reading with the failure of their check (of kinds `OracleNegativeError`,
`OracleTooVolatile`, `OracleConfidenceTooWide` and `OraclePriceStaleForMargin`), the other two
are returned. -/
def enforce (r : Reading) (twap : Value) (g : ValidityRails) : Validity → Except Failure Validity
  | invalid => .error (.nonPositivePrice r.price)
  | volatile => .error (.tooVolatile r.price twap.shown)
  | uncertain => .error (.confidenceTooWide r.confidence r.price)
  | staleForMargin => .error (.stale r.delay g.slotsBeforeStale)
  | v => .ok v

end Validity

/-! ## The priority chain -/

namespace ValidityChecks

def clears (c : ValidityChecks) : Validity → Bool
  | .invalid => true
  | .volatile => !c.nonPositive
  | .uncertain => !c.nonPositive && !c.tooVolatile
  | .staleForMargin => !c.nonPositive && !c.tooVolatile && !c.tooUncertain
  | .insufficientDataPoints => !c.nonPositive && !c.tooVolatile && !c.tooUncertain && !c.stale
  | .valid => !c.nonPositive && !c.tooVolatile && !c.tooUncertain && !c.stale && c.enoughData

theorem le_classify_iff (c : ValidityChecks) (v : Validity) :
    v ≤ c.classify ↔ c.clears v = true := by
  unfold classify
  split_ifs <;> cases v <;> simp_all [clears, Validity.le_iff_rank, Validity.rank]

/-- `c'` fails every check that `c` fails, and has enough data points only if `c` has them. -/
structure Worse (c c' : ValidityChecks) : Prop where
  nonPositive : c.nonPositive = true → c'.nonPositive = true
  tooVolatile : c.tooVolatile = true → c'.tooVolatile = true
  tooUncertain : c.tooUncertain = true → c'.tooUncertain = true
  stale : c.stale = true → c'.stale = true
  enoughData : c'.enoughData = true → c.enoughData = true

theorem Worse.clears {c c' : ValidityChecks} (worse : c.Worse c') {v : Validity}
    (cleared : c'.clears v = true) : c.clears v = true := by
  have := worse.nonPositive
  have := worse.tooVolatile
  have := worse.tooUncertain
  have := worse.stale
  have := worse.enoughData
  cases v <;> simp_all [ValidityChecks.clears]

theorem classify_le_of_worse {c c' : ValidityChecks} (worse : c.Worse c') :
    c'.classify ≤ c.classify :=
  (le_classify_iff c _).mpr (worse.clears ((le_classify_iff c' _).mp (Validity.le_refl _)))

end ValidityChecks

/-! ## The measures of a reading -/

namespace Reading

def volatilityRatio (price : Int) (twap : Value) : Except Failure Int := do
  let high ← Value.largerOf (.int price) twap
  let low ← Value.largerOf (.int 1) (← Value.smallerOf (.int price) twap)
  checkedData IntType.i64 .div high low

def confidenceShare (r : Reading) : Except Failure Int := do
  let scaled ← checkedOp IntType.u64 .mul (max 1 r.confidence) spreadPrecision
  checkedOp IntType.u64 .div scaled r.price

def ShareOverflows (r : Reading) : Prop :=
  0 < r.price ∧ IntType.u64.max < max 1 r.confidence * spreadPrecision

def shareOverflow (r : Reading) : Failure :=
  .arith ⟨.mul, IntType.u64, max 1 r.confidence, spreadPrecision, .overflow⟩

end Reading

namespace ValidityChecks

def measured (r : Reading) (g : ValidityRails) (ratio share : Int) : ValidityChecks :=
  ⟨false, decide (g.maxVolatilityRatio < ratio), decide (g.maxConfidenceDivergence < share),
    decide (g.slotsBeforeStale < r.delay), r.hasSufficientDataPoints⟩

variable {twap : Value} {r : Reading} {g : ValidityRails} {c : ValidityChecks}

theorem run_eq (twap : Value) (r : Reading) (g : ValidityRails) :
    run twap r g =
      if r.price ≤ 0 then .ok ⟨true, false, false, false, r.hasSufficientDataPoints⟩
      else (do
        let ratio ← Reading.volatilityRatio r.price twap
        let share ← r.confidenceShare
        pure (measured r g ratio share)) := by
  unfold run Reading.volatilityRatio Reading.confidenceShare measured
  split
  · rfl
  · simp only [bind_assoc]

theorem run_eq_ok (ok : run twap r g = .ok c) :
    (r.price ≤ 0 ∧ c = ⟨true, false, false, false, r.hasSufficientDataPoints⟩) ∨
      (0 < r.price ∧ ∃ ratio share, Reading.volatilityRatio r.price twap = .ok ratio ∧
        r.confidenceShare = .ok share ∧ c = measured r g ratio share) := by
  rw [run_eq] at ok
  split at ok
  · exact .inl ⟨‹_›, (Except.ok.inj ok).symm⟩
  · simp only [except_bind_eq_ok, pure, Except.pure, Except.ok.injEq] at ok
    obtain ⟨ratio, ratioOk, share, shareOk, rfl⟩ := ok
    exact .inr ⟨by omega, ratio, share, ratioOk, shareOk, rfl⟩

end ValidityChecks

namespace Reading

theorem confidenceShare_eq_ok {r : Reading} {share : Int} (ok : r.confidenceShare = .ok share) :
    share = max 1 r.confidence * spreadPrecision / r.price := by
  simp only [confidenceShare, except_bind_eq_ok] at ok
  obtain ⟨scaled, product, quotient⟩ := ok
  obtain ⟨-, -, rfl⟩ := checkedOp_mul_unsigned rfl product
  exact (checkedOp_div_unsigned rfl quotient).2.2

theorem validity_eq_ok {twap : Value} {r : Reading} {g : ValidityRails} {v : Validity}
    (ok : r.validity twap g = .ok v) :
    ∃ c, ValidityChecks.run twap r g = .ok c ∧ c.classify = v :=
  except_map_eq_ok.mp ok

end Reading

/-! ## Monotonicity -/

/-- `r'` is a reading of the same price as `r`, with a confidence interval no narrower, a delay no
shorter, and enough data points only if `r` has them. -/
structure Reading.Weaker (r r' : Reading) : Prop where
  price : r'.price = r.price
  confidence : r.confidence ≤ r'.confidence
  delay : r.delay ≤ r'.delay
  enoughData : r'.hasSufficientDataPoints = true → r.hasSufficientDataPoints = true

/-- The rails `g'` tolerate at least what `g` tolerates: each threshold is no lower. -/
structure ValidityRails.Looser (g g' : ValidityRails) : Prop where
  volatility : g.maxVolatilityRatio ≤ g'.maxVolatilityRatio
  confidence : g.maxConfidenceDivergence ≤ g'.maxConfidenceDivergence
  staleness : g.slotsBeforeStale ≤ g'.slotsBeforeStale

namespace ValidityChecks

variable {twap : Value} {r r' : Reading} {g g' : ValidityRails} {c c' : ValidityChecks}

theorem run_eq_ok_same_price (same : r'.price = r.price) (ok : run twap r g = .ok c)
    (ok' : run twap r' g' = .ok c') :
    (c = ⟨true, false, false, false, r.hasSufficientDataPoints⟩ ∧
      c' = ⟨true, false, false, false, r'.hasSufficientDataPoints⟩) ∨
    (0 < r.price ∧ ∃ ratio share share', r.confidenceShare = .ok share ∧
      r'.confidenceShare = .ok share' ∧ c = measured r g ratio share ∧
      c' = measured r' g' ratio share') := by
  rcases run_eq_ok ok with ⟨low, rfl⟩ | ⟨positive, ratio, share, ratioOk, shareOk, rfl⟩
  · rcases run_eq_ok ok' with ⟨-, rfl⟩ | ⟨positive', -⟩
    · exact .inl ⟨rfl, rfl⟩
    · omega
  · rcases run_eq_ok ok' with ⟨low', -⟩ | ⟨-, ratio', share', ratioOk', shareOk', rfl⟩
    · omega
    · rw [same, ratioOk, Except.ok.injEq] at ratioOk'
      subst ratioOk'
      exact .inr ⟨positive, ratio, share, share', shareOk, shareOk', rfl, rfl⟩

theorem run_worse_of_weaker (weaker : r.Weaker r') (ok : run twap r g = .ok c)
    (ok' : run twap r' g = .ok c') : c.Worse c' := by
  rcases run_eq_ok_same_price weaker.price ok ok' with
    ⟨rfl, rfl⟩ | ⟨positive, ratio, share, share', shareOk, shareOk', rfl, rfl⟩
  · exact ⟨id, id, id, id, weaker.enoughData⟩
  · have shares : share ≤ share' := by
      rw [Reading.confidenceShare_eq_ok shareOk, Reading.confidenceShare_eq_ok shareOk',
        weaker.price]
      have wider : max 1 r.confidence ≤ max 1 r'.confidence :=
        max_le_max (Int.le_refl 1) weaker.confidence
      exact Int.ediv_le_ediv positive (Int.mul_le_mul_of_nonneg_right wider (by decide))
    have later := weaker.delay
    refine ⟨id, id, fun uncertain => ?_, fun stale => ?_, weaker.enoughData⟩
    · simp only [measured, decide_eq_true_eq] at uncertain ⊢
      omega
    · simp only [measured, decide_eq_true_eq] at stale ⊢
      omega

theorem run_worse_of_looser (looser : g.Looser g') (ok : run twap r g = .ok c)
    (ok' : run twap r g' = .ok c') : c'.Worse c := by
  rcases run_eq_ok_same_price rfl ok ok' with
    ⟨rfl, rfl⟩ | ⟨-, ratio, share, share', shareOk, shareOk', rfl, rfl⟩
  · exact ⟨id, id, id, id, id⟩
  · rw [shareOk, Except.ok.injEq] at shareOk'
    subst shareOk'
    have := looser.volatility
    have := looser.confidence
    have := looser.staleness
    refine ⟨id, fun volatile => ?_, fun uncertain => ?_, fun stale => ?_, id⟩
    · simp only [measured, decide_eq_true_eq] at volatile ⊢
      omega
    · simp only [measured, decide_eq_true_eq] at uncertain ⊢
      omega
    · simp only [measured, decide_eq_true_eq] at stale ⊢
      omega

end ValidityChecks

/-- The classification is monotone in the reading and in the rails. For any TWAP, a reading of
the same price with a confidence no narrower, a delay no shorter and enough data points only if
the first has them is classified no better, whenever both are classified; and rails whose three
thresholds are each no lower classify a reading no worse. -/
theorem classification_monotone :
    (∀ (twap : Value) (r r' : Reading) (g : ValidityRails) (v v' : Validity),
      r.Weaker r' → r.validity twap g = .ok v → r'.validity twap g = .ok v' → v' ≤ v) ∧
    (∀ (twap : Value) (r : Reading) (g g' : ValidityRails) (v v' : Validity),
      g.Looser g' → r.validity twap g = .ok v → r.validity twap g' = .ok v' → v ≤ v') := by
  constructor
  · intro twap r r' g v v' weaker ok ok'
    obtain ⟨c, run, rfl⟩ := Reading.validity_eq_ok ok
    obtain ⟨c', run', rfl⟩ := Reading.validity_eq_ok ok'
    exact ValidityChecks.classify_le_of_worse (ValidityChecks.run_worse_of_weaker weaker run run')
  · intro twap r g g' v v' looser ok ok'
    obtain ⟨c, run, rfl⟩ := Reading.validity_eq_ok ok
    obtain ⟨c', run', rfl⟩ := Reading.validity_eq_ok ok'
    exact ValidityChecks.classify_le_of_worse (ValidityChecks.run_worse_of_looser looser run run')

/-- A reading of one whole at its TWAP is valid; the same price with a confidence of 3%, a delay
of 200 slots and too few data points is uncertain, and rails that accept a 5% interval make that
reading stale instead. -/
theorem wider_interval_classified_no_better :
    Reading.validity ⟨1000000, 1000, 1, true⟩ (.int 1000000) {} = .ok .valid ∧
      Reading.validity ⟨1000000, 30000, 200, false⟩ (.int 1000000) {} = .ok .uncertain ∧
      Reading.validity ⟨1000000, 30000, 200, false⟩ (.int 1000000)
        { maxConfidenceDivergence := 50000 } = .ok .staleForMargin ∧
      Validity.uncertain ≤ .valid ∧ Validity.uncertain ≤ .staleForMargin :=
  ⟨rfl, rfl, rfl,
    classification_monotone.1 (.int 1000000) ⟨1000000, 1000, 1, true⟩ ⟨1000000, 30000, 200, false⟩
      {} _ _ ⟨rfl, by decide, by decide, fun _ => rfl⟩ rfl rfl,
    classification_monotone.2 (.int 1000000) ⟨1000000, 30000, 200, false⟩ {}
      { maxConfidenceDivergence := 50000 } _ _ ⟨by decide, by decide, by decide⟩ rfl rfl⟩

/-! ## The two entry points -/

namespace Reading

variable {r : Reading} {t : Int} {g : ValidityRails}

theorem volatilityRatio_int (positive : 0 < r.price) (priceRange : IntType.i64.Contains r.price)
    (twapRange : IntType.i64.Contains t) :
    volatilityRatio r.price (.int t) = .ok ((max r.price t).tdiv (max 1 (min r.price t))) := by
  simp only [IntType.Contains, IntType.i64_min, IntType.i64_max] at priceRange twapRange
  have high : IntType.i64.Contains (max r.price t) := by
    simp only [IntType.Contains, IntType.i64_min, IntType.i64_max]
    omega
  have low : IntType.i64.Contains (max 1 (min r.price t)) := by
    simp only [IntType.Contains, IntType.i64_min, IntType.i64_max]
    omega
  have nonneg : 0 ≤ (max r.price t).tdiv (max 1 (min r.price t)) :=
    Int.tdiv_nonneg (by omega) (by omega)
  have below := Int.tdiv_le_self (max 1 (min r.price t)) (show 0 ≤ max r.price t by omega)
  have quotient : IntType.i64.Contains ((max r.price t).tdiv (max 1 (min r.price t))) := by
    simp only [IntType.Contains, IntType.i64_min, IntType.i64_max]
    omega
  simp only [volatilityRatio, Value.largerOf_int, Value.smallerOf_int, bind, Except.bind,
    checkedData_int]
  exact checkedOp_eq_exact (by decide) high low (fun _ => by omega) quotient

theorem spreadPrecision_contains : IntType.u64.Contains spreadPrecision := by decide

theorem interval_contains (confidenceRange : r.confidence ≤ IntType.u64.max) :
    IntType.u64.Contains (max 1 r.confidence) := by
  simp only [IntType.Contains, IntType.u64_min, IntType.u64_max] at confidenceRange ⊢
  omega

theorem confidenceShare_of_fits (positive : 0 < r.price) (priceRange : IntType.i64.Contains r.price)
    (fits : max 1 r.confidence * spreadPrecision ≤ IntType.u64.max) :
    r.confidenceShare = .ok (max 1 r.confidence * spreadPrecision / r.price) := by
  have precision : spreadPrecision = 1000000 := rfl
  simp only [IntType.Contains, IntType.i64_min, IntType.i64_max] at priceRange
  have interval := interval_contains (r := r) (by rw [precision] at fits; omega)
  have product : IntType.u64.Contains (max 1 r.confidence * spreadPrecision) := by
    simp only [IntType.Contains, IntType.u64_min, IntType.u64_max, precision] at fits ⊢
    omega
  have price : IntType.u64.Contains r.price := by
    simp only [IntType.Contains, IntType.u64_min, IntType.u64_max]
    omega
  simp only [confidenceShare, checkedOp_mul_eq_ok interval spreadPrecision_contains product, bind,
    Except.bind]
  exact checkedOp_div_eq_ok_unsigned rfl product price (by omega)

theorem confidenceShare_of_overflow (confidenceRange : IntType.u64.Contains r.confidence)
    (overflow : IntType.u64.max < max 1 r.confidence * spreadPrecision) :
    r.confidenceShare = .error r.shareOverflow := by
  have refused := @checkedOp_overflow IntType.u64 .mul (max 1 r.confidence) spreadPrecision
    (by decide) (interval_contains confidenceRange.2) spreadPrecision_contains
    (fun divides => nomatch divides) overflow
  simp only [confidenceShare, refused, bind, Except.bind]
  rfl

theorem run_of_overflow (twapRange : IntType.i64.Contains t)
    (priceRange : IntType.i64.Contains r.price)
    (confidenceRange : IntType.u64.Contains r.confidence) (overflows : r.ShareOverflows) :
    ValidityChecks.run (.int t) r g = .error r.shareOverflow := by
  obtain ⟨positive, overflow⟩ := overflows
  rw [ValidityChecks.run_eq, if_neg (by omega), volatilityRatio_int positive priceRange twapRange,
    confidenceShare_of_overflow confidenceRange overflow]
  rfl

theorem run_of_fits (twapRange : IntType.i64.Contains t)
    (priceRange : IntType.i64.Contains r.price) (fits : ¬ r.ShareOverflows) :
    ∃ c, ValidityChecks.run (.int t) r g = .ok c := by
  rw [ValidityChecks.run_eq]
  split
  · exact ⟨_, rfl⟩
  · have positive : 0 < r.price := by omega
    have small : max 1 r.confidence * spreadPrecision ≤ IntType.u64.max :=
      Int.not_lt.mp fun overflow => fits ⟨positive, overflow⟩
    rw [volatilityRatio_int positive priceRange twapRange,
      confidenceShare_of_fits positive priceRange small]
    exact ⟨_, rfl⟩

/-- The strict form is the classification followed by `enforce`: both walk the same checks in
the same order, so the strict form fails with the failure of the checks, refuses the four classes
below `insufficientDataPoints` with the failure of their own check, and returns the other two. -/
theorem validate_eq_enforce (r : Reading) (twap : Value) (g : ValidityRails) :
    r.validate twap g = r.validity twap g >>= Validity.enforce r twap g := by
  unfold validate validity
  cases ValidityChecks.run twap r g with
  | error e => rfl
  | ok c =>
    -- the two chains agree on each of the 32 outcomes of the five checks
    obtain ⟨nonPositive, tooVolatile, tooUncertain, stale, enoughData⟩ := c
    cases nonPositive <;> cases tooVolatile <;> cases tooUncertain <;> cases stale <;>
      cases enoughData <;> rfl

end Reading

/-- The two classification entry points fail exactly alike. Against an `i64` TWAP, for a reading
with an `i64` price and a `u64` confidence, the classification fails exactly when the price is
positive and the confidence share overflows `u64`, whatever the other checks decide, and then the
strict form fails with the same overflow. In every case the strict form is the classification
followed by `enforce`, which refuses the classes `invalid`, `volatile`, `uncertain` and
`staleForMargin` with the failures of their checks and returns the other two. -/
theorem strict_classification_fails_alike (t : Int) (r : Reading) (g : ValidityRails)
    (twapRange : IntType.i64.Contains t) (priceRange : IntType.i64.Contains r.price)
    (confidenceRange : IntType.u64.Contains r.confidence) :
    ((∃ e, r.validity (.int t) g = .error e) ↔ r.ShareOverflows) ∧
    (r.ShareOverflows → r.validity (.int t) g = .error r.shareOverflow ∧
      r.validate (.int t) g = .error r.shareOverflow) ∧
    r.validate (.int t) g = r.validity (.int t) g >>= Validity.enforce r (.int t) g := by
  have failed : r.ShareOverflows → r.validity (.int t) g = .error r.shareOverflow :=
    fun overflows => by
      rw [Reading.validity, Reading.run_of_overflow twapRange priceRange confidenceRange overflows]
      rfl
  refine ⟨⟨?_, fun overflows => ⟨_, failed overflows⟩⟩,
    fun overflows => ⟨failed overflows, ?_⟩, Reading.validate_eq_enforce r _ g⟩
  · -- every other reading is classified, so a failure can only be the overflow
    rintro ⟨e, refused⟩
    by_contra fits
    obtain ⟨c, ok⟩ := Reading.run_of_fits (g := g) twapRange priceRange fits
    rw [Reading.validity, ok] at refused
    cases refused
  · rw [Reading.validate_eq_enforce, failed overflows]
    rfl

/-- A confidence of `18446744073710` scaled by `10^6` passes `2^64 - 1`, so both entry points
refuse a reading of one whole at its TWAP with the overflow, whatever its delay. -/
theorem overflowing_confidence_refused_alike :
    IntType.i64.Contains 1000000 ∧ Reading.ShareOverflows ⟨1000000, 18446744073710, 500, true⟩ ∧
      Reading.validity ⟨1000000, 18446744073710, 500, true⟩ (.int 1000000) {} =
        .error (Reading.shareOverflow ⟨1000000, 18446744073710, 500, true⟩) ∧
      Reading.validate ⟨1000000, 18446744073710, 500, true⟩ (.int 1000000) {} =
        .error (Reading.shareOverflow ⟨1000000, 18446744073710, 500, true⟩) :=
  have overflows : Reading.ShareOverflows ⟨1000000, 18446744073710, 500, true⟩ :=
    ⟨by decide, by decide⟩
  ⟨by decide, overflows,
    (strict_classification_fails_alike 1000000 ⟨1000000, 18446744073710, 500, true⟩ {}
      (by decide) (by decide) (by decide)).2.1 overflows⟩

end MarginLending

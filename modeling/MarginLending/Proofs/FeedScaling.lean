import MarginLending.Proofs.TwapRange
import MarginLending.Oracle.Feed

/-! Feed readings are scaled exactly to the price precision.

A feed price for `k = 10^j` tokens in units of `10^-n` stands for `price · 10^6 · k / 10^n` in the
price precision. The code computes it through the feed's precision `10^n / k = 10^q`, then
multiplies by `10^(6 - q)` or divides by `10^(q - 6)`, whichever is a whole power. Each quotient
on the way is exact, and `price · 10^(6-q) / 10^(q-6)` equals the exact ratio after cross
multiplication, so the only rounding is the final truncation: toward zero for the price, down
for the confidence, which is never negative. A precision not above the multiple is refused.

A stablecoin reading within five basis points of one whole, and within its confidence, reads one
whole. The deviation is an `i64` difference, so a scaled price within `10^6` of the least `i64`
underflows it and the reading is refused.
-/

set_option autoImplicit false

namespace MarginLending

open Arith Data

/-! ## Exact ratios of powers of ten -/

theorem tdiv_eq_of_cross {x y c d : Int} (hc : 0 < c) (hd : 0 < d) (cross : x * d = y * c) :
    x.tdiv c = y.tdiv d := by
  calc x.tdiv c = (x * d).tdiv (c * d) := (Int.mul_tdiv_mul_of_pos_left x c hd).symm
    _ = (y * c).tdiv (d * c) := by rw [cross, Int.mul_comm c d]
    _ = y.tdiv d := Int.mul_tdiv_mul_of_pos_left y d hc

theorem scale_cross (j q : Nat) :
    (10 : Int) ^ 6 * 10 ^ j * 10 ^ (q - 6) = 10 ^ (q + j) * 10 ^ (6 - q) := by
  rw [← pow_add, ← pow_add, ← pow_add]
  congr 1
  omega

/-- The price a raw feed price stands for: `price · 10^6 · k / 10^n`, truncated toward zero. -/
def scaledPrice (price k : Int) (n : Nat) : Int := (price * pricePrecision * k).tdiv (10 ^ n)

/-- The confidence a raw feed confidence stands for: `confidence · 10^6 · k / 10^n`, rounded
down. -/
def scaledConfidence (confidence k : Int) (n : Nat) : Int := confidence * pricePrecision * k / 10 ^ n

theorem scaledPrice_eq_rescaled (p : Int) {j n : Nat} (above : j ≤ n) :
    scaledPrice p (10 ^ j) n = (p * 10 ^ (6 - (n - j))).tdiv (10 ^ (n - j - 6)) := by
  unfold scaledPrice
  apply tdiv_eq_of_cross (by positivity) (by positivity)
  have cross := scale_cross j (n - j)
  rw [Nat.sub_add_cancel above] at cross
  rw [show pricePrecision = 10 ^ 6 from rfl, Int.mul_assoc p, Int.mul_assoc p, cross,
    Int.mul_assoc, Int.mul_comm (10 ^ n)]

theorem scaledConfidence_eq_rescaled {c : Int} (nonneg : 0 ≤ c) {j n : Nat} (above : j ≤ n) :
    scaledConfidence c (10 ^ j) n = c * 10 ^ (6 - (n - j)) / 10 ^ (n - j - 6) := by
  have product : 0 ≤ c * pricePrecision * 10 ^ j :=
    Int.mul_nonneg (Int.mul_nonneg nonneg (by decide)) (by positivity)
  have rescaled : 0 ≤ c * 10 ^ (6 - (n - j)) := by positivity
  rw [scaledConfidence, ← Int.tdiv_eq_ediv_of_nonneg product, ← Int.tdiv_eq_ediv_of_nonneg rescaled]
  exact scaledPrice_eq_rescaled c above

/-! ## The scaling steps -/

def scaledReading (p c pub clk k : Int) (n : Nat) : Reading :=
  ⟨scaledPrice p k n, scaledConfidence c k n, clk - pub, true⟩

def RawFeed.ofInts (p c e pub clk : Int) : RawFeed := ⟨.int p, .int c, .int e, .int pub, .int clk⟩

theorem pow_ten_le {n : Nat} (digits : n ≤ 38) : (10 : Int) ^ n ≤ 10 ^ 38 :=
  pow_le_pow_right₀ (by decide) digits

theorem pow_ten_contains_u128 {n : Nat} (digits : n ≤ 38) :
    IntType.u128.Contains ((10 : Int) ^ n) :=
  ⟨le_trans IntType.u128.min_le_zero (by positivity), le_trans (pow_ten_le digits) (by decide)⟩

theorem pow_ten_contains_i128 {n : Nat} (digits : n ≤ 38) :
    IntType.i128.Contains ((10 : Int) ^ n) :=
  ⟨le_trans IntType.i128.min_le_zero (by positivity), le_trans (pow_ten_le digits) (by decide)⟩

theorem rescale_steps {p c up down : Int} {u d : Nat} (factor : up = 10 ^ u) (divisor : down = 10 ^ d)
    (small : u ≤ 38) (large : d ≤ 38) (price : IntType.i128.Contains p)
    (confidence : IntType.u128.Contains c) (priceProduct : IntType.i128.Contains (p * up))
    (confidenceProduct : IntType.u128.Contains (c * up))
    (priceFits : IntType.i64.Contains ((p * up).tdiv down))
    (confidenceFits : IntType.u64.Contains (c * up / down)) :
    checkedOp IntType.i128 .mul p up = .ok (p * up) ∧
      checkedOp IntType.i128 .div (p * up) down = .ok ((p * up).tdiv down) ∧
      cast ((p * up).tdiv down) IntType.i64 = .ok ((p * up).tdiv down) ∧
      checkedOp IntType.u128 .mul c up = .ok (c * up) ∧
      checkedOp IntType.u128 .div (c * up) down = .ok (c * up / down) ∧
      cast (c * up / down) IntType.u64 = .ok (c * up / down) := by
  subst factor divisor
  have wide : IntType.i128.Contains ((p * 10 ^ u).tdiv (10 ^ d)) :=
    priceFits.widen (by decide) (by decide)
  exact ⟨checkedOp_mul_eq_ok price (pow_ten_contains_i128 small) priceProduct,
    checkedOp_eq_exact (by decide) priceProduct (pow_ten_contains_i128 large)
      (fun _ => by positivity) wide,
    cast_of_contains priceFits,
    checkedOp_mul_eq_ok confidence (pow_ten_contains_u128 small) confidenceProduct,
    checkedOp_div_eq_ok_unsigned rfl confidenceProduct (pow_ten_contains_u128 large)
      (by positivity),
    cast_of_contains confidenceFits⟩

theorem feed_precision_eq_ok {n : Nat} (digits : n ≤ 38) :
    checkedOp IntType.u128 .pow 10 (n : Int) = .ok (10 ^ n) := by
  rw [checkedOp_pow_eq_ok_iff]
  refine ⟨by decide, by omega, by omega, ?_, by simp⟩
  simpa using pow_ten_contains_u128 digits

theorem scale_precision_refused {p c e pub clk k : Int} (digits : e.natAbs ≤ 38)
    (low : 10 ^ e.natAbs ≤ k) :
    (RawFeed.ofInts p c e pub clk).scale (.int k) =
      .error (.feedPrecision (toString e.natAbs) (toString k)) := by
  have refused : decide ((10 : Int) ^ e.natAbs ≤ k) = true := decide_eq_true low
  simp only [RawFeed.scale, RawFeed.ofInts, Value.absolute, checkedData_int,
    feed_precision_eq_ok digits, except_ok_bind, Value.compareBy_int, Value.holds_le_int, refused,
    if_true]
  rfl

/-- An accepted publication is rescaled exactly: when the raw price is an `i128`, the raw
confidence a `u128`, the slots `i64`s and the scaled values fit their fields, the reading is the
exact one. -/
theorem scale_eq_scaledReading {p c e pub clk : Int} {j : Nat} (small : j ≤ 6)
    (digits : e.natAbs ≤ 38) (high : (10 : Int) ^ j < 10 ^ e.natAbs)
    (price : IntType.i128.Contains p) (confidence : IntType.u128.Contains c)
    (published : IntType.i64.Contains pub) (clock : IntType.i64.Contains clk)
    (priceFits : IntType.i64.Contains (scaledPrice p (10 ^ j) e.natAbs))
    (confidenceFits : IntType.u64.Contains (scaledConfidence c (10 ^ j) e.natAbs))
    (delay : IntType.i64.Contains (clk - pub)) :
    (RawFeed.ofInts p c e pub clk).scale (.int (10 ^ j)) =
      .ok (scaledReading p c pub clk (10 ^ j) e.natAbs) := by
  have below : j < e.natAbs := (pow_lt_pow_iff_right₀ (by decide : (1 : Int) < 10)).mp high
  obtain ⟨q, digitsSplit⟩ : ∃ q, e.natAbs = q + j := ⟨e.natAbs - j, by omega⟩
  rw [digitsSplit] at digits high priceFits confidenceFits ⊢
  have nonneg : 0 ≤ c := IntType.nonneg_of_contains rfl confidence
  rw [scaledPrice_eq_rescaled p (by omega), Nat.add_sub_cancel] at priceFits
  rw [scaledConfidence_eq_rescaled nonneg (by omega), Nat.add_sub_cancel] at confidenceFits
  -- the feed's precision `10^(q+j) / 10^j` is exactly `10^q`
  have accepted : decide ((10 : Int) ^ (q + j) ≤ 10 ^ j) = false := decide_eq_false (by omega)
  have precision : checkedOp IntType.u128 .div (10 ^ (q + j)) (10 ^ j) = .ok (10 ^ q) := by
    rw [checkedOp_div_eq_ok_unsigned rfl (pow_ten_contains_u128 digits)
      (pow_ten_contains_u128 (by omega)) (by positivity), pow_add,
      Int.mul_ediv_cancel _ (by positivity)]
  have delayed : checkedOp IntType.i64 .sub clk pub = .ok (clk - pub) :=
    checkedOp_sub_eq_ok clock published delay
  have reading : scaledReading p c pub clk (10 ^ j) (q + j) =
      ⟨(p * 10 ^ (6 - q)).tdiv (10 ^ (q - 6)), c * 10 ^ (6 - q) / 10 ^ (q - 6), clk - pub, true⟩ := by
    rw [scaledReading, scaledPrice_eq_rescaled p (by omega),
      scaledConfidence_eq_rescaled nonneg (by omega), Nat.add_sub_cancel]
  rw [reading]
  by_cases coarse : 6 < q
  · -- a precision above the price precision: divide by `10^(q-6)`
    have up : (10 : Int) ^ (6 - q) = 1 := by rw [Nat.sub_eq_zero_of_le (by omega), pow_zero]
    have above : pricePrecision < 10 ^ q :=
      lt_of_lt_of_le (by decide) (pow_le_pow_right₀ (by decide) coarse)
    have down : checkedOp IntType.u128 .div (10 ^ q) pricePrecision = .ok (10 ^ (q - 6)) := by
      rw [checkedOp_div_eq_ok_unsigned rfl (pow_ten_contains_u128 (by omega)) (by decide)
        (by decide), show pricePrecision = 10 ^ 6 from rfl,
        show q = q - 6 + 6 by omega, pow_add, Int.mul_ediv_cancel _ (by positivity),
        Nat.add_sub_cancel]
    rw [up] at priceFits confidenceFits ⊢
    obtain ⟨timesPrice, dividePrice, castPrice, timesConfidence, divideConfidence,
      castConfidence⟩ := rescale_steps (pow_zero 10).symm rfl (by omega) (by omega) price
        confidence (by simpa using price) (by simpa using confidence) priceFits confidenceFits
    simp only [RawFeed.scale, RawFeed.ofInts, Value.absolute, digitsSplit, checkedData_int,
      feed_precision_eq_ok digits, except_ok_bind, Value.compareBy_int, Value.holds_le_int,
      accepted, Bool.false_eq_true, if_false, precision, pure_bind, above, if_true, down, timesPrice, dividePrice,
      castPrice, timesConfidence, divideConfidence, castConfidence, castData_int,
      cast_of_contains clock, cast_of_contains published, delayed]
    rfl
  · -- a precision at most the price precision: multiply by `10^(6-q)`
    have down : (10 : Int) ^ (q - 6) = 1 := by rw [Nat.sub_eq_zero_of_le (by omega), pow_zero]
    have notAbove : ¬ pricePrecision < 10 ^ q := by
      rw [not_lt, show pricePrecision = 10 ^ 6 from rfl]
      exact pow_le_pow_right₀ (by decide) (by omega)
    have up : checkedOp IntType.u128 .div pricePrecision (10 ^ q) = .ok (10 ^ (6 - q)) := by
      rw [checkedOp_div_eq_ok_unsigned rfl (by decide) (pow_ten_contains_u128 (by omega))
        (by positivity), show pricePrecision = 10 ^ 6 from rfl,
        show (6 : Nat) = 6 - q + q by omega, pow_add, Int.mul_ediv_cancel _ (by positivity),
        Nat.add_sub_cancel]
    rw [down] at priceFits confidenceFits ⊢
    have priceProduct : IntType.i128.Contains (p * 10 ^ (6 - q)) := by
      rw [Int.tdiv_one] at priceFits
      exact priceFits.widen (by decide) (by decide)
    have confidenceProduct : IntType.u128.Contains (c * 10 ^ (6 - q)) := by
      rw [Int.ediv_one] at confidenceFits
      exact confidenceFits.widen (by decide) (by decide)
    obtain ⟨timesPrice, dividePrice, castPrice, timesConfidence, divideConfidence,
      castConfidence⟩ := rescale_steps rfl (pow_zero 10).symm (by omega) (by omega) price
        confidence priceProduct confidenceProduct priceFits confidenceFits
    simp only [RawFeed.scale, RawFeed.ofInts, Value.absolute, digitsSplit, checkedData_int,
      feed_precision_eq_ok digits, except_ok_bind, Value.compareBy_int, Value.holds_le_int,
      accepted, Bool.false_eq_true, if_false, precision, pure_bind, notAbove, up, timesPrice, dividePrice,
      castPrice, timesConfidence, divideConfidence, castConfidence, castData_int,
      cast_of_contains clock, cast_of_contains published, delayed]
    rfl

/-! ## Stablecoins -/

def Reading.pegged (r : Reading) : Reading :=
  if |r.price - pricePrecision| ≤ min stablecoinTolerance r.confidence then
    { r with price := pricePrecision }
  else r

theorem Reading.pegToOne_eq_pegged {r : Reading} (fits : IntType.i64.Contains r.price)
    (low : IntType.i64.min ≤ r.price - pricePrecision) : r.pegToOne = .ok r.pegged := by
  have deviation : IntType.i64.Contains (r.price - pricePrecision) :=
    ⟨low, by have := fits.2; unfold pricePrecision; omega⟩
  simp only [Reading.pegToOne, checkedOp_sub_eq_ok fits (by decide) deviation, except_ok_bind,
    Int.natCast_natAbs, Reading.pegged]
  split <;> rfl

theorem Reading.pegToOne_underflow {r : Reading} (fits : IntType.i64.Contains r.price)
    (below : r.price - pricePrecision < IntType.i64.min) :
    r.pegToOne = .error (.arith ⟨.sub, IntType.i64, r.price, pricePrecision, .underflow⟩) := by
  have underflow : checkedOp IntType.i64 .sub r.price pricePrecision =
      .error (.arith ⟨.sub, IntType.i64, r.price, pricePrecision, .underflow⟩) :=
    checkedOp_underflow (by decide) fits (by decide) (fun divides => nomatch divides) below
  simp only [Reading.pegToOne, underflow, except_error_bind]

theorem Reading.pegged_price_eq_iff {r : Reading} (nonneg : 0 ≤ r.confidence) :
    r.pegged.price = pricePrecision ↔
      |r.price - pricePrecision| ≤ min stablecoinTolerance r.confidence := by
  unfold Reading.pegged
  split
  · next within => exact ⟨fun _ => within, fun _ => rfl⟩
  · next outside =>
    refine ⟨fun one => absurd ?_ outside, fun within => absurd within outside⟩
    rw [one, sub_self, abs_zero]
    exact le_min (by decide) nonneg

/-! ## Readings by source -/

def FeedSource.multiple? : FeedSource → Option Int
  | .feed => some 1
  | .feed1k => some 1000
  | .feed1m => some 1000000
  | .feedStable => some 1
  | .quoteAsset => none

theorem FeedSource.reading_of_multiple {s : FeedSource} {k : Int} (source : s.multiple? = some k)
    (f : RawFeed) :
    ∃ j ≤ 6, k = 10 ^ j ∧
      s.reading f = if s = .feedStable then f.scale (.int k) >>= Reading.pegToOne
        else f.scale (.int k) := by
  cases s <;> simp only [FeedSource.multiple?, Option.some.injEq, reduceCtorEq] at source <;>
    subst source
  · exact ⟨0, by decide, rfl, rfl⟩
  · exact ⟨3, by decide, rfl, rfl⟩
  · exact ⟨6, by decide, rfl, rfl⟩
  · exact ⟨0, by decide, rfl, rfl⟩

theorem FeedSource.reading_refused {s : FeedSource} {k : Int} (source : s.multiple? = some k)
    {p c e pub clk : Int} (digits : e.natAbs ≤ 38) (low : 10 ^ e.natAbs ≤ k) :
    s.reading (.ofInts p c e pub clk) =
      .error (.feedPrecision (toString e.natAbs) (toString k)) := by
  obtain ⟨j, -, -, reads⟩ := s.reading_of_multiple source (.ofInts p c e pub clk)
  rw [reads, scale_precision_refused digits low]
  split <;> rfl

/-- Feed normalization scales exactly to the price precision. For a scaled source with multiple
`k` and a publication of integers whose exponent has at most 38 digits: a precision `10^|e|` not
above `k` is refused as an invalid oracle. Otherwise, when the raw price is an `i128`, the raw
confidence a `u128`, the slots `i64`s and the scaled price, confidence and delay fit their
fields, the reading is the exact rescaling: `price · 10^6 · k / 10^|e|` truncated toward zero,
the confidence rounded down, the slot distance and sufficient data. A stablecoin reading is then
pegged, its price one whole exactly when within five basis points and within its confidence,
unless its `i64` deviation from one whole underflows. The quote asset always reads one whole. -/
theorem feed_readings_scale_exactly {s : FeedSource} {k : Int} (source : s.multiple? = some k)
    (p c e pub clk : Int) (digits : e.natAbs ≤ 38) :
    (10 ^ e.natAbs ≤ k → s.reading (.ofInts p c e pub clk) =
      .error (.feedPrecision (toString e.natAbs) (toString k))) ∧
    (k < 10 ^ e.natAbs → IntType.i128.Contains p → IntType.u128.Contains c →
      IntType.i64.Contains pub → IntType.i64.Contains clk →
      IntType.i64.Contains (scaledPrice p k e.natAbs) →
      IntType.u64.Contains (scaledConfidence c k e.natAbs) → IntType.i64.Contains (clk - pub) →
      (s ≠ .feedStable →
        s.reading (.ofInts p c e pub clk) = .ok (scaledReading p c pub clk k e.natAbs)) ∧
      (s = .feedStable → IntType.i64.min ≤ scaledPrice p k e.natAbs - pricePrecision →
        s.reading (.ofInts p c e pub clk) = .ok (scaledReading p c pub clk k e.natAbs).pegged ∧
        ((scaledReading p c pub clk k e.natAbs).pegged.price = pricePrecision ↔
          |scaledPrice p k e.natAbs - pricePrecision| ≤
            min stablecoinTolerance (scaledConfidence c k e.natAbs))) ∧
      (s = .feedStable → scaledPrice p k e.natAbs - pricePrecision < IntType.i64.min →
        s.reading (.ofInts p c e pub clk) = .error
          (.arith ⟨.sub, IntType.i64, scaledPrice p k e.natAbs, pricePrecision, .underflow⟩))) ∧
    ∀ f, FeedSource.quoteAsset.reading f = .ok Reading.quoteAsset := by
  refine ⟨FeedSource.reading_refused source digits, ?_, fun _ => rfl⟩
  intro high price confidence published clock priceFits confidenceFits delay
  obtain ⟨j, small, rfl, reads⟩ := s.reading_of_multiple source (.ofInts p c e pub clk)
  have scaled := scale_eq_scaledReading small digits high price confidence published clock
    priceFits confidenceFits delay
  have confidenceNonneg : 0 ≤ (scaledReading p c pub clk (10 ^ j) e.natAbs).confidence :=
    confidenceFits.1
  refine ⟨fun plain => ?_, fun stable low => ?_, fun stable below => ?_⟩
  · rw [reads, if_neg plain, scaled]
  · rw [reads, if_pos stable, scaled, except_ok_bind]
    exact ⟨Reading.pegToOne_eq_pegged priceFits low, Reading.pegged_price_eq_iff confidenceNonneg⟩
  · rw [reads, if_pos stable, scaled, except_ok_bind]
    exact Reading.pegToOne_underflow priceFits below

/-- Fifteen hundred thousandths of a dollar per thousand tokens at eight decimals: fifteen
dollars in the price precision, and a confidence of ten becomes a hundred. -/
theorem thousand_token_feed_scales :
    FeedSource.feed1k.reading (.ofInts 1500000 10 (-8) 0 0) =
        .ok (scaledReading 1500000 10 0 0 1000 8) ∧
      scaledReading 1500000 10 0 0 1000 8 = ⟨15000000, 100, 0, true⟩ :=
  ⟨((feed_readings_scale_exactly rfl 1500000 10 (-8) 0 0 (by decide)).2.1 (by decide)
    (by decide) (by decide) (by decide) (by decide) (by decide) (by decide) (by decide)).1
    (by decide), by decide⟩

/-- A stablecoin feed at the least `i64` price, already at the price precision, scales to a
price that fits its field, but its deviation from one whole underflows `i64`. -/
theorem least_stablecoin_price_underflows :
    IntType.i64.Contains (scaledPrice (-9223372036854775808) 1 6) ∧
      FeedSource.feedStable.reading (.ofInts (-9223372036854775808) 0 (-6) 0 0) =
        .error (.arith ⟨.sub, IntType.i64, -9223372036854775808, 1000000, .underflow⟩) :=
  ⟨by decide, rfl⟩

end MarginLending

import MarginLending.Oracle.Twap
import MarginLending.Proofs.TwapRange

/-! One reading moves an oracle TWAP by at most its band and one unit.

A reading is clamped into the band around the TWAP it moves, `l ± l / d` for the TWAP `l` and the
band divisor `d`. The update averages the clamped price with the old TWAP; the truncated mean
stays between the two, inside the band, but it is then nudged by one toward the heavier weighted
point, which can carry it one unit past the band. So an accepted reading moves the hourly TWAP,
and the five-minute TWAP from its base (the hourly TWAP while the five-minute one is zero), by at
most their bands plus one, and the band alone is not enough: a TWAP of 3000 with a band of 1000
moves to 1999. A rejected reading leaves the history as it is, so a five-minute TWAP of zero stays
zero, away from its base.
-/

set_option autoImplicit false

namespace MarginLending

open Arith Data

namespace TwapConfig

variable {c : TwapConfig} {d l p : Int} {v : Value}

theorem clamp_mem (den : c.bandDenominator = .int d) (positive : 0 < d) (twap : 0 < l)
    (ok : c.clamp (.int p) (.int l) = .ok v) :
    ∃ x, v = .int x ∧ l - l / d ≤ x ∧ x ≤ l + l / d := by
  have notEmpty : ¬ l ≤ 0 := by omega
  simp only [clamp, Value.compareBy_int, Value.holds_le_int, notEmpty, decide_false, den,
    checkedData_int, except_ok_bind, Bool.false_eq_true, if_false, except_bind_eq_ok] at ok
  obtain ⟨band, divided, lower, below, upper, above, larger, largerOk, smaller⟩ := ok
  obtain ⟨-, -, -, rfl⟩ := checkedOp_ok_of_binary (by decide) divided
  obtain ⟨-, -, -, rfl⟩ := checkedOp_ok_of_binary (by decide) below
  obtain ⟨-, -, -, rfl⟩ := checkedOp_ok_of_binary (by decide) above
  rw [Value.largerOf_int, Except.ok.injEq] at largerOk
  subst largerOk
  rw [Value.smallerOf_int, Except.ok.injEq] at smaller
  -- the band is a truncated quotient of positive integers, so the floor quotient
  have band : l.tdiv d = l / d := Int.tdiv_eq_ediv_of_nonneg (by omega)
  have nonneg : 0 ≤ l / d := Int.ediv_nonneg (by omega) (by omega)
  simp only [exact, band] at smaller
  exact ⟨_, smaller.symm, le_min (le_max_right _ _) (by omega), min_le_right _ _⟩

end TwapConfig

namespace Lending

variable {p l a : Int} {now lastTs period : Value}

theorem twap_averages (ok : twap (.int p) now (.int l) lastTs period = .ok a) :
    ∃ w₁ w₂, 0 ≤ w₁ ∧ 0 < w₂ ∧ a = averageOf p l w₁ w₂ := by
  simp only [twap, except_bind_eq_ok] at ok
  obtain ⟨elapsed, -, rest, -, averaged⟩ := ok
  exact ⟨_, _, le_max_left _ _, Int.lt_of_lt_of_le Int.zero_lt_one (le_max_left _ _),
    weightedAverage_eq_ok averaged⟩

theorem twap_within_band {b : Int} (low : l - b ≤ p) (high : p ≤ l + b)
    (ok : twap (.int p) now (.int l) lastTs period = .ok a) : |a - l| ≤ b + 1 := by
  obtain ⟨w₁, w₂, first, second, rfl⟩ := twap_averages ok
  have hull := averageOf_mem p l first second
  rw [abs_le]
  constructor <;> omega

end Lending

namespace PriceHistory

/-- The TWAP the five-minute TWAP moves from: its own, or the hourly one while it is zero. -/
def fiveMinuteBase (h : PriceHistory) : Int :=
  if h.twap5min = 0 then h.twap else h.twap5min

variable {h h' : PriceHistory} {r : Reading} {now : Value} {g : ValidityRails} {c : TwapConfig}

/-- A reading accepted by a history with a positive TWAP moves each of its two TWAPs by a TWAP
update from a price clamped into the band around it. -/
theorem afterReading_moves (ok : h.afterReading r now g c = .ok (some h'))
    (positive : 0 < h.twap) :
    (∃ p, c.clamp (.int r.price) (.int h.twap) = .ok p ∧
      Lending.twap p now (.int h.twap) h.twapTimestamp c.period = .ok h'.twap) ∧
    (∃ p, c.clamp (.int r.price) (.int h.fiveMinuteBase) = .ok p ∧
      Lending.twap p now (.int h.fiveMinuteBase) h.twapTimestamp c.period5min = .ok h'.twap5min) := by
  have notEmpty : ¬ h.twap ≤ 0 := by omega
  simp only [afterReading, except_bind_eq_ok, notEmpty, decide_false, Bool.false_eq_true,
    if_false] at ok
  obtain ⟨v, -, rest⟩ := ok
  split at rest
  · simp [pure, Except.pure] at rest
  · simp only [except_bind_eq_ok] at rest
    obtain ⟨p, clamped, hourly, hourlyOk, p₅, clamped₅, five, fiveOk, time, -, later, -, result⟩ :=
      rest
    -- both branches keep the two TWAPs just computed
    have twaps : h'.twap = hourly ∧ h'.twap5min = five := by
      split at result <;>
      · simp only [pure, Except.pure, Except.ok.injEq, Option.some.injEq] at result
        exact ⟨by rw [← result], by rw [← result]⟩
    rw [twaps.1, twaps.2]
    exact ⟨⟨p, clamped, hourlyOk⟩, ⟨p₅, clamped₅, fiveOk⟩⟩

theorem clamped_twap_within_band {d l a : Int} {p : Value} {period : Value}
    (den : c.bandDenominator = .int d) (positive : 0 < d) (twap : 0 < l)
    (clamped : c.clamp (.int r.price) (.int l) = .ok p)
    (moved : Lending.twap p now (.int l) h.twapTimestamp period = .ok a) :
    |a - l| ≤ l / d + 1 := by
  obtain ⟨x, rfl, low, high⟩ := TwapConfig.clamp_mem den positive twap clamped
  exact Lending.twap_within_band low high moved

end PriceHistory

open PriceHistory in
/-- One accepted reading moves the oracle TWAPs by at most their bands plus one unit. From a
history with a positive hourly TWAP, under a configuration whose band divisor `d` is positive, an
accepted reading at any time leaves the hourly TWAP within `twap / d + 1` of where it was, and the
five-minute TWAP within `base / d + 1` of its base when that base is positive. -/
theorem oracle_twaps_move_within_band_and_one (h h' : PriceHistory) (r : Reading)
    (g : ValidityRails) (c : TwapConfig) (now : Value) (d : Int)
    (den : c.bandDenominator = .int d) (positive : 0 < d) (seeded : 0 < h.twap)
    (ok : h.afterReading r now g c = .ok (some h')) :
    |h'.twap - h.twap| ≤ h.twap / d + 1 ∧
      (0 < h.fiveMinuteBase → |h'.twap5min - h.fiveMinuteBase| ≤ h.fiveMinuteBase / d + 1) := by
  obtain ⟨⟨p, clamped, moved⟩, ⟨p₅, clamped₅, moved₅⟩⟩ := afterReading_moves ok seeded
  exact ⟨clamped_twap_within_band den positive seeded clamped moved,
    fun base => clamped_twap_within_band den positive base clamped₅ moved₅⟩

def bandEdgeHistory : PriceHistory := ⟨3000, 0, 0, 3000, 3000, .int 0⟩

def bandEdgeReading : Reading := ⟨2000, 1, 0, true⟩

def bandEdgeMoved : PriceHistory := ⟨2000, 1, 0, 1999, 2000, .int 3598⟩

theorem bandEdge_moves :
    bandEdgeHistory.afterReading bandEdgeReading (.int 3598) {} .standard = .ok (some bandEdgeMoved) :=
  rfl

/-- At the band edge the bound is reached: the hourly TWAP moves by its band plus one. -/
theorem band_and_one_reached :
    |bandEdgeMoved.twap - bandEdgeHistory.twap| = bandEdgeHistory.twap / 3 + 1 ∧
      |bandEdgeMoved.twap - bandEdgeHistory.twap| ≤ bandEdgeHistory.twap / 3 + 1 ∧
      (0 < bandEdgeHistory.fiveMinuteBase →
        |bandEdgeMoved.twap5min - bandEdgeHistory.fiveMinuteBase| ≤
          bandEdgeHistory.fiveMinuteBase / 3 + 1) :=
  ⟨by decide, oracle_twaps_move_within_band_and_one bandEdgeHistory bandEdgeMoved bandEdgeReading {}
    .standard (.int 3598) 3 rfl (by decide) (by decide) bandEdge_moves⟩

/-- The band alone bounds neither move. The TWAP of 3000, whose band is 1000, moves to 1999 on a
reading of 2000 two seconds before the end of its hour: the truncated mean is 2000 and the new
price, three times the heavier weighted point, nudges it down. And a reading with no price is
rejected, so a five-minute TWAP of 0 stays 0, the whole hourly TWAP away from its base. -/
theorem band_alone_bounds_no_move :
    ¬ (∀ (h : PriceHistory) (r : Reading) (g : ValidityRails) (c : TwapConfig) (now d : Int)
        (after : Option PriceHistory), c.bandDenominator = .int d → 0 < d → 0 < h.twap →
        h.afterReading r (.int now) g c = .ok after →
          |(after.getD h).twap - h.twap| ≤ h.twap / d) ∧
    ¬ (∀ (h : PriceHistory) (r : Reading) (g : ValidityRails) (c : TwapConfig) (now d : Int)
        (after : Option PriceHistory), c.bandDenominator = .int d → 0 < d → 0 < h.twap →
        h.afterReading r (.int now) g c = .ok after → 0 < h.fiveMinuteBase →
          |(after.getD h).twap5min - h.fiveMinuteBase| ≤ h.fiveMinuteBase / d) := by
  constructor
  · intro law
    have moved := law bandEdgeHistory bandEdgeReading {} .standard 3598 3 (some bandEdgeMoved) rfl
      (by decide) (by decide) bandEdge_moves
    exact absurd moved (by decide)
  · intro law
    have kept := law ⟨3000, 0, 0, 3000, 0, .int 0⟩ ⟨0, 1, 0, true⟩ {} .standard 60 3 none rfl
      (by decide) (by decide) rfl (by decide)
    exact absurd kept (by decide)

end MarginLending

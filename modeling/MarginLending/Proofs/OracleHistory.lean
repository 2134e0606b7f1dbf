import MarginLending.Oracle.Twap
import MarginLending.Proofs.MarketRun

/-! The oracle history and time.

A reading at time `now` either is refused, and the history stays as it is, or moves the history.
A history whose hourly TWAP is not positive counts as empty: an accepted reading seeds it afresh,
with `now` as its time, whatever time it held. A history with a positive TWAP moves along the
TWAP path, which keeps the later of `now` and the stored time and gives a reading older than the
stored time no weight: such a reading leaves the last reading and the hourly TWAP as they were.

So the stored time never goes back along a run in which every reading meets a positive TWAP. A
reseeding can move it back: the TWAP path itself can leave a TWAP of zero (a one-unit TWAP
nudged down by one), and an empty history with a later time is reseeded at an earlier one.
-/

set_option autoImplicit false

namespace MarginLending

open Arith Data

/-! ## The TWAP of an older reading -/

namespace Lending

theorem weightedAverage_zero_first {p₁ w₂ : Value} {p₂ a : Int}
    (ok : weightedAverage p₁ (.int p₂) (.int 0) w₂ = .ok a) : a = p₂ := by
  simp only [weightedAverage, except_bind_eq_ok, Value.equals_int, decide_true, if_true,
    castData_int] at ok
  obtain ⟨_, -, _, -, _, -, _, -, average⟩ := ok
  exact (cast_eq_ok average).1

theorem twap_last_int {price now lastTwap lastTs period : Value} {a : Int}
    (ok : twap price now lastTwap lastTs period = .ok a) : ∃ ts, lastTs = .int ts := by
  simp only [twap, checkedData, except_bind_eq_ok] at ok
  obtain ⟨_, ⟨_, -, ts, operand, -⟩, -⟩ := ok
  exact ⟨ts, Market.operand_eq_ok operand⟩

theorem twap_before_last {price period : Value} {now last ts a : Int}
    (ok : twap price (.int now) (.int last) (.int ts) period = .ok a) (early : now < ts) :
    a = last := by
  simp only [twap, except_bind_eq_ok, checkedData_int] at ok
  obtain ⟨d, difference, _, -, average⟩ := ok
  obtain ⟨-, -, -, rfl⟩ := checkedOp_ok_of_binary (by decide) difference
  have noWeight : max 0 (exact .sub now ts) = 0 := by
    simp only [exact]
    omega
  rw [noWeight] at average
  exact weightedAverage_zero_first average

end Lending

/-! ## One reading -/

namespace PriceHistory

variable {h h' : PriceHistory} {r : Reading} {g : ValidityRails} {c : TwapConfig}

theorem afterReading_seed {now : Value} (ok : h.afterReading r now g c = .ok (some h'))
    (empty : h.twap ≤ 0) : h' = { ofReading r with twapTimestamp := now } := by
  simp only [afterReading, except_bind_eq_ok, empty, decide_true, if_true] at ok
  obtain ⟨v, -, rest⟩ := ok
  split at rest
  · simp [pure, Except.pure] at rest
  · simp only [pure, Except.pure, Except.ok.injEq, Option.some.injEq] at rest
    exact rest.symm

/-- A history with a positive TWAP moves along the TWAP path: its time becomes the later of
`now` and the stored integer time, its hourly TWAP the TWAP update's, and the last reading is
replaced only by a reading that is not older than the stored time. -/
theorem afterReading_of_pos {now : Int} (ok : h.afterReading r (.int now) g c = .ok (some h'))
    (positive : 0 < h.twap) :
    ∃ ts hourly five, h.twapTimestamp = .int ts ∧
      (∃ p, Lending.twap p (.int now) (.int h.twap) (.int ts) c.period = .ok hourly) ∧
      h' = if ts ≤ now then
          { h with
            twap := hourly
            twap5min := five
            twapTimestamp := .int (max now ts)
            lastPrice := r.price
            lastConfidence := r.confidence
            lastDelay := r.delay }
        else { h with twap := hourly, twap5min := five, twapTimestamp := .int (max now ts) } := by
  have notEmpty : ¬ h.twap ≤ 0 := by omega
  simp only [afterReading, except_bind_eq_ok, notEmpty, decide_false, Bool.false_eq_true,
    if_false] at ok
  obtain ⟨v, -, rest⟩ := ok
  split at rest
  · simp [pure, Except.pure] at rest
  · simp only [except_bind_eq_ok] at rest
    obtain ⟨p, -, hourly, hourlyOk, _, -, five, -, larger, largerOk, later, laterOk, result⟩ :=
      rest
    -- the TWAP update read the stored time as an integer operand
    obtain ⟨ts, stored⟩ := Lending.twap_last_int hourlyOk
    rw [stored] at hourlyOk largerOk laterOk
    rw [Value.largerOf_int, Except.ok.injEq] at largerOk
    rw [Value.compareBy_int, Value.holds_ge_int, Except.ok.injEq] at laterOk
    subst largerOk laterOk
    refine ⟨ts, hourly, five, stored, ⟨p, hourlyOk⟩, ?_⟩
    by_cases fresh : ts ≤ now
    · simp only [fresh, decide_true, if_true, pure, Except.pure, Except.ok.injEq,
        Option.some.injEq] at result ⊢
      exact result.symm
    · simp only [fresh, decide_false, Bool.false_eq_true, if_false, pure, Except.pure,
        Except.ok.injEq, Option.some.injEq] at result ⊢
      exact result.symm

/-- From a history with a positive TWAP, a reading never moves the stored time back, and a
reading older than the stored time leaves the last reading and the hourly TWAP as they were. -/
theorem afterReading_time_law {now : Int} {after : Option PriceHistory}
    (ok : h.afterReading r (.int now) g c = .ok after) (positive : 0 < h.twap) :
    Market.TimeAdvances h.twapTimestamp (after.getD h).twapTimestamp ∧
      ∀ ts, h.twapTimestamp = .int ts → now < ts →
        (after.getD h).lastPrice = h.lastPrice ∧
        (after.getD h).lastConfidence = h.lastConfidence ∧
        (after.getD h).lastDelay = h.lastDelay ∧ (after.getD h).twap = h.twap := by
  cases after with
  | none => exact ⟨.refl _, fun _ _ _ => ⟨rfl, rfl, rfl, rfl⟩⟩
  | some h' =>
    obtain ⟨ts, hourly, five, stored, ⟨p, hourlyOk⟩, rfl⟩ := afterReading_of_pos ok positive
    simp only [Option.getD_some]
    constructor
    · -- either way the new time is the later of the two
      refine .inr ⟨ts, max now ts, stored, ?_, le_max_right _ _⟩
      split <;> rfl
    · intro ts' stored' early
      rw [stored] at stored'
      cases stored'
      have kept := Lending.twap_before_last hourlyOk early
      simp only [show ¬ ts ≤ now by omega, if_false, kept, and_self]

/-- The history after a reading at an integer time; a reading that is refused, or whose update
fails, leaves the history as it was. -/
def stepReading (g : ValidityRails) (c : TwapConfig) (h : PriceHistory)
    (reading : Reading × Int) : PriceHistory :=
  match h.afterReading reading.1 (.int reading.2) g c with
  | .ok after => after.getD h
  | .error _ => h

theorem stepReading_time (reading : Reading × Int) (positive : 0 < h.twap) :
    Market.TimeAdvances h.twapTimestamp (stepReading g c h reading).twapTimestamp := by
  unfold stepReading
  split
  · exact (afterReading_time_law ‹_› positive).1
  · exact .refl _

end PriceHistory

/-- The oracle history does not go back in time while its TWAP is positive. From a history with
a positive hourly TWAP, a reading at any integer time leaves a history whose time is the stored
one or a later integer, and a reading older than the stored time keeps the last reading, its
confidence and delay, and the hourly TWAP. A history whose TWAP is not positive is empty: an
accepted reading seeds it afresh at the time given. Along any run of readings at integer times,
in any order, in which every reading meets a positive TWAP, the stored time never decreases. -/
theorem oracle_history_time_law :
    (∀ (h : PriceHistory) (r : Reading) (g : ValidityRails) (c : TwapConfig) (now : Int)
        (after : Option PriceHistory),
      h.afterReading r (.int now) g c = .ok after → 0 < h.twap →
        Market.TimeAdvances h.twapTimestamp (after.getD h).twapTimestamp ∧
        ∀ ts, h.twapTimestamp = .int ts → now < ts →
          (after.getD h).lastPrice = h.lastPrice ∧
          (after.getD h).lastConfidence = h.lastConfidence ∧
          (after.getD h).lastDelay = h.lastDelay ∧ (after.getD h).twap = h.twap) ∧
    (∀ (h h' : PriceHistory) (r : Reading) (g : ValidityRails) (c : TwapConfig) (now : Int),
      h.afterReading r (.int now) g c = .ok (some h') → h.twap ≤ 0 →
        h' = { PriceHistory.ofReading r with twapTimestamp := .int now }) ∧
    (∀ (h : PriceHistory) (g : ValidityRails) (c : TwapConfig) (readings : List (Reading × Int)),
      (∀ p ∈ (List.scanl (PriceHistory.stepReading g c) h readings).zip readings, 0 < p.1.twap) →
        (List.scanl (PriceHistory.stepReading g c) h readings).Pairwise fun a b =>
          Market.TimeAdvances a.twapTimestamp b.twapTimestamp) :=
  ⟨fun _ _ _ _ _ _ ok positive => PriceHistory.afterReading_time_law ok positive,
    fun _ _ _ _ _ _ ok empty => PriceHistory.afterReading_seed ok empty,
    fun _ g c readings positive =>
      pairwise_scanl (PriceHistory.stepReading g c)
        (fun a b => Market.TimeAdvances a.twapTimestamp b.twapTimestamp) (fun s _ => 0 < s.twap)
        (fun _ => .refl _) (fun first second => first.trans second)
        (fun _ reading positive => PriceHistory.stepReading_time reading positive) _ readings
        positive⟩

def sampleOracleHistory : PriceHistory := ⟨34000000, 10000, 1, 34000000, 34000000, .int 1000⟩

def sampleOracleReadings : List (Reading × Int) :=
  [(⟨35000000, 10000, 1, true⟩, 1060), (⟨30000000, 20000, 7, true⟩, 500),
    (⟨34500000, 10000, 1, true⟩, 1200)]

theorem sample_oracle_run_keeps_time :
    (List.scanl (PriceHistory.stepReading {} .standard) sampleOracleHistory
      sampleOracleReadings).Pairwise fun a b =>
        Market.TimeAdvances a.twapTimestamp b.twapTimestamp :=
  oracle_history_time_law.2.2 _ _ _ _ (by decide)

/-- An empty history that holds the time 100 is reseeded by a good reading at time 50, so its
time goes back to 50. -/
theorem reseeding_moves_time_back :
    ¬ ∀ (h : PriceHistory) (r : Reading) (g : ValidityRails) (c : TwapConfig) (now : Int)
        (after : Option PriceHistory),
      h.afterReading r (.int now) g c = .ok after →
        Market.TimeAdvances h.twapTimestamp (after.getD h).twapTimestamp := by
  intro law
  have reseeded := law ⟨0, 0, 0, 0, 0, .int 100⟩ ⟨1000000, 1000, 1, true⟩ {} .standard 50
    (some { PriceHistory.ofReading ⟨1000000, 1000, 1, true⟩ with twapTimestamp := .int 50 }) rfl
  rcases reseeded with same | ⟨x, y, before, after, later⟩
  · have := Value.int.inj same
    omega
  · cases before
    cases after
    omega

end MarginLending

import MarginLending.Oracle.Status
import MarginLending.Proofs.Checked
import MarginLending.Proofs.MarketSnapshot

/-! The fill gate and the block decision.

Both compute the oracle status first, so they fail together and with the same failure. When
the status is known, the gate allows a fill exactly when the block decision does not block it,
and it names the first of its three reasons that applies: paused fills, then a reading not good
enough for fills, then a mark price too far from the five-minute TWAP.
-/

set_option autoImplicit false

namespace MarginLending

open Data

theorem DivergenceRails.tooDivergent_int (g : DivergenceRails) (n : Int) :
    g.tooDivergent (.int n) = .ok (decide (g.effectiveMarkPct < |n|)) := by
  simp only [tooDivergent, Value.absolute, bind, Except.bind, Value.compareBy_int,
    Value.holds_gt_int, Int.natCast_natAbs]

namespace OracleStatus

variable {r : Reading} {g : GuardRails} {h : PriceHistory} {mark : Value} {s : OracleStatus}

theorem tooDivergent_of_eq_ok (ok : OracleStatus.of r g h mark = .ok s) :
    s.tooDivergent = decide (g.divergence.effectiveMarkPct < |s.spreadPct|) := by
  simp only [OracleStatus.of, except_bind_eq_ok, DivergenceRails.tooDivergent_int] at ok
  obtain ⟨v, -, spread, -, _, divergent, result⟩ := ok
  cases divergent
  cases result
  rfl

end OracleStatus

namespace FillDecision

variable {m : Market} {r : Reading} {g : GuardRails} {mark : Value} {s : OracleStatus}

/-- The gate on a known status: the reason is the first of the three that applies, and the fill
is allowed exactly when the status does not block it. -/
theorem evaluate_of_status (ok : OracleStatus.of r g m.oracleHistory mark = .ok s) :
    ∃ d, evaluate m r g mark = .ok d ∧ d.status = s ∧ d.allowed = !s.blocksFill m ∧
      (d.reason = "fills_paused" ↔ m.fillsEnabled = false) ∧
      (m.fillsEnabled = true →
        (d.reason = "oracle_invalid_for_fill" ↔ Action.fillOrder.accepts s.validity = false)) ∧
      (m.fillsEnabled = true → Action.fillOrder.accepts s.validity = true →
        (d.reason = "mark_price_too_divergent" ↔ s.tooDivergent = true)) ∧
      (d.reason = "" ↔ d.allowed = true) := by
  simp only [evaluate, ok, bind, Except.bind, pure, Except.pure]
  -- the three refusals are tried in order; each case fixes the ones before it
  by_cases enabled : m.fillsEnabled
  · by_cases accepted : Action.fillOrder.accepts s.validity
    · by_cases diverging : s.tooDivergent
      · simp [enabled, accepted, diverging, OracleStatus.blocksFill]
      · simp [enabled, accepted, diverging, OracleStatus.blocksFill]
    · simp [enabled, accepted, OracleStatus.blocksFill]
  · simp [enabled, OracleStatus.blocksFill]

theorem evaluate_eq_error_iff (e : Failure) :
    evaluate m r g mark = .error e ↔ OracleStatus.of r g m.oracleHistory mark = .error e := by
  cases status : OracleStatus.of r g m.oracleHistory mark with
  | error e' => simp [evaluate, status, bind, Except.bind]
  | ok s =>
    obtain ⟨d, decided, -⟩ := evaluate_of_status status
    simp [decided]

end FillDecision

namespace Market

theorem fillBlocked_eq_error_iff (m : Market) (r : Reading) (g : GuardRails) (h : PriceHistory)
    (mark : Value) (e : Failure) :
    m.fillBlocked r g h mark = .error e ↔ OracleStatus.of r g h mark = .error e := by
  cases status : OracleStatus.of r g h mark <;> simp [fillBlocked, status, bind, Except.bind, pure,
    Except.pure]

theorem fillBlocked_of_status {m : Market} {r : Reading} {g : GuardRails} {h : PriceHistory}
    {mark : Value} {s : OracleStatus} (ok : OracleStatus.of r g h mark = .ok s) :
    m.fillBlocked r g h mark = .ok (s.blocksFill m) := by
  simp [fillBlocked, ok, bind, Except.bind, pure, Except.pure]

end Market

/-- The fill gate refines the block decision taken against the market's own oracle history. For
every market, reading, guard rails and mark price, the gate fails exactly when the block decision
fails, and with the same failure. Otherwise the gate's status is the oracle status, it allows the
fill exactly when the block decision does not block it, and its reason is `fills_paused` exactly
when fills are paused; else `oracle_invalid_for_fill` exactly when the reading is not accepted for
fills; else `mark_price_too_divergent` exactly when the size of the mark spread exceeds the
effective threshold; and it is empty exactly when the fill is allowed. -/
theorem fill_gate_refines_block_decision (m : Market) (r : Reading) (g : GuardRails)
    (mark : Value) :
    (∀ e, FillDecision.evaluate m r g mark = .error e ↔
      m.fillBlocked r g m.oracleHistory mark = .error e) ∧
    ∀ d, FillDecision.evaluate m r g mark = .ok d →
      OracleStatus.of r g m.oracleHistory mark = .ok d.status ∧
      m.fillBlocked r g m.oracleHistory mark = .ok (!d.allowed) ∧
      (d.reason = "fills_paused" ↔ m.fillsEnabled = false) ∧
      (m.fillsEnabled = true →
        (d.reason = "oracle_invalid_for_fill" ↔
          Action.fillOrder.accepts d.status.validity = false)) ∧
      (m.fillsEnabled = true → Action.fillOrder.accepts d.status.validity = true →
        (d.reason = "mark_price_too_divergent" ↔
          g.divergence.effectiveMarkPct < |d.status.spreadPct|)) ∧
      (d.reason = "" ↔ d.allowed = true) := by
  refine ⟨fun e => ?_, fun d decided => ?_⟩
  · rw [FillDecision.evaluate_eq_error_iff, Market.fillBlocked_eq_error_iff]
  · -- a decision was reached, so the status was computed
    cases status : OracleStatus.of r g m.oracleHistory mark with
    | error e =>
      have := (FillDecision.evaluate_eq_error_iff e).mpr status
      rw [decided] at this
      cases this
    | ok s =>
      obtain ⟨d', decided', rfl, allowed, paused, invalid, diverging, allowedReason⟩ :=
        FillDecision.evaluate_of_status status
      rw [decided] at decided'
      cases decided'
      have threshold := OracleStatus.tooDivergent_of_eq_ok status
      refine ⟨rfl, ?_, paused, invalid, fun enabled accepted => ?_, allowedReason⟩
      · rw [Market.fillBlocked_of_status status, allowed, Bool.not_not]
      · rw [diverging enabled accepted, threshold, decide_eq_true_iff]

def settledMarket : Market :=
  { minimalMarket with
    oracleHistory := { PriceHistory.empty with twap := 1000000, twap5min := 1000000 } }

/-- On a market whose TWAPs sit at one whole, a good reading with a mark price of two wholes,
50% away from the five-minute TWAP, reaches a decision; the gate refuses the fill for the
divergence, and the block decision blocks it. -/
theorem doubled_mark_blocks_fill :
    ∃ d, FillDecision.evaluate settledMarket Reading.quoteAsset {} (.int 2000000) = .ok d ∧
      d.reason = "mark_price_too_divergent" ∧
      settledMarket.fillBlocked Reading.quoteAsset {} settledMarket.oracleHistory (.int 2000000) =
        .ok true := by
  have status : OracleStatus.of Reading.quoteAsset {} settledMarket.oracleHistory (.int 2000000) =
      .ok ⟨Reading.quoteAsset, 500000, true, .valid⟩ := by rfl
  obtain ⟨d, evaluated, -⟩ := FillDecision.evaluate_of_status status
  obtain ⟨-, refines⟩ :=
    fill_gate_refines_block_decision settledMarket Reading.quoteAsset {} (.int 2000000)
  obtain ⟨status', blocked, -, -, diverging, allowedReason⟩ := refines d evaluated
  have same : d.status = ⟨Reading.quoteAsset, 500000, true, .valid⟩ :=
    Except.ok.inj (status'.symm.trans status)
  have reason : d.reason = "mark_price_too_divergent" := by
    rw [diverging rfl (by rw [same]; rfl), same]
    decide
  have refused : d.allowed = false := by
    rw [← Bool.not_eq_true, ← allowedReason, reason]
    decide
  exact ⟨d, evaluated, reason, by rw [blocked, refused]; rfl⟩

end MarginLending

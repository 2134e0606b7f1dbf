import MarginLending.Oracle.Validity
import MarginLending.Snapshot.Market

/-! The status of the oracle for one call: its classification, and how far the mark price has
moved from the five-minute oracle TWAP.

The mark spread is `(mark - twap5min) / mark` in millionths, an `i64` difference scaled in `i128`
and truncated toward zero; without a mark price (or a mark of zero) the spread is zero. The mark
is too divergent when the size of the spread exceeds the effective threshold, which is at least
10%. A fill is blocked when the reading is not good enough for fills, when the mark diverges, or
when the market has paused fills.
-/

set_option autoImplicit false

namespace MarginLending

open Arith Data

/-- The spread of the mark price over the five-minute oracle TWAP, in millionths of the mark.
Without a mark (a datum whose truth value is false) the spread is zero; otherwise the mark is
cast to `i64` as an index and divided by as an operand. -/
def markSpreadPct (mark : Value) (h : PriceHistory) : Except Failure Int := do
  if !mark.truthy then return 0
  let spread ← checkedOp IntType.i64 .sub (← castData mark IntType.i64) h.twap5min
  let pct ← checkedData IntType.i128 .div
    (.int (← checkedOp IntType.i128 .mul spread spreadPrecision)) mark
  cast pct IntType.i64

def DivergenceRails.tooDivergent (g : DivergenceRails) (spreadPct : Value) :
    Except Failure Bool := do
  Value.compareBy .gt (← spreadPct.absolute) (.int g.effectiveMarkPct)

structure OracleStatus where
  reading : Reading
  spreadPct : Int
  tooDivergent : Bool
  validity : Validity
  deriving DecidableEq, Repr

namespace OracleStatus

/-- The status of a reading: classified against the history's TWAP, and its mark spread
measured against the history's five-minute TWAP. The classification is computed first. -/
def of (r : Reading) (g : GuardRails) (h : PriceHistory) (mark : Value) :
    Except Failure OracleStatus := do
  let v ← r.validity (.int h.twap) g.validity
  let spread ← markSpreadPct mark h
  return ⟨r, spread, ← g.divergence.tooDivergent (.int spread), v⟩

def toValue (s : OracleStatus) : Value :=
  .obj [("price_data", s.reading.toValue), ("oracle_mark_spread_pct", .int s.spreadPct),
    ("is_mark_price_too_divergent", .bool s.tooDivergent),
    ("oracle_validity", .str s.validity.name)]

def blocksFill (s : OracleStatus) (m : Market) : Bool :=
  !Action.fillOrder.accepts s.validity || s.tooDivergent || !m.fillsEnabled

end OracleStatus

/-- Whether a fill on the market is blocked, with the oracle status taken against the history
`h`, which need not be the market's own. -/
def Market.fillBlocked (m : Market) (r : Reading) (g : GuardRails) (h : PriceHistory)
    (mark : Value) : Except Failure Bool := do
  let s ← OracleStatus.of r g h mark
  pure (s.blocksFill m)

structure FillDecision where
  allowed : Bool
  reason : String
  details : String
  status : OracleStatus
  deriving DecidableEq, Repr

namespace FillDecision

/-- The fill decision on a market: the oracle status is taken against the market's own history,
then a paused market, a reading not good enough for fills and a diverging mark refuse the fill,
in that order. -/
def evaluate (m : Market) (r : Reading) (g : GuardRails) (mark : Value) :
    Except Failure FillDecision := do
  let s ← OracleStatus.of r g m.oracleHistory mark
  if !m.fillsEnabled then
    return ⟨false, "fills_paused",
      "Market " ++ toString m.index ++ " is in " ++ m.status.name ++ " status", s⟩
  if !Action.fillOrder.accepts s.validity then
    return ⟨false, "oracle_invalid_for_fill",
      "Oracle validity " ++ s.validity.name ++ " not accepted for fills", s⟩
  if s.tooDivergent then
    return ⟨false, "mark_price_too_divergent",
      "Mark/oracle twap_5min spread " ++ toString s.spreadPct ++ " exceeds " ++
        toString g.divergence.effectiveMarkPct, s⟩
  return ⟨true, "", "Fill allowed", s⟩

def toValue (d : FillDecision) : Value :=
  .obj [("fill_allowed", .bool d.allowed), ("block_reason", .str d.reason),
    ("details", .str d.details), ("oracle_status", d.status.toValue)]

end FillDecision

end MarginLending

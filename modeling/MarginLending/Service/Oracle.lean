import MarginLending.Service.Snapshot
import MarginLending.Service.Lending
import MarginLending.Oracle.Status

/-! Service operations on oracle readings: classification, acceptance, mark spread, status and
the fill decision. -/

set_option autoImplicit false

namespace MarginLending.Service

open Data

/-- The optional action of a request; null or absent names none. -/
def actionOf (req : Value) : Except Failure (Option Action) :=
  match opt req "action" with
  | some v => (memberOf Action.names "Action" v).map some
  | none => .ok none

def validityOf (req : Value) : Except Failure Validity := do
  let v ← need req "validity"
  match ← Value.lookupIn (Validity.all.map fun x => (.str x.name, x)) v with
  | some x => pure x
  | none => throw (.request ("unknown validity " ++ v.quoted))

def acceptedNames (a : Action) : List Value :=
  ((Validity.all.filter a.accepts).map Validity.name).mergeSort (fun x y => decide (x ≤ y))
    |>.map Value.str

def oracleAnswer (kind : String) (req : Value) : Except Failure Value := do
  match kind with
  | "oracle_validity" | "validate_oracle" =>
    let twap ← need req "last_oracle_twap"
    let r ← readingOf req
    let g ← validityRailsOf req
    let v ← if kind = "oracle_validity" then r.validity twap g else r.validate twap g
    pure (result (.str v.name))
  | "is_valid_for_action" =>
    let a ← actionOf req
    let v ← validityOf req
    pure (result (.bool (acceptsFor a v)))
  | "acceptance_table" =>
    pure (.obj [("table", .obj (Action.all.map fun a => (a.name, .arr (acceptedNames a))))])
  | "mark_spread_pct" =>
    let mark := fieldOr req "last_mark_price" .null
    let h ← historyOf req
    pure (result (.int (← markSpreadPct mark h)))
  | "mark_too_divergent" =>
    let g ← divergenceRailsOf req
    let spread ← need req "spread_pct"
    pure (result (.bool (← g.tooDivergent spread)))
  | "oracle_status" =>
    let r ← readingOf req
    let g ← guardRailsOf req
    let h ← historyOf req
    let mark := fieldOr req "last_mark_price" .null
    pure (.obj [("status", (← OracleStatus.of r g h mark).toValue)])
  | "block_action" =>
    let m ← marketOf req
    let r ← readingOf req
    let g ← guardRailsOf req
    let mark := fieldOr req "last_mark_price" .null
    let h ← historyOf req
    pure (result (.bool (← m.fillBlocked r g h mark)))
  | _ =>
    let g ← guardRailsOf req
    let m ← marketOf req
    let r ← readingOf req
    let mark := fieldOr req "last_mark_price" .null
    pure (← FillDecision.evaluate m r g mark).toValue

def oracleOps : List String :=
  ["oracle_validity", "validate_oracle", "is_valid_for_action", "acceptance_table",
    "mark_spread_pct", "mark_too_divergent", "oracle_status", "block_action", "fill_gate"]

end MarginLending.Service

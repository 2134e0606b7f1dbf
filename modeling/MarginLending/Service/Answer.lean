import MarginLending.Service.Arith
import MarginLending.Service.Wide
import MarginLending.Service.Snapshot
import MarginLending.Service.Lending
import MarginLending.Service.Pricing
import MarginLending.Service.Oracle
import MarginLending.Service.Feed
import MarginLending.Service.Contract
import MarginLending.Service.Position
import MarginLending.Service.Sequence

/-! The kernel service: one answer for each request. -/

set_option autoImplicit false

namespace MarginLending.Service

open Data

/-- The computation a request asks for, by the name in its `op` field. -/
def dispatch (op : String) (req : Value) : Except Failure Value :=
  match arithOpNamed? op with
  | some aop => checkedAnswer aop req
  | none =>
    match op with
    | "int_type" => intTypeAnswer req
    | "cast" | "try_cast" | "cast_shortcut" => castAnswer op req
    | "wide_consts" => wideConstsAnswer req
    | "wide_new" | "wide_from_le_bytes" | "wide_deserialize"
    | "wide_from_words" => wideAnswer op req
    | "wide" => wideSessionAnswer req
    | "market_new" => marketAnswer req
    | "position" => positionAnswer req
    | "market_sequence" => marketSequenceAnswer req
    | "oracle_price_data_new" | "oracle_defaults" | "historical_default_price"
    | "historical_with_current_oracle" | "index_with_current_oracle" | "guard_rails" =>
      oracleSnapshotAnswer op req
    | _ =>
      if lendingOps.contains op then lendingAnswer op req
      else if pricingOps.contains op then pricingAnswer op req
      else if oracleOps.contains op then oracleAnswer op req
      else if feedOps.contains op then feedAnswer op req
      else if contractOps.contains op then contractAnswer op req
      else .error (.request "unknown op")

def answer (req : Value) : Value :=
  match req.field? "op" with
  | some (.str op) => reply (dispatch op req)
  | _ => failed (.request "unknown op")

end MarginLending.Service

import MarginLending.Service.Snapshot
import MarginLending.Lending.Exposure

/-! The service operation that describes a position. -/

set_option autoImplicit false

namespace MarginLending.Service

open Data

def fieldOutcome (r : Except Failure Value) : Value :=
  match r with
  | .ok v => v
  | .error f => failed f

/-- `position`: the position read back with its flags, direction and entry price; with a market
its token amounts; with a market and a reading its worst case. The reading is only read when a
market is given. -/
def positionAnswer (req : Value) : Except Failure Value := do
  let p ← recordOr Position.decode "position" {} req "position"
  let base : List (String × Value) :=
    [("position", p.toValue), ("is_empty", .bool p.isEmpty),
      ("has_open_orders", .bool p.hasOpenOrders), ("has_open_position", .bool p.hasOpenPosition),
      ("has_settled_pnl", .bool p.hasSettledPnl), ("position_direction", .str p.direction.name),
      ("opposite_direction", .str p.direction.opposite.name),
      ("position_cost_schedule", fieldOutcome ((p.entryPrice).map Value.int))]
  let some mv := req.field? "market" | pure (.obj base)
  let m ← decodeRecord Market.decode "market" mv
  let withMarket : List (String × Value) :=
    [("token_amount", fieldOutcome ((p.tokens m).map Value.int)),
      ("token_amount_signed", fieldOutcome ((p.signedTokens m).map Value.int))]
  let some rv := req.field? "oracle_price_data" | pure (.obj (base ++ withMarket))
  let r ← decodeRecord Reading.decode "reading" rv
  let worst := (p.worstCase m r (fieldOr req "twap_5min" .null)
    (fieldOr req "token_amount" .null)).map fun w =>
      Value.obj [("token_amount", .int w.tokenAmount), ("orders_value", .int w.ordersValue)]
  pure (.obj (base ++ withMarket ++ [("worst_case", fieldOutcome worst)]))

end MarginLending.Service

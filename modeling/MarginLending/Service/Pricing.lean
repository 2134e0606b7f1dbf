import MarginLending.Service.Lending
import MarginLending.Pricing.LimitPrice

/-! Service operations on prices, sizes and limit prices. -/

set_option autoImplicit false

namespace MarginLending.Service

open Data Pricing

def directionOf (req : Value) (key : String := "direction") : Except Failure Direction := do
  memberOf Direction.names "PositionDirection" (← need req key)

def pricingAnswer (kind : String) (req : Value) : Except Failure Value := do
  match kind with
  | "standardize_price" | "standardize_price_i64" =>
    let price ← need req "price"
    let tick ← need req "tick_size"
    let d ← directionOf req
    let r ← if kind = "standardize_price" then standardizePrice price tick d
      else standardizeSignedPrice price tick d
    pure (result (.int r))
  | "standardize_base" | "standardize_base_ceil" | "is_multiple" =>
    let size ← need req "amount"
    let step ← need req "step"
    let size ← size.operand
    let step ← step.operand
    match kind with
    | "standardize_base" => pure (result (.int (← standardizeSize size step)))
    | "standardize_base_ceil" => pure (result (.int (← standardizeSizeUp size step)))
    | _ => pure (result (.bool (← isMultiple size step)))
  | "resolve_limit_price" | "force_resolve_limit_price" =>
    let price ← need req "price"
    let d ← directionOf req
    let tick ← need req "tick_size"
    let offset := fieldOr req "oracle_price_offset" (.int 0)
    let oracle := fieldOr req "oracle_price" .null
    let fallback := fieldOr req "fallback_price" .null
    if kind = "resolve_limit_price" then
      pure (result ((← limitPrice price d tick offset oracle fallback).getD .null))
    else pure (result (← forceLimitPrice price d tick offset oracle fallback))
  | _ => pure (result (.str (← directionOf req).opposite.name))

def pricingOps : List String :=
  ["standardize_price", "standardize_price_i64", "standardize_base", "standardize_base_ceil",
    "is_multiple", "resolve_limit_price", "force_resolve_limit_price", "direction_opposite"]

end MarginLending.Service

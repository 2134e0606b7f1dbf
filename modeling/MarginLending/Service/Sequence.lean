import MarginLending.Service.Lending
import MarginLending.Service.Feed
import MarginLending.Oracle.Status

/-! Market sequences: a market carried through a list of steps, each of which may read it or
change it. -/

set_option autoImplicit false

namespace MarginLending.Service

open Data Lending

def sideOr (step : Value) : Except Failure BalanceKind :=
  memberOf BalanceKind.names "SpotBalanceType" (fieldOr step "balance_type" (.str "deposits"))

/-- The market rebuilt from its own fields with `fields` written over them, and read again. -/
def rebuiltMarket (m : Market) (fields : Value) : Except Failure Market := do
  let fs ← match fields with
    | .obj fs => pure fs
    | v => throw (.notAMapping v.kindName)
  let merged := fs.foldl (fun acc (k, x) => acc.set k x) m.toValue
  (Market.decode merged).mapError Failure.invalid

def marketSteps : List (Value × String) :=
  ["update_cumulative_interest", "update_market_twap_stats", "set", "accumulated_interest",
    "utilization", "borrow_rate", "deposit_rate", "token_amounts", "deposit",
    "oracle_twap_update", "fill_gate"].map fun n => (.str n, n)

/-- One step of a market sequence: the market after it, and the fields it answers. -/
def marketStep (m : Market) (step : Value) : Except Failure (Market × List (String × Value)) := do
  let op ← needIn step "op"
  let some name ← Value.lookupIn marketSteps op
    | throw (.request ("unknown market step " ++ op.quoted))
  match name with
  | "update_cumulative_interest" => pure (← m.accrue (← need step "now"), [])
  | "update_market_twap_stats" => pure (← m.updateTwapStats (← need step "now"), [])
  | "set" => pure (← rebuiltMarket m (← need step "fields"), [])
  | "accumulated_interest" =>
    pure (m, [("result", accrualValue (← m.accruedInterest (← need step "now")))])
  | "utilization" => pure (m, [("result", .int (← m.utilization))])
  | "borrow_rate" | "deposit_rate" =>
    let u ← match opt step "utilization" with
      | some u => pure u
      | none => pure (.int (← m.utilization))
    let rate ← if name = "borrow_rate" then m.borrowRate u else m.depositRate u
    pure (m, [("result", .int rate)])
  | "token_amounts" =>
    let (deposits, borrows) ← m.tokenAmounts
    pure (m, [("result", .obj [("deposits", .int deposits), ("borrows", .int borrows)])])
  | "deposit" =>
    let kind ← sideOr step
    let amount ← need step "token_amount"
    let (delta, m') ← m.deposit amount kind (fieldOr step "round_up" (.bool false))
    pure (← rebuiltMarket m' (.obj []), [("result", .int delta)])
  | "oracle_twap_update" =>
    let c ← twapConfigOf step
    let r ← readingOf step
    let now ← need step "now"
    let g ← validityRailsOf step
    let after ← m.oracleHistory.afterReading r now g c
    pure ({ m with oracleHistory := after.getD m.oracleHistory }, [])
  | _ =>
    let g ← guardRailsOf step
    let r ← readingOf step
    let d ← FillDecision.evaluate m r g (fieldOr step "last_mark_price" .null)
    pure (m, [("result", .obj [("fill_allowed", .bool d.allowed),
      ("block_reason", .str d.reason)])])

def marketSequenceAnswer (req : Value) : Except Failure Value := do
  let m ← marketOf req
  let steps ← (← need req "steps").items
  pure (.obj [("steps", .arr (runSteps marketStep (fun m => [("market", m.toValue)]) m steps))])

end MarginLending.Service

import MarginLending.Service.Request
import MarginLending.Snapshot.Market
import MarginLending.Snapshot.GuardRails
import MarginLending.Snapshot.Position

/-! Service operations that read snapshots and describe them. -/

set_option autoImplicit false

namespace MarginLending.Service

open Data Snapshot

def recordName : String → String
  | "market" => "spot_margin.core.domain.market.Market"
  | "reading" => "spot_margin.core.domain.oracle.OraclePriceData"
  | "history" => "spot_margin.core.domain.oracle.HistoricalPriceData"
  | "validity" => "spot_margin.core.domain.guard_rails.ValidityGuardRails"
  | "divergence" => "spot_margin.core.domain.guard_rails.PriceDivergenceGuardRails"
  | "rails" => "spot_margin.core.domain.guard_rails.OracleGuardRails"
  | "position" => "spot_margin.core.domain.position.SpotPosition"
  | _ => "spot_margin.oracle.twap_updater.OracleTwapConfig"

def decodeRecord {α : Type} (decode : Value → Decoded α) (record : String) (v : Value) :
    Except Failure α :=
  match v with
  | .obj _ => (decode v).mapError Failure.invalid
  | other => .error (.notMapping (recordName record) other.kindName)

/-- A record decoded from the field `key` of a request, or `default` when the field is absent;
a field that is present must be an object, null included. -/
def recordOr {α : Type} (decode : Value → Decoded α) (record : String) (default : α)
    (req : Value) (key : String) : Except Failure α :=
  match req.field? key with
  | some v => decodeRecord decode record v
  | none => .ok default

def marketOf (req : Value) (key : String := "market") : Except Failure Market := do
  decodeRecord Market.decode "market" (← need req key)

def readingOf (req : Value) (key : String := "oracle_price_data") : Except Failure Reading := do
  decodeRecord Reading.decode "reading" (← need req key)

def historyOf (req : Value) (key : String := "historical") : Except Failure PriceHistory :=
  recordOr PriceHistory.decode "history" PriceHistory.empty req key

def validityRailsOf (req : Value) (key : String := "guard_rails") : Except Failure ValidityRails :=
  recordOr ValidityRails.decode "validity" {} req key

def guardRailsOf (req : Value) (key : String := "guard_rails") : Except Failure GuardRails :=
  recordOr GuardRails.decode "rails" {} req key

def divergenceRailsOf (req : Value) (key : String := "guard_rails") :
    Except Failure DivergenceRails :=
  recordOr DivergenceRails.decode "divergence" {} req key

/-- A field of a request that defaults to `default` when absent; null is kept. -/
def fieldOr (req : Value) (key : String) (default : Value) : Value :=
  (req.field? key).getD default

/-- `market_new`: the market read back, with its status flags at `now` (zero when absent). -/
def marketAnswer (req : Value) : Except Failure Value := do
  let m ← marketOf req
  let active ← m.isActive (fieldOr req "now" (.int 0))
  pure (.obj [("market", m.toValue), ("is_market_active", .bool active),
    ("market_in_reduce_only_mode", .bool m.isReduceOnly),
    ("are_fills_enabled", .bool m.fillsEnabled),
    ("cumulative_interest_deposits", .int (m.cumulativeInterest .deposits)),
    ("cumulative_interest_borrows", .int (m.cumulativeInterest .borrows))])

def oracleSnapshotAnswer (kind : String) (req : Value) : Except Failure Value := do
  match kind with
  | "oracle_price_data_new" => pure (.obj [("oracle_price_data", (← readingOf req).toValue)])
  | "oracle_defaults" =>
    pure (.obj [("default_usd", Reading.quoteAsset.toValue),
      ("historical_default_quote_oracle", PriceHistory.quoteAsset.toValue),
      ("index_default_quote_oracle", IndexHistory.quoteAsset.toValue),
      ("historical_default", PriceHistory.empty.toValue),
      ("index_default", IndexHistory.empty.toValue)])
  | "historical_default_price" =>
    let h ← (PriceHistory.ofPrice (← need req "price")).mapError Failure.invalid
    pure (.obj [("historical", h.toValue)])
  | "historical_with_current_oracle" =>
    pure (.obj [("historical", (PriceHistory.ofReading (← readingOf req)).toValue)])
  | "index_with_current_oracle" =>
    pure (.obj [("index", (← IndexHistory.ofReading (← readingOf req)).toValue)])
  | _ =>
    let g ← guardRailsOf req
    pure (.obj [("guard_rails", g.toValue),
      ("effective_oracle_mark_pct_divergence", .int g.divergence.effectiveMarkPct),
      ("max_oracle_twap_5min_oracle_pct_divergence", .int g.maxTwap5minPct)])

end MarginLending.Service

import MarginLending.Service.Snapshot
import MarginLending.Service.Lending
import MarginLending.Oracle.Feed
import MarginLending.Oracle.Twap

/-! Service operations on raw feeds and on the oracle TWAPs. -/

set_option autoImplicit false

namespace MarginLending.Service

open Data

def rawFeedOf (req : Value) (optional : Bool) : Except Failure RawFeed := do
  let read := fun (key : String) => if optional then pure (fieldOr req key (.int 0)) else need req key
  pure ⟨← read "price", ← read "confidence", ← read "exponent", ← read "publish_slot",
    ← read "clock_slot"⟩

def twapConfigKeys : List String := ["twap_period", "twap_5min_period", "price_band_denominator"]

/-- A TWAP configuration from its keyword arguments: they must be an object naming only the
configuration's fields; absent fields take the protocol values. The names are checked in
order, and `self`, which the constructor binds itself, is bound twice. -/
def twapConfigOfData (c : Value) : Except Failure TwapConfig :=
  match c with
  | .obj fs =>
    match fs.find? (fun f => !twapConfigKeys.contains f.1) with
    | some ("self", _) => .error (.repeatedKeyword "OracleTwapConfig.__init__" "self")
    | some (k, _) => .error (.unexpectedKeyword "OracleTwapConfig.__init__" k)
    | none =>
      TwapConfig.make (fieldOr c "twap_period" (.int 3600)) (fieldOr c "twap_5min_period" (.int 300))
        (fieldOr c "price_band_denominator" (.int 3))
  | other => .error (.notMapping (recordName "config") other.kindName)

def twapConfigOf (req : Value) : Except Failure TwapConfig :=
  match req.field? "config" with
  | none | some .null => .ok TwapConfig.standard
  | some c => twapConfigOfData c

def twapFields (h : PriceHistory) : Option PriceHistory → List (String × Value)
  | some h' => [("unchanged", .bool false), ("historical", h'.toValue)]
  | none => [("unchanged", .bool true), ("historical", h.toValue)]

/-- One reading of a TWAP sequence, `{oracle_price_data, now}`, applied to the history. -/
def twapStep (g : ValidityRails) (c : TwapConfig) (h : PriceHistory) (step : Value) :
    Except Failure (PriceHistory × List (String × Value)) := do
  let r ← decodeRecord Reading.decode "reading" (← needIn step "oracle_price_data")
  let now ← needIn step "now"
  let after ← h.afterReading r now g c
  pure (after.getD h, [("unchanged", .bool after.isNone)])

def feedAnswer (kind : String) (req : Value) : Except Failure Value := do
  match kind with
  | "scale_feed_price" =>
    let f ← rawFeedOf req false
    pure (.obj [("oracle_price_data", (← f.scale (fieldOr req "multiple" (.int 1))).toValue)])
  | "normalize_stablecoin" =>
    pure (.obj [("oracle_price_data", (← (← readingOf req).pegToOne).toValue)])
  | "get_oracle_price_data" =>
    let source ← memberOf FeedSource.names "OracleSource" (← need req "source")
    -- the quote asset does not look at the publication at all
    let f ← if source = .quoteAsset then pure ⟨.int 0, .int 0, .int 0, .int 0, .int 0⟩
      else rawFeedOf req true
    pure (.obj [("oracle_price_data", (← source.reading f).toValue)])
  | "twap_config" =>
    let c ← twapConfigOf req
    pure (.obj [("twap_period", c.period), ("twap_5min_period", c.period5min),
      ("price_band_denominator", c.bandDenominator)])
  | "clamp_to_band" =>
    let c ← twapConfigOf req
    let price ← need req "price"
    let last ← need req "last_twap"
    pure (result (← c.clamp price last))
  | "oracle_twap_update" =>
    let c ← twapConfigOf req
    let h ← historyOf req
    let r ← readingOf req
    let now ← need req "now"
    let g ← validityRailsOf req
    pure (.obj (twapFields h (← h.afterReading r now g c)))
  | _ =>
    let c ← twapConfigOf req
    let h ← historyOf req
    let g ← validityRailsOf req
    let readings ← (← need req "readings").items
    pure (.obj [("steps", .arr (runSteps (twapStep g c)
      (fun h => [("historical", h.toValue)]) h readings))])

def feedOps : List String :=
  ["scale_feed_price", "normalize_stablecoin", "get_oracle_price_data", "twap_config",
    "clamp_to_band", "oracle_twap_update", "oracle_twap_sequence"]

end MarginLending.Service

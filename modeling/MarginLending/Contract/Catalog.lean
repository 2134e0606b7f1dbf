import MarginLending.Contract.Schema

/-! The contracts of the snapshots a caller supplies: a market snapshot, an oracle reading and the
oracle guard rails.

The contracts are stricter than the readers of the snapshots in two ways: they refuse fields
they do not list, and a market's decimals are capped at 19. Their integer bounds are those of
the fields' machine types.
-/

set_option autoImplicit false

namespace MarginLending

/-- A named contract: its title, its required fields and the schemas of its fields. -/
structure Contract where
  title : String
  required : List String
  fields : List (String × Contract.Schema)

namespace Contract

/-- The schema of the contract: an object with exactly the listed fields. -/
def schema (c : Contract) : Schema := objectSchema c.required c.fields

def fieldNames (c : Contract) : List String := c.fields.map (·.1)

def u16 : Keyword := .ref "u16" (integerIn 0 65535)

def u32 : Keyword := .ref "u32" (integerIn 0 4294967295)

def u64 : Keyword := .ref "u64" (integerIn 0 18446744073709551615)

def i64 : Keyword := .ref "i64" (integerIn (-9223372036854775808) 9223372036854775807)

def u128 : Keyword := .ref "u128" (integerIn 0 340282366920938463463374607431768211455)

def marketStatuses : List String :=
  ["initialized", "active", "fills_paused", "withdraw_paused", "reduce_only", "settlement",
    "delisted"]

def oracleHistory : Schema :=
  objectSchema []
    [("last_oracle_price_data", [i64]), ("last_oracle_conf", [u64]),
     ("last_oracle_delay", [i64]), ("last_oracle_twap", [i64]),
     ("last_oracle_twap_5min", [i64]), ("last_oracle_twap_time_stamp", [i64])]

def indexHistory : Schema :=
  objectSchema []
    [("last_index_bid_price", [u64]), ("last_index_ask_price", [u64]),
     ("last_index_price_twap", [u64]), ("last_index_price_twap_5min", [u64]),
     ("last_index_price_twap_time_stamp", [i64])]

def marketSnapshot : Contract where
  title := "MarketSnapshot"
  required := ["decimals", "optimal_utilization", "optimal_borrow_rate", "max_borrow_rate"]
  fields :=
    [("market_index", [u16]),
     ("name", [.type .string, .maxLength 32]),
     ("status", [.type .string, .enum marketStatuses]),
     ("decimals", integerIn 0 19),
     ("cumulative_deposit_interest", [u128]),
     ("cumulative_borrow_interest", [u128]),
     ("deposit_balance", [u128]),
     ("borrow_balance", [u128]),
     ("optimal_utilization", [.type .integer, .minimum 0, .exclusiveMaximum 1000000]),
     ("optimal_borrow_rate", [u32]),
     ("max_borrow_rate", [u32]),
     ("last_interest_ts", [u64]),
     ("token_deposit_twap", [u128]),
     ("token_borrow_twap", [u128]),
     ("utilization_twap", [u128]),
     ("last_twap_ts", [u64]),
     ("expiry_ts", [i64]),
     ("order_step_size", [u64]),
     ("order_tick_size", [u64]),
     ("min_order_size", [u64]),
     ("historical_oracle_data", oracleHistory),
     ("historical_index_data", indexHistory)]

def oraclePriceData : Contract where
  title := "OraclePriceData"
  required := ["price", "confidence", "delay", "has_sufficient_data_points"]
  fields :=
    [("price", integerIn (-9223372036854775808) 9223372036854775807),
     ("confidence", integerIn 0 18446744073709551615),
     ("delay", integerIn (-9223372036854775808) 9223372036854775807),
     ("has_sufficient_data_points", [.type .boolean])]

def oracleGuardRails : Contract where
  title := "OracleGuardRails"
  required := []
  fields :=
    [("price_divergence", objectSchema []
        [("oracle_mark_pct_divergence", integerIn 0 18446744073709551615),
         ("oracle_twap_5min_pct_divergence", integerIn 0 18446744073709551615)]),
     ("validity", objectSchema []
        [("slots_before_stale_for_margin", integerIn 0 9223372036854775807),
         ("confidence_interval_max_accepted_divergence", integerIn 0 18446744073709551615),
         ("max_volatility_ratio", integerIn 0 9223372036854775807)])]

end Contract

end MarginLending

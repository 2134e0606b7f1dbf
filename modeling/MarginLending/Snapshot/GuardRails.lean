import MarginLending.Snapshot.Field
import MarginLending.Arith.IntType

/-! Guard rails: the thresholds that limit trust in the oracle.

Percentages are in `10^-6` (`100000` is 10%). The mark/oracle threshold is never taken below
10% and the oracle/five-minute-TWAP threshold never below 50%, so a misconfigured rail cannot
block every fill.
-/

set_option autoImplicit false

namespace MarginLending

open Data Arith Snapshot

/-- The thresholds of the oracle classification. -/
structure ValidityRails where
  slotsBeforeStale : Int := 120
  maxConfidenceDivergence : Int := 20000
  maxVolatilityRatio : Int := 5
  deriving DecidableEq, Repr

namespace ValidityRails

def decode (v : Value) : Decoded ValidityRails :=
  (join (field v "slots_before_stale_for_margin" (some 120) (readIntIn 0 IntType.i64.max))
    (join (field v "confidence_interval_max_accepted_divergence" (some 20000)
        (readIntIn 0 IntType.u64.max))
      (field v "max_volatility_ratio" (some 5) (readIntIn 0 IntType.i64.max)))).map
    fun ⟨s, c, r⟩ => ⟨s, c, r⟩

def toValue (g : ValidityRails) : Value :=
  .obj [("slots_before_stale_for_margin", .int g.slotsBeforeStale),
    ("confidence_interval_max_accepted_divergence", .int g.maxConfidenceDivergence),
    ("max_volatility_ratio", .int g.maxVolatilityRatio)]

end ValidityRails

def minMarkDivergence : Int := 100000

def minTwap5minDivergence : Int := 500000

/-- The thresholds of price divergence. -/
structure DivergenceRails where
  markPct : Int := 100000
  twap5minPct : Int := 500000
  deriving DecidableEq, Repr

namespace DivergenceRails

def decode (v : Value) : Decoded DivergenceRails :=
  (join (field v "oracle_mark_pct_divergence" (some 100000) (readIntIn 0 IntType.u64.max))
    (field v "oracle_twap_5min_pct_divergence" (some 500000) (readIntIn 0 IntType.u64.max))).map
    fun ⟨m, t⟩ => ⟨m, t⟩

def toValue (g : DivergenceRails) : Value :=
  .obj [("oracle_mark_pct_divergence", .int g.markPct),
    ("oracle_twap_5min_pct_divergence", .int g.twap5minPct)]

/-- The mark/oracle threshold in force: the configured one, but at least 10%. -/
def effectiveMarkPct (g : DivergenceRails) : Int := max g.markPct minMarkDivergence

end DivergenceRails

structure GuardRails where
  divergence : DivergenceRails := {}
  validity : ValidityRails := {}
  deriving DecidableEq, Repr

namespace GuardRails

def decode (v : Value) : Decoded GuardRails :=
  (join (nested v "price_divergence" {} DivergenceRails.decode)
    (nested v "validity" {} ValidityRails.decode)).map fun ⟨d, g⟩ => ⟨d, g⟩

def toValue (g : GuardRails) : Value :=
  .obj [("price_divergence", g.divergence.toValue), ("validity", g.validity.toValue)]

/-- The oracle/five-minute-TWAP threshold in force: the configured one, but at least 50%. -/
def maxTwap5minPct (g : GuardRails) : Int := max g.divergence.twap5minPct minTwap5minDivergence

end GuardRails

end MarginLending

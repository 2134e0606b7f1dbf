import MarginLending.Snapshot.Field
import MarginLending.Data.Dynamic

/-! Oracle snapshots: a reading, the oracle's price history and the index price history.

Prices are integers in units of `10^-6`. A reading is built by the caller for one call; the
histories belong to a market and change only through the TWAP updates.
-/

set_option autoImplicit false

namespace MarginLending

open Data Arith Snapshot

def pricePrecision : Int := 1000000

/-- A normalized oracle reading. A price that is not positive is allowed here and classified
as invalid by the oracle rules. -/
structure Reading where
  price : Int
  confidence : Int
  delay : Int
  hasSufficientDataPoints : Bool
  deriving DecidableEq, Repr

namespace Reading

def decode (v : Value) : Decoded Reading :=
  (join (field v "price" none (readIntIn IntType.i64.min IntType.i64.max))
    (join (field v "confidence" none (readIntIn 0 IntType.u64.max))
      (join (field v "delay" none (readIntIn IntType.i64.min IntType.i64.max))
        (field v "has_sufficient_data_points" none readBool)))).map
    fun ⟨price, confidence, delay, enough⟩ => ⟨price, confidence, delay, enough⟩

def toValue (r : Reading) : Value :=
  .obj [("price", .int r.price), ("confidence", .int r.confidence), ("delay", .int r.delay),
    ("has_sufficient_data_points", .bool r.hasSufficientDataPoints)]

def quoteAsset : Reading := ⟨pricePrecision, 1, 0, true⟩

end Reading

/-- The oracle history of a market: the last reading and its hourly and five-minute TWAPs. The
time of the TWAPs is kept as it was given: a history read from data holds an integer, but a
seeded history holds the caller's time, whatever datum it is. -/
structure PriceHistory where
  lastPrice : Int
  lastConfidence : Int
  lastDelay : Int
  twap : Int
  twap5min : Int
  twapTimestamp : Value

namespace PriceHistory

def empty : PriceHistory := ⟨0, 0, 0, 0, 0, .int 0⟩

instance : Inhabited PriceHistory := ⟨empty⟩

def decode (v : Value) : Decoded PriceHistory :=
  let i64 := readIntIn IntType.i64.min IntType.i64.max
  (join (field v "last_oracle_price_data" (some 0) i64)
    (join (field v "last_oracle_conf" (some 0) (readIntIn 0 IntType.u64.max))
      (join (field v "last_oracle_delay" (some 0) i64)
        (join (field v "last_oracle_twap" (some 0) i64)
          (join (field v "last_oracle_twap_5min" (some 0) i64)
            (field v "last_oracle_twap_time_stamp" (some 0) i64)))))).map
    fun ⟨p, c, d, t, t5, ts⟩ => ⟨p, c, d, t, t5, .int ts⟩

def toValue (h : PriceHistory) : Value :=
  .obj [("last_oracle_price_data", .int h.lastPrice), ("last_oracle_conf", .int h.lastConfidence),
    ("last_oracle_delay", .int h.lastDelay), ("last_oracle_twap", .int h.twap),
    ("last_oracle_twap_5min", .int h.twap5min),
    ("last_oracle_twap_time_stamp", h.twapTimestamp.asIntField)]

def ofPrice (price : Value) : Decoded PriceHistory :=
  decode (.obj [("last_oracle_price_data", price), ("last_oracle_twap", price),
    ("last_oracle_twap_5min", price)])

/-- The history seeded by a reading: its price, confidence and delay, and both TWAPs at its
price; the TWAP time is zero. -/
def ofReading (r : Reading) : PriceHistory :=
  ⟨r.price, r.confidence, r.delay, r.price, r.price, .int 0⟩

def quoteAsset : PriceHistory :=
  ⟨pricePrecision, 0, 0, pricePrecision, pricePrecision, .int 0⟩

end PriceHistory

/-- The index price history of a market: book bid and ask and their TWAPs. -/
structure IndexHistory where
  bid : Int
  ask : Int
  twap : Int
  twap5min : Int
  twapTimestamp : Int
  deriving DecidableEq, Repr

namespace IndexHistory

def empty : IndexHistory := ⟨0, 0, 0, 0, 0⟩

instance : Inhabited IndexHistory := ⟨empty⟩

def decode (v : Value) : Decoded IndexHistory :=
  let u64 := readIntIn 0 IntType.u64.max
  (join (field v "last_index_bid_price" (some 0) u64)
    (join (field v "last_index_ask_price" (some 0) u64)
      (join (field v "last_index_price_twap" (some 0) u64)
        (join (field v "last_index_price_twap_5min" (some 0) u64)
          (field v "last_index_price_twap_time_stamp" (some 0)
            (readIntIn IntType.i64.min IntType.i64.max)))))).map
    fun ⟨b, a, t, t5, ts⟩ => ⟨b, a, t, t5, ts⟩

def toValue (h : IndexHistory) : Value :=
  .obj [("last_index_bid_price", .int h.bid), ("last_index_ask_price", .int h.ask),
    ("last_index_price_twap", .int h.twap), ("last_index_price_twap_5min", .int h.twap5min),
    ("last_index_price_twap_time_stamp", .int h.twapTimestamp)]

def quoteAsset : IndexHistory := ⟨pricePrecision, pricePrecision, pricePrecision, pricePrecision, 0⟩

/-- The index history seeded by a reading, whose price must be a `u64`. -/
def ofReading (r : Reading) : Except Failure IndexHistory := do
  let p ← cast r.price IntType.u64
  pure ⟨p, p, p, p, 0⟩

end IndexHistory

end MarginLending

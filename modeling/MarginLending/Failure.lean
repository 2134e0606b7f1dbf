import MarginLending.Arith.Checked
import MarginLending.Wide.Width
import MarginLending.Snapshot.Issue
import MarginLending.Data.Value
import MarginLending.Data.Quoted

/-! Why a kernel call fails.

Every refusal of the kernel is a `Failure`. Its `kind` is the stable code a caller branches on
(`MathError`, `CastingFailure`, `InvalidOracle`, ...); its `message` is the text shown with it.
Failures caused by the caller's data having the wrong shape use the kinds `TypeError` and
`ValueError`; snapshot validation and contract checks have kinds of their own.
-/

set_option autoImplicit false

namespace MarginLending

open Arith Data

/-- The reasons a kernel call fails. -/
inductive Failure where
  -- arithmetic, casts and wide values
  | arith (fault : Fault)
  | outOfWidth (value : Int) (width : Wide.Width)
  | cast (value : Int) (type : IntType)
  | narrow (width : Wide.Width) (value : Nat) (target : IntType)
  | shortBuffer (width : Wide.Width) (got : Nat)
  -- times, valuations and feeds
  | timestamp (now : Int)
  | strictPrice (price : Int) (twap : String)
  | feedPrecision (exponent : String) (multiple : String)
  -- oracle classification and limit prices
  | nonPositivePrice (price : Int)
  | tooVolatile (price : Int) (twap : String)
  | confidenceTooWide (confidence price : Int)
  | stale (delay slots : Int)
  | oracleMissing
  | spreadLimitPrice (price : Int)
  | noLimitPrice
  -- data of the wrong kind or shape
  | boolOperand
  | notOperand (kind : String)
  | notIndex (kind : String)
  | unordered (relation : String) (left right : String)
  | noAbsolute (kind : String)
  | noShift (left right : String)
  | notIterable (kind : String)
  | noLength (kind : String)
  | noMembers (kind : String)
  | subscript (message : String)
  | notSubscriptable (kind : String)
  | unhashable (kind : String)
  | keyMissing (shown : String)
  | notAMapping (kind : String)
  | notMapping (callee : String) (kind : String)
  | unexpectedKeyword (callee : String) (key : String)
  | repeatedKeyword (callee : String) (key : String)
  | nameNotText (kind : String)
  | hexNotText (kind : String)
  | notMember (shown : String) (enum : String)
  -- parameters out of range
  | badWidth (bits : String)
  | wordCount (width : Wide.Width) (got : Nat)
  | wordRange (index : Nat) (word : String)
  | twapPeriods
  | bandDenominator (denominator : String)
  | badHex (message : String)
  -- snapshots, contracts and requests
  | invalid (issues : List Snapshot.Issue)
  /-- A datum breaks a contract: the first failing keyword at a path. -/
  | contract (path : String) (keyword : String)
  | schemaNotFound (path : String)
  | request (message : String)

namespace Failure

/-- The stable code of a failure. -/
def kind : Failure → String
  | arith _ | outOfWidth .. => "MathError"
  | cast .. => "CastingFailure"
  | narrow .. | shortBuffer .. => "BigNumberConversionError"
  | timestamp _ => "UnableToCastUnixTimestamp"
  | strictPrice .. | feedPrecision .. => "InvalidOracle"
  | nonPositivePrice _ => "OracleNegativeError"
  | tooVolatile .. => "OracleTooVolatile"
  | confidenceTooWide .. => "OracleConfidenceTooWide"
  | stale .. => "OraclePriceStaleForMargin"
  | oracleMissing => "OracleNotFound"
  | spreadLimitPrice _ => "InvalidOracleSpreadLimitPrice"
  | noLimitPrice => "UnableToGetLimitPrice"
  | boolOperand | notOperand _ | notIndex _ | unordered .. | noAbsolute _ | noShift ..
  | notIterable _ | noLength _ | noMembers _ | subscript _ | notSubscriptable _ | unhashable _
  | notAMapping _ | notMapping .. | unexpectedKeyword .. | repeatedKeyword ..
  | nameNotText _ | hexNotText _ => "TypeError"
  | keyMissing _ => "KeyError"
  | notMember .. | badWidth _ | wordCount .. | wordRange .. | twapPeriods | bandDenominator _
  | badHex _ => "ValueError"
  | invalid _ => "PydanticValidationError"
  | contract .. => "SchemaValidationError"
  | schemaNotFound _ => "FileNotFoundError"
  | request _ => "DriverError"

/-- The text shown with a failure. -/
def message : Failure → String
  | arith f => f.message
  | outOfWidth v w => toString v ++ " out of range for " ++ w.intType.name
  | cast v t => "cannot cast " ++ toString v ++ " to " ++ t.name
  | narrow w v t => w.label ++ "(" ++ toString v ++ ") does not fit in " ++ t.name
  | shortBuffer w n =>
    w.label ++ " requires " ++ toString w.byteWidth ++ " bytes, got " ++ toString n
  | timestamp t => "cannot cast unix timestamp " ++ toString t ++ " to u64"
  | strictPrice p w =>
    "strict value requires positive prices: price=" ++ toString p ++ ", twap=" ++ w
  | feedPrecision e m =>
    "oracle precision 10^" ++ e ++ " must exceed multiple " ++ m
  | nonPositivePrice p => "oracle price must be positive, got " ++ toString p
  | tooVolatile p w => "oracle price " ++ toString p ++ " too volatile against twap " ++ w
  | confidenceTooWide c p =>
    "oracle confidence " ++ toString c ++ " too wide for price " ++ toString p
  | stale d s => "oracle delay " ++ toString d ++ " exceeds " ++ toString s
  | oracleMissing => "oracle price required for oracle offset order"
  | spreadLimitPrice p => "limit price must be positive, got " ++ toString p
  | noLimitPrice => "order has no limit price and no fallback price"
  | boolOperand => "bool is not a valid integer operand"
  | notOperand k => "integer operand expected, got " ++ k
  | notIndex k => "'" ++ k ++ "' object cannot be interpreted as an integer"
  | unordered r a b =>
    "'" ++ r ++ "' not supported between instances of '" ++ a ++ "' and '" ++ b ++ "'"
  | noAbsolute k => "bad operand type for abs(): '" ++ k ++ "'"
  | noShift a b => "unsupported operand type(s) for <<: '" ++ a ++ "' and '" ++ b ++ "'"
  | notIterable k => "'" ++ k ++ "' object is not iterable"
  | noLength k => "object of type '" ++ k ++ "' has no len()"
  | noMembers k => "argument of type '" ++ k ++ "' is not iterable"
  | subscript m => m
  | notSubscriptable k => "'" ++ k ++ "' object is not subscriptable"
  | unhashable k => "unhashable type: '" ++ k ++ "'"
  | keyMissing shown => shown
  | notAMapping k => "'" ++ k ++ "' object is not a mapping"
  | notMapping callee k => callee ++ "() argument after ** must be a mapping, not " ++ k
  | unexpectedKeyword callee k =>
    callee ++ "() got an unexpected keyword argument '" ++ k ++ "'"
  | repeatedKeyword callee k => callee ++ "() got multiple values for argument '" ++ k ++ "'"
  | nameNotText k => "__str__ returned non-string (type " ++ k ++ ")"
  | hexNotText k => "fromhex() argument must be str, not " ++ k
  | notMember shown e => shown ++ " is not a valid " ++ e
  | badWidth b => "bits must be a positive multiple of 8, got " ++ b
  | wordCount w n =>
    w.label ++ " requires " ++ toString w.words ++ " words, got " ++ toString n
  | wordRange i v => "word " ++ toString i ++ " out of u64 range: " ++ v
  | twapPeriods => "TWAP periods must be positive"
  | bandDenominator d => "price_band_denominator must be positive, got " ++ d
  | badHex m => m
  | invalid issues => "; ".intercalate (issues.map Snapshot.Issue.text)
  | contract path keyword => path ++ ": " ++ keyword
  | schemaNotFound path => "Schema not found: " ++ path
  | request m => m

end Failure

/-- A checked operation lifted to kernel failures. -/
def Arith.checkedOp (t : IntType) (op : ArithOp) (a b : Int) : Except Failure Int :=
  (checked t op a b).mapError Failure.arith

/-- The cast of `v` to `t`: `v` itself when `t` holds it. -/
def Arith.cast (v : Int) (t : IntType) : Except Failure Int :=
  if t.Contains v then .ok v else .error (.cast v t)

end MarginLending

/-! Validation issues.

Decoding a snapshot from JSON data checks every field and reports each failure as an issue: the
field's location (nested names, outermost first) and the kind of failure. A failure of a rule
that relates several fields has an empty location.
-/

set_option autoImplicit false

namespace MarginLending.Snapshot

inductive IssueKind where
  | missing
  | greaterThanEqual
  | lessThanEqual
  | stringTooLong
  | stringType
  | stringUnicode
  | enum
  | intType
  | intFromFloat
  | intParsing
  | intParsingSize
  | finiteNumber
  | boolType
  | boolParsing
  | modelType
  | valueError
  deriving DecidableEq, Repr

def IssueKind.code : IssueKind → String
  | .missing => "missing"
  | .greaterThanEqual => "greater_than_equal"
  | .lessThanEqual => "less_than_equal"
  | .stringTooLong => "string_too_long"
  | .stringType => "string_type"
  | .stringUnicode => "string_unicode"
  | .enum => "enum"
  | .intType => "int_type"
  | .intFromFloat => "int_from_float"
  | .intParsing => "int_parsing"
  | .intParsingSize => "int_parsing_size"
  | .finiteNumber => "finite_number"
  | .boolType => "bool_type"
  | .boolParsing => "bool_parsing"
  | .modelType => "model_type"
  | .valueError => "value_error"

structure Issue where
  loc : List String
  kind : IssueKind
  deriving DecidableEq, Repr

/-- `{location joined by dots}: {code}`. -/
def Issue.text (i : Issue) : String := ".".intercalate i.loc ++ ": " ++ i.kind.code

def Issue.under (name : String) (i : Issue) : Issue := { i with loc := name :: i.loc }

end MarginLending.Snapshot

import MarginLending.Data.Value
import MarginLending.Data.Binary

/-! JSON Schema contracts, for the keywords the snapshot contracts use.

A schema is a list of keywords, checked in the order they are written; every keyword is
checked, so one datum may break several. Keywords about objects and their fields pass data that
are not objects, and the numeric bounds pass data that are not numbers: only `type` says what a
datum must be. A `$ref` is checked as the schema it points to, at the same place.

Integers are the numbers without a fraction, so an integral float is an integer and a boolean is
not a number at all. Bounds are compared with the exact value of a float. Lengths count
characters.
-/

set_option autoImplicit false

namespace MarginLending.Contract

open Data

inductive JsonType where
  | object
  | integer
  | string
  | boolean
  deriving DecidableEq, Repr

/-- A schema keyword. -/
inductive Keyword where
  | type (t : JsonType)
  | required (names : List String)
  /-- The object has no fields but these (`additionalProperties: false`). -/
  | closed (known : List String)
  | properties (fields : List (String × List Keyword))
  | ref (name : String) (target : List Keyword)
  | minimum (bound : Int)
  | maximum (bound : Int)
  | exclusiveMaximum (bound : Int)
  | maxLength (bound : Nat)
  | enum (members : List String)
  deriving Repr

abbrev Schema := List Keyword

/-- A broken keyword: where in the datum, and which keyword. -/
structure Violation where
  path : List String
  keyword : String
  deriving DecidableEq, Repr

def Violation.pathText (v : Violation) : String := "/".intercalate v.path

namespace JsonType

def holds : JsonType → Value → Bool
  | object, .obj _ => true
  | integer, .int _ => true
  | integer, .float x => ((Binary.ofFloat x).bind Binary.toInt?).isSome
  | string, .str _ | string, .unpaired _ => true
  | boolean, .bool _ => true
  | _, _ => false

end JsonType

/-- How a number compares with an integer bound, exactly; `none` for a datum that is not a
number, and for a NaN, which is neither below nor above any bound. -/
def compareBound (v : Value) (bound : Int) : Option Ordering :=
  match v with
  | .int n => some (compare n bound)
  | .float x =>
    match Binary.ofFloat x with
    | some d => some (d.compareInt bound)
    | none =>
      match Binary.infinity? x with
      | some true => some .lt
      | some false => some .gt
      | none => none
  | _ => none

def flag (broken : Bool) (path : List String) (keyword : String) : List Violation :=
  if broken then [⟨path, keyword⟩] else []

mutual

def Keyword.check (path : List String) (v : Value) : Keyword → List Violation
  | .type t => flag (!t.holds v) path "type"
  | .required names =>
    match v with
    | .obj fields =>
      (names.filter fun n => !fields.any (·.1 == n)).map fun _ => ⟨path, "required"⟩
    | _ => []
  | .closed known =>
    match v with
    | .obj fields => flag (fields.any fun f => !known.contains f.1) path "additionalProperties"
    | _ => []
  | .properties fields =>
    match v with
    | .obj _ => checkFields path v fields
    | _ => []
  | .ref _ target => checkSchema path v target
  | .minimum b => flag (compareBound v b == some .lt) path "minimum"
  | .maximum b => flag (compareBound v b == some .gt) path "maximum"
  | .exclusiveMaximum b =>
    flag (compareBound v b == some .gt || compareBound v b == some .eq) path "exclusiveMaximum"
  | .maxLength b =>
    match v with
    | .str s => flag (decide (b < s.length)) path "maxLength"
    | .unpaired ps => flag (decide (b < ps.length)) path "maxLength"
    | _ => []
  | .enum members =>
    match v with
    | .str s => flag (!members.contains s) path "enum"
    | _ => [⟨path, "enum"⟩]

def checkSchema (path : List String) (v : Value) : Schema → List Violation
  | [] => []
  | k :: ks => k.check path v ++ checkSchema path v ks

def checkFields (path : List String) (v : Value) : List (String × Schema) → List Violation
  | [] => []
  | (name, s) :: rest =>
    match v.field? name with
    | some x => checkSchema (path ++ [name]) x s ++ checkFields path v rest
    | none => checkFields path v rest

end

def violations (s : Schema) (v : Value) : List Violation := checkSchema [] v s

def objectSchema (required : List String) (fields : List (String × Schema)) : Schema :=
  [.type .object, .required required, .closed (fields.map (·.1)), .properties fields]

def integerIn (lo hi : Int) : Schema := [.type .integer, .minimum lo, .maximum hi]

end MarginLending.Contract

import MarginLending.Snapshot.Issue
import MarginLending.Data.Value
import MarginLending.Data.Number
import MarginLending.Text.Digit

/-! Reading the fields of a snapshot from JSON data.

Snapshots are read leniently: an integer field also takes a boolean, a float without fraction and
a decimal text; a boolean field also takes `0` and `1` and the usual words for yes and no. What
cannot be read is an issue of a fixed kind, and a value outside the field's bounds is an issue
too. A record is read field by field in its declaration order, and the issues of all fields are
reported together.
-/

set_option autoImplicit false

namespace MarginLending.Snapshot

open Data

def wholePart? (cs : List Char) : Option (List Char) :=
  match cs.splitOn '.' with
  | whole :: fraction :: rest =>
    if rest.isEmpty ∧ !fraction.isEmpty ∧ fraction.all (· = '0') then some whole else none
  | _ => none

/-- Reads an integer from text. Blanks around it are ignored; a text of more than 4300 bytes
is too large; the number itself is an integer text (`Text.readInteger?`), which may be followed
by a point and zeros. -/
def intOfText (s : String) : Except IssueKind Int :=
  let cs := Text.trimBy Text.isBlank s
  if 4300 < (String.ofList cs).utf8ByteSize then .error .intParsingSize else
  match Text.readInteger? cs with
  | some n => .ok n
  | none =>
    match (wholePart? cs).bind Text.readInteger? with
    | some n => .ok n
    | none => .error .intParsing

/-- The integer a float stands for: it must be finite, whole and strictly between `-2^63` and
`2^63`. -/
def intOfFloat (x : Float) : Except IssueKind Int :=
  match Number.ofFloat x with
  | .exact b =>
    match b.toInt? with
    | some n => if -2 ^ 63 < n ∧ n < 2 ^ 63 then .ok n else .error .intParsingSize
    | none => .error .intFromFloat
  | _ => .error .finiteNumber

def readInt : Value → Except IssueKind Int
  | .int n => .ok n
  | .bool b => .ok (if b then 1 else 0)
  | .float x => intOfFloat x
  | .str s => intOfText s
  | .unpaired _ => .error .stringUnicode
  | _ => .error .intType

def readIntIn (lo hi : Int) (v : Value) : Except IssueKind Int := do
  let n ← readInt v
  if n < lo then throw .greaterThanEqual
  if hi < n then throw .lessThanEqual
  pure n

def boolOfText? (s : String) : Option Bool :=
  let l := s.toLower
  if s = "0" ∨ l = "f" ∨ l = "n" ∨ l = "no" ∨ l = "off" ∨ l = "false" then some false
  else if s = "1" ∨ l = "t" ∨ l = "y" ∨ l = "on" ∨ l = "yes" ∨ l = "true" then some true
  else none

/-- The truth value of a number: `0` and `1` only, any other integer of `i64` is a parsing
failure and anything else the wrong type. -/
def boolOfInt (n : Int) : Except IssueKind Bool :=
  if n = 0 then .ok false
  else if n = 1 then .ok true
  else if -2 ^ 63 ≤ n ∧ n < 2 ^ 63 then .error .boolParsing
  else .error .boolType

/-- Reads a boolean datum: a float counts when it stands for an integer. -/
def readBool : Value → Except IssueKind Bool
  | .bool b => .ok b
  | .int n => boolOfInt n
  | .float x =>
    match intOfFloat x with
    | .ok n => boolOfInt n
    | .error _ => .error .boolType
  | .str s =>
    match boolOfText? s with
    | some b => .ok b
    | none => .error .boolParsing
  | .unpaired _ => .error .stringUnicode
  | _ => .error .boolType

def readText (maxLength : Nat) : Value → Except IssueKind String
  | .str s => if s.length ≤ maxLength then .ok s else .error .stringTooLong
  | .unpaired _ => .error .stringUnicode
  | _ => .error .stringType

def readEnum {α : Type} (members : List (String × α)) : Value → Except IssueKind α
  | .str s =>
    match members.lookup s with
    | some a => .ok a
    | none => .error .enum
  | .unpaired _ => .error .stringUnicode
  | _ => .error .enum

abbrev Decoded (α : Type) := Except (List Issue) α

/-- Two decodings side by side; the issues of both are kept, the first one's first. -/
def join {α β : Type} (x : Decoded α) (y : Decoded β) : Decoded (α × β) :=
  match x, y with
  | .ok a, .ok b => .ok (a, b)
  | .ok _, .error e => .error e
  | .error e, .ok _ => .error e
  | .error e₁, .error e₂ => .error (e₁ ++ e₂)

/-- The field `key` of `obj` read by `read`; `default` stands in for an absent field, and an
absent required field is an issue of its own. -/
def field {α : Type} (obj : Value) (key : String) (default : Option α)
    (read : Value → Except IssueKind α) : Decoded α :=
  match obj.field? key with
  | none =>
    match default with
    | some d => .ok d
    | none => .error [⟨[key], .missing⟩]
  | some v => (read v).mapError fun k => [⟨[key], k⟩]

def nested {α : Type} (obj : Value) (key : String) (default : α)
    (decode : Value → Decoded α) : Decoded α :=
  match obj.field? key with
  | none => .ok default
  | some v@(.obj _) => (decode v).mapError (List.map (Issue.under key))
  | some _ => .error [⟨[key], .modelType⟩]

end MarginLending.Snapshot

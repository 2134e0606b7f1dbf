/-! JSON data as callers hand it to the kernel.

Snapshots, requests and answers are JSON documents. `Value` keeps the distinctions that the
kernel's rules depend on: an integer literal is not a float literal (`1` and `1.0` are read
differently), and the fields of an object keep their order. A JSON text may escape a surrogate
code point without its partner; such a text is not a `String` and is kept as its code points.
Reading and writing the text form lives in `MarginLending.Data.Json`.
-/

set_option autoImplicit false

namespace MarginLending.Data

/-- One JSON datum. Integers are unbounded; a number written with a fraction or an exponent is
a binary64 float. A text is a `String`, or, when it holds an unpaired surrogate, the list of its
code points (`unpaired`). -/
inductive Value where
  | null
  | bool (b : Bool)
  | int (n : Int)
  | float (x : Float)
  | str (s : String)
  | unpaired (points : List Nat)
  | arr (items : List Value)
  | obj (fields : List (String × Value))
  deriving Inhabited

namespace Value

def ofPoints (points : List Nat) : Value :=
  if points.all Nat.isValidChar then .str (String.ofList (points.map Char.ofNat))
  else .unpaired points

def points? : Value → Option (List Nat)
  | .str s => some (s.toList.map Char.toNat)
  | .unpaired ps => some ps
  | _ => none

def field? (v : Value) (key : String) : Option Value :=
  match v with
  | .obj fields => fields.lookup key
  | _ => none

def keys : Value → List String
  | .obj fields => fields.map Prod.fst
  | _ => []

def isObj : Value → Bool
  | .obj _ => true
  | _ => false

/-- An object holding `fields`, where a later field replaces an earlier one of the same name
but keeps the earlier position. -/
def objOf (fields : List (String × Value)) : Value :=
  .obj (fields.foldl (fun acc (k, x) =>
    if acc.any (·.1 == k) then acc.map (fun (k', y) => if k' == k then (k', x) else (k', y))
    else acc ++ [(k, x)]) [])

/-- The datum with `key` set to `x`: replaced in place when present, appended otherwise. -/
def set (v : Value) (key : String) (x : Value) : Value :=
  match v with
  | .obj fields =>
    if fields.any (·.1 == key) then
      .obj (fields.map fun (k, y) => if k == key then (k, x) else (k, y))
    else .obj (fields ++ [(key, x)])
  | other => other

def kindName : Value → String
  | .null => "NoneType"
  | .bool _ => "bool"
  | .int _ => "int"
  | .float _ => "float"
  | .str _ | .unpaired _ => "str"
  | .arr _ => "list"
  | .obj _ => "dict"

@[simp] theorem kindName_int (n : Int) : (Value.int n).kindName = "int" := rfl

mutual

/-- A datum as a record writes data of no declared kind: a float that is not finite becomes
null, also inside lists and objects; anything else stays as it is. -/
def finiteOnly : Value → Value
  | .float x => if x.isFinite then .float x else .null
  | .arr items => .arr (finiteItems items)
  | .obj fields => .obj (finiteFields fields)
  | v => v

def finiteItems : List Value → List Value
  | [] => []
  | x :: rest => finiteOnly x :: finiteItems rest

def finiteFields : List (String × Value) → List (String × Value)
  | [] => []
  | (k, x) :: rest => (k, finiteOnly x) :: finiteFields rest

end

/-- A datum kept in an integer field, as the field writes it: a boolean as `0` or `1`, anything
else as `finiteOnly` writes it. -/
def asIntField : Value → Value
  | .bool b => .int (if b then 1 else 0)
  | v => finiteOnly v

end Value

end MarginLending.Data

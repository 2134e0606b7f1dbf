import MarginLending.Arith.Operand
import MarginLending.Data.Dynamic

/-! Requests and answers of the kernel service.

A request is a JSON object naming an operation in `op`, with the operation's arguments as
further fields. An answer is a JSON object: the operation's results, or `error` and `message`
for a failure. This module reads arguments and writes answers; each operation family has its
own module.
-/

set_option autoImplicit false

namespace MarginLending.Service

open Data Arith

def missing (key : String) : Failure := .request ("missing field " ++ key)

def need (req : Value) (key : String) : Except Failure Value :=
  match req.field? key with
  | some v => .ok v
  | none => .error (missing key)

def opt (req : Value) (key : String) : Option Value :=
  match req.field? key with
  | some .null => none
  | other => other

/-- The field `key` of a datum that should be an object. It is missing when the datum does not
hold the name; a text or list that holds it fails when subscripted by it. -/
def needIn (d : Value) (key : String) : Except Failure Value := do
  if ← d.hasName key then d.nameAt key else throw (missing key)

def typeTable (types : List IntType) : List (Value × IntType) :=
  types.map fun t => (.str t.name, t)

def intTypeNamed (name : Value) : Except Failure IntType := do
  match ← Value.lookupIn (typeTable IntType.named) name with
  | some t => pure t
  | none => throw (.request ("unknown int type " ++ name.quoted))

def failed (f : Failure) : Value :=
  .obj [("error", .str f.kind), ("message", .str f.message)]

def failedFields (f : Failure) : List (String × Value) :=
  [("error", .str f.kind), ("message", .str f.message)]

def reply (r : Except Failure Value) : Value :=
  match r with
  | .ok v => v
  | .error f => failed f

def result (v : Value) : Value := .obj [("result", v)]

def optIntValue : Option Int → Value
  | some n => .int n
  | none => .null

/-- The answers of a run of steps from the state `s`. Each step answers its own fields and the
state after it, rendered by `render`; a failing step answers its failure and leaves the state
as it was. -/
def runSteps {σ : Type} (step : σ → Value → Except Failure (σ × List (String × Value)))
    (render : σ → List (String × Value)) : σ → List Value → List Value
  | _, [] => []
  | s, x :: xs =>
    match step s x with
    | .ok (s', fields) => .obj (fields ++ render s') :: runSteps step render s' xs
    | .error f => .obj (failedFields f ++ render s) :: runSteps step render s xs

end MarginLending.Service

import MarginLending.Service.Request
import MarginLending.Wide.Bytes
import MarginLending.Data.Hex

/-! Service operations on wide unsigned integers, and the stepwise session over one value.

Widths are named by their bit counts, looked up as keys (`192.0` names the same width as `192`).
A session starts from a wide value and applies steps to it. Arithmetic steps replace the value
with their result, which has the width of the value that carries out the operation: the
session's value, or a wide argument of a reflected step. A failed step leaves the value as it
was, and every step answers with the value after it.
-/

set_option autoImplicit false

namespace MarginLending.Service

open Data Arith

def wideValue (x : Wide) : Value :=
  .obj [("type", .str x.width.label), ("value", .int x.toInt),
    ("words", .arr (x.words.map fun (w : Nat) => Value.int w))]

def widthTable : List (Value × Wide.Width) := [(.int 192, .w192), (.int 256, .w256)]

def widthNamed (v : Value) : Except Failure Wide.Width := do
  match ← Value.lookupIn widthTable v with
  | some w => pure w
  | none => throw (.request ("unknown wide width " ++ v.quoted))

/-- The width that a datum names, looked up directly as a key: a datum naming none is a
missing key. -/
def widthKeyed (v : Value) : Except Failure Wide.Width := do
  match ← Value.lookupIn widthTable v with
  | some w => pure w
  | none => throw (.keyMissing v.quoted)

def wideOf (w : Wide.Width) (v : Value) : Except Failure Wide := do
  Wide.ofInt? w (← v.strictIndex)

/-- The wide value that an object with fields `value` and `wide` describes: the value must be
present before its width is looked up. -/
def wideOfRecord (r : Value) : Except Failure Wide := do
  let v ← need r "value"
  let w ← widthNamed (← need r "wide")
  wideOf w v

def bytesOf (v : Value) : Except Failure (List UInt8) :=
  match v with
  | .str s => (Hex.decode s).mapError Failure.badHex
  | .unpaired ps => (Hex.decode (pointsText ps)).mapError Failure.badHex
  | other => .error (.hexNotText other.kindName)

def wideConstsAnswer (req : Value) : Except Failure Value := do
  let w ← widthKeyed (← need req "wide")
  pure (.obj [("zero", wideValue (Wide.zero w)), ("max", wideValue (Wide.maxOf w)),
    ("bits", .int w.bits), ("byte_width", .int w.byteWidth)])

/-- `wide_new`, `wide_from_le_bytes`, `wide_deserialize`, `wide_from_words`. A new value is
read as a record; the readers of bytes and words look their width up as a key first. -/
def wideAnswer (kind : String) (req : Value) : Except Failure Value := do
  if kind = "wide_new" then return result (wideValue (← wideOfRecord req))
  let w ← widthKeyed (← need req "wide")
  match kind with
  | "wide_from_le_bytes" =>
    pure (result (wideValue (← Wide.ofBytes w (← bytesOf (← need req "hex")))))
  | "wide_deserialize" =>
    let (x, rest) ← Wide.deserialize w (← bytesOf (← need req "hex"))
    pure (.obj [("result", wideValue x), ("rest", .str (Hex.encode rest))])
  | _ => pure (result (wideValue (← Wide.ofWordData w (← (← need req "words").items))))

inductive StepArg where
  | int (n : Int)
  | wide (x : Wide)
  | other (v : Value)

def stepArg (v : Value) : Except Failure StepArg :=
  match v with
  | .int n => .ok (.int n)
  | .obj _ =>
    if (v.field? "wide").isSome then do
      pure (.wide (← wideOfRecord v))
    else .ok (.other v)
  | other => .ok (.other other)

def StepArg.operand : StepArg → Except Failure Int
  | .int n => .ok n
  | .wide x => .ok x.toInt
  | .other v => v.strictIndex

def StepArg.integer? : StepArg → Option Int
  | .int n => some n
  | .wide x => some x.toInt
  | .other _ => none

/-- The checked operation of a binary step, whether it takes the argument on the left, and
whether a refused operation answers `null`. -/
def binarySteps : List (Value × ArithOp × Bool × Bool) :=
  [(.str "add", .add, false, false), (.str "sub", .sub, false, false),
    (.str "mul", .mul, false, false), (.str "floordiv", .div, false, false),
    (.str "mod", .remEuclid, false, false), (.str "ceil_div", .ceilDiv, false, false),
    (.str "radd", .add, true, false), (.str "rsub", .sub, true, false),
    (.str "rmul", .mul, true, false), (.str "rfloordiv", .div, true, false),
    (.str "checked_add", .add, false, true), (.str "checked_sub", .sub, false, true),
    (.str "checked_mul", .mul, false, true), (.str "checked_div", .div, false, true),
    (.str "checked_ceil_div", .ceilDiv, false, true)].map
    fun (k, op, r, q) => (k, (op, r, q))

def orderSteps : List (Value × Relation) :=
  [(.str "lt", .lt), (.str "le", .le), (.str "gt", .gt), (.str "ge", .ge)]

/-- A binary step on `x`. A reflected step with a wide argument is carried out by the argument,
at its width; otherwise `x` carries it out at its own width, the argument on the left when the
step is reflected. -/
def binaryStep (x : Wide) (op : ArithOp) (reflected : Bool) (arg : StepArg) :
    Except Failure Wide := do
  match reflected, arg with
  | true, .wide y => Wide.arith y.width op y.toInt x.toInt
  | true, a => Wide.arith x.width op (← a.operand) x.toInt
  | false, a => Wide.arith x.width op x.toInt (← a.operand)

def queryStep (x : Wide) : String → Option (Except Failure Value)
  | "to_u64" => some (.ok (optIntValue (x.narrow? IntType.u64)))
  | "to_u128" => some (.ok (optIntValue (x.narrow? IntType.u128)))
  | "try_to_u64" => some ((x.narrow IntType.u64).map Value.int)
  | "try_to_u128" => some ((x.narrow IntType.u128).map Value.int)
  | "to_le_bytes" => some (.ok (.str (Hex.encode x.toBytes)))
  | "is_zero" => some (.ok (.bool x.isZero))
  | "bool" => some (.ok (.bool !x.isZero))
  | "int" => some (.ok (.int x.toInt))
  | "repr" => some (.ok (.str x.repr))
  | "bits" => some (.ok (.int x.width.bits))
  | "byte_width" => some (.ok (.int x.width.byteWidth))
  | "words" => some (.ok (.arr (x.words.map fun (w : Nat) => Value.int w)))
  | "roundtrip_bytes" => some ((Wide.ofBytes x.width x.toBytes).map fun y => .int y.toInt)
  | _ => none

/-- One step of a session on `x`: its answer and the value after it. -/
def wideStep (x : Wide) (step : Value) : Except Failure (Value × Wide) := do
  let name ← needIn step "op"
  let arg := fun (_ : Unit) => stepArg ((step.field? "arg").getD .null)
  if let some (op, reflected, quiet) ← Value.lookupIn binarySteps name then
    match binaryStep x op reflected (← arg ()) with
    | .ok y => pure (wideValue y, y)
    | .error f => if quiet ∧ f.kind = "MathError" then pure (.null, x) else throw f
  else if name.equals (.str "eq") ∨ name.equals (.str "ne") then
    let same := match ← arg () with
      | .other _ => false
      | a => a.integer? == some x.toInt
    pure (.bool (if name.equals (.str "eq") then same else !same), x)
  else if let some r ← Value.lookupIn orderSteps name then
    match (← arg ()).integer? with
    | some n => pure (.bool (r.holds (compare x.toInt n)), x)
    | none => throw (.unordered r.symbol x.width.label ((step.field? "arg").getD .null).kindName)
  else if name.equals (.str "set") then
    let v ← needIn step "value"
    let w ← if (step.field? "wide").isSome then widthNamed (← needIn step "wide") else pure x.width
    let y ← wideOf w v
    pure (wideValue y, y)
  else match name with
    | .str s =>
      match queryStep x s with
      | some r => pure (← r, x)
      | none => throw (.request ("unknown wide step " ++ name.quoted))
    | _ => throw (.request ("unknown wide step " ++ name.quoted))

def wideSteps : Wide → List Value → List Value
  | _, [] => []
  | x, step :: rest =>
    match wideStep x step with
    | .ok (r, y) => .obj [("result", r), ("state", .int y.toInt)] :: wideSteps y rest
    | .error f => .obj (failedFields f ++ [("state", .int x.toInt)]) :: wideSteps x rest

def wideSessionAnswer (req : Value) : Except Failure Value := do
  let x ← wideOfRecord req
  let steps ← ((req.field? "steps").getD (.arr [])).items
  pure (.obj [("steps", .arr (wideSteps x steps))])

end MarginLending.Service

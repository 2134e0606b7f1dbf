import MarginLending.Service.Request
import MarginLending.Arith.Descriptor

/-! Service operations on integer types: checked arithmetic, type descriptions and casts. -/

set_option autoImplicit false

namespace MarginLending.Service

open Data Arith

def arithOpNamed? : String → Option ArithOp
  | "safe_add" => some .add
  | "safe_sub" => some .sub
  | "safe_mul" => some .mul
  | "safe_div" => some .div
  | "safe_ceil_div" => some .ceilDiv
  | "safe_floor_div" => some .floorDiv
  | "safe_rem_euclid" => some .remEuclid
  | "safe_pow" => some .pow
  | _ => none

def typeOr128 (req : Value) (key : String) : Except Failure IntType :=
  match req.field? key with
  | some v => intTypeNamed v
  | none => .ok IntType.u128

def checkedAnswer (op : ArithOp) (req : Value) : Except Failure Value := do
  let (lk, rk) := if op = .pow then ("base", "exp") else ("lhs", "rhs")
  let lhs ← need req lk
  let rhs ← need req rk
  let t ← typeOr128 req "type"
  let r ← checkedData t op lhs rhs
  pure (result (.int r))

/-- The description of an integer type, with whether it holds `value` when one is given. A type
is named by `name`, or described by `bits`, `signed` and `type_name` (`"custom"` when absent). -/
def intTypeAnswer (req : Value) : Except Failure Value := do
  let d ← match req.field? "name" with
    | some name => pure (Descriptor.ofIntType (← intTypeNamed name))
    | none => do
      let name := (req.field? "type_name").getD (.str "custom")
      let bits ← need req "bits"
      let signed ← need req "signed"
      Descriptor.make name bits signed
  let base : List (String × Value) :=
    [("name", d.name), ("bits", d.bits), ("signed", d.signed),
      ("min_value", .int (← d.minValue)), ("max_value", .int (← d.maxValue)),
      ("byte_width", .int (← d.byteWidth)), ("str", .str (← d.shown))]
  match req.field? "value" with
  | some v => pure (.obj (base ++ [("contains", .bool (← d.holds v))]))
  | none => pure (.obj base)

def shortcutTypes : List IntType :=
  [IntType.u32, IntType.u64, IntType.i64, IntType.u128, IntType.i128]

/-- `{"result": n}` for `cast`, `try_cast` and `cast_shortcut`. A shortcut is looked up
before the value is read; the other casts read the value first. -/
def castAnswer (kind : String) (req : Value) : Except Failure Value := do
  if kind = "cast_shortcut" then
    let toName ← need req "to"
    match ← Value.lookupIn (typeTable shortcutTypes) toName with
    | some t => pure (result (.int (← castData (← need req "value") t)))
    | none => throw (.request ("no shortcut for " ++ toName.quoted))
  else
    let v ← need req "value"
    let toName ← need req "to"
    let t ← intTypeNamed toName
    if kind = "try_cast" then pure (result (optIntValue (← tryCastData v t)))
    else pure (result (.int (← castData v t)))

end MarginLending.Service

import MarginLending.Failure

/-! Integer arguments taken from JSON data.

Two rules decide which data count as integers. An arithmetic operand must be an integer proper:
a boolean is refused with a message of its own, any other kind names itself. An integer index
also takes a boolean as `0` or `1`, and refuses other kinds with a different message. Casts and
times read indices; checked arithmetic reads operands.
-/

set_option autoImplicit false

namespace MarginLending

open Data Arith

namespace Data.Value

def operand : Value → Except Failure Int
  | .int n => .ok n
  | .bool _ => .error .boolOperand
  | v => .error (.notOperand v.kindName)

/-- The datum as an integer index: an integer, or a boolean read as `0` or `1`. -/
def index : Value → Except Failure Int
  | .int n => .ok n
  | .bool b => .ok (if b then 1 else 0)
  | v => .error (.notIndex v.kindName)

/-- The datum as an integer index that is not a boolean: wide values take their operands so. -/
def strictIndex : Value → Except Failure Int
  | .int n => .ok n
  | .bool _ => .error .boolOperand
  | v => .error (.notIndex v.kindName)

@[simp] theorem operand_int (n : Int) : (Value.int n).operand = .ok n := rfl
@[simp] theorem index_int (n : Int) : (Value.int n).index = .ok n := rfl

end Data.Value

namespace Arith

/-- A checked operation on two data: both must be integer operands, the left one is read
first. -/
def checkedData (t : IntType) (op : ArithOp) (lhs rhs : Value) : Except Failure Int := do
  let a ← lhs.operand
  let b ← rhs.operand
  checkedOp t op a b

def castData (v : Value) (t : IntType) : Except Failure Int := do
  cast (← v.index) t

def tryCastData (v : Value) (t : IntType) : Except Failure (Option Int) := do
  let n ← v.index
  pure (if t.Contains n then some n else none)

@[simp]
theorem checkedData_int (t : IntType) (op : ArithOp) (a b : Int) :
    checkedData t op (.int a) (.int b) = checkedOp t op a b := rfl

@[simp]
theorem castData_int (t : IntType) (n : Int) : castData (.int n) t = cast n t := rfl

end Arith

end MarginLending

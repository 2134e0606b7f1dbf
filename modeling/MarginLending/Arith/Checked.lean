import MarginLending.Arith.IntType

/-! Checked arithmetic on fixed-width integers.

`checked t op a b` returns the exact mathematical result of `op` on `a` and `b`, or a `Fault`
that names the operation, both operands, the type and the reason. The checks run in a fixed
order: the operands' ranges (left first), a zero divisor, then the result's range. A result
above the type's maximum is an overflow, one below its minimum an underflow. Nothing wraps.

Powers follow their own order: the base's range, the exponent's `u32` range, an early overflow
when `|base| > 1` and the exponent reaches the type's width, then the result's range.
-/

set_option autoImplicit false

namespace MarginLending.Arith

inductive ArithOp where
  | add
  | sub
  | mul
  /-- Division truncating toward zero. -/
  | div
  /-- Division rounding toward positive infinity. -/
  | ceilDiv
  /-- Division rounding toward negative infinity. -/
  | floorDiv
  /-- The remainder `a mod |b|`, never negative. -/
  | remEuclid
  | pow
  deriving DecidableEq, Repr

namespace ArithOp

def label : ArithOp → String
  | add => "safe_add"
  | sub => "safe_sub"
  | mul => "safe_mul"
  | div => "safe_div"
  | ceilDiv => "safe_ceil_div"
  | floorDiv => "safe_floor_div"
  | remEuclid => "safe_rem_euclid"
  | pow => "safe_pow"

def divides : ArithOp → Bool
  | div | ceilDiv | floorDiv | remEuclid => true
  | _ => false

end ArithOp

/-- `a ^ e`, computed without a loop when `|a| ≤ 1`. -/
def power (a : Int) (e : Nat) : Int :=
  if a = 0 then (if e = 0 then 1 else 0)
  else if a = 1 then 1
  else if a = -1 then (if e % 2 = 0 then 1 else -1)
  else a ^ e

theorem power_eq (a : Int) (e : Nat) : power a e = a ^ e := by
  unfold power
  split
  · subst_vars
    cases e with
    | zero => rfl
    | succ n => rw [Int.pow_succ, Int.mul_zero]; rfl
  split
  · subst_vars; exact Int.one_pow.symm
  split
  · subst_vars
    induction e with
    | zero => simp
    | succ n ih =>
      rw [Int.pow_succ, ← ih]
      split <;> split <;> omega
  · rfl

def exact : ArithOp → Int → Int → Int
  | .add, a, b => a + b
  | .sub, a, b => a - b
  | .mul, a, b => a * b
  | .div, a, b => a.tdiv b
  | .ceilDiv, a, b => -((-a).fdiv b)
  | .floorDiv, a, b => a.fdiv b
  | .remEuclid, a, b => a % b
  | .pow, a, b => power a b.toNat

inductive Reason where
  | operand (v : Int)
  | divisionByZero
  | overflow
  | underflow
  | exponent
  deriving DecidableEq, Repr

def Reason.text : Reason → String
  | .operand v => "operand " ++ toString v ++ " out of range"
  | .divisionByZero => "division by zero"
  | .overflow => "overflow"
  | .underflow => "underflow"
  | .exponent => "exponent out of u32 range"

structure Fault where
  op : ArithOp
  type : IntType
  lhs : Int
  rhs : Int
  reason : Reason
  deriving DecidableEq

/-- `{op}({lhs}, {rhs}) as {type}: {reason}`. -/
def Fault.message (f : Fault) : String :=
  f.op.label ++ "(" ++ toString f.lhs ++ ", " ++ toString f.rhs ++ ") as " ++ f.type.name ++ ": " ++
    f.reason.text

/-- The result if it lies in the type; otherwise an overflow or an underflow. -/
def within (t : IntType) (op : ArithOp) (a b r : Int) : Except Fault Int :=
  if t.Contains r then .ok r
  else .error ⟨op, t, a, b, if t.max < r then .overflow else .underflow⟩

def checked (t : IntType) (op : ArithOp) (a b : Int) : Except Fault Int :=
  if ¬ t.Contains a then .error ⟨op, t, a, b, .operand a⟩
  else if op = .pow then
    if ¬ IntType.u32.Contains b then .error ⟨op, t, a, b, .exponent⟩
    else if 1 < a.natAbs ∧ (t.bits : Int) ≤ b then .error ⟨op, t, a, b, .overflow⟩
    else within t op a b (exact op a b)
  else if ¬ t.Contains b then .error ⟨op, t, a, b, .operand b⟩
  else if op.divides ∧ b = 0 then .error ⟨op, t, a, b, .divisionByZero⟩
  else within t op a b (exact op a b)

end MarginLending.Arith

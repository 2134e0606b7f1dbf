import MarginLending.Proofs.WideCodec
import MarginLending.Service.Wide

/-! Wide arithmetic is checked integer arithmetic at the width of the value that carries it out.

A wide operation runs the checked operation of its width's integer type on the two integers and
builds a value of that width from the result. Building never fails, because a checked result lies
in the type, which holds exactly the numbers below `2 ^ bits`. A refusal is the checked
operation's own fault.

In a session, the value carries out every step with an integer argument, and every forward step,
taking the argument on the left when the step is reflected. A reflected step with a wide argument
is that argument's own forward step: it runs at the argument's width, which may differ. Quiet
steps answer `null` exactly where the checked operation refuses. Comparisons compare the two
integers, and equality with an argument that is not an integer is false.
-/

set_option autoImplicit false

namespace MarginLending

open Arith Data Service

namespace Wide

variable {w : Width} {op : ArithOp} {a b : Int}

theorem checkedOp_contains {t : IntType} {r : Int} (ok : checkedOp t op a b = .ok r) :
    t.Contains r := by
  by_cases power : op = .pow
  · subst power
    obtain ⟨-, -, -, fits, rfl⟩ := checkedOp_pow_eq_ok_iff.mp ok
    exact fits
  · exact (checkedOp_ok_of_binary power ok).2.2.1

theorem arith_of_ok {r : Int} (ok : checkedOp w.intType op a b = .ok r) :
    ∃ y, arith w op a b = .ok y ∧ y.width = w ∧ y.toInt = r := by
  have fits := (Width.intType_contains_iff w r).mp (checkedOp_contains ok)
  obtain ⟨y, built, width, value⟩ := ofInt?_eq_ok fits
  refine ⟨y, by simp only [arith, ok, built, bind, Except.bind], width, ?_⟩
  rw [toInt, value, Int.toNat_of_nonneg fits.1]

theorem arith_of_error {e : Failure} (refused : checkedOp w.intType op a b = .error e) :
    arith w op a b = .error e := by
  simp only [arith, refused, bind, Except.bind]

end Wide

namespace Service

def stepDatum (name : String) (arg : Value) : Value := .obj [("op", .str name), ("arg", arg)]

/-- The width and the two operands of the checked operation that a binary step on `x` stands
for. The value carries out forward steps and reflected steps with an integer argument, which it
takes on the left; a wide argument carries out a reflected step itself, as its own forward step.
An argument of another kind has no integer. -/
def StepArg.carried (a : StepArg) (x : Wide) (reflected : Bool) : Option (Wide.Width × Int × Int) :=
  match a, reflected with
  | .int n, false => some (x.width, x.toInt, n)
  | .int n, true => some (x.width, n, x.toInt)
  | .wide y, false => some (x.width, x.toInt, y.toInt)
  | .wide y, true => some (y.width, y.toInt, x.toInt)
  | .other _, _ => none

theorem binaryStep_eq_arith {x : Wide} {op : ArithOp} {reflected : Bool} {a : StepArg}
    {w : Wide.Width} {lhs rhs : Int} (carried : a.carried x reflected = some (w, lhs, rhs)) :
    binaryStep x op reflected a = Wide.arith w op lhs rhs := by
  cases a <;> cases reflected <;> simp only [StepArg.carried, Option.some.injEq,
    Prod.mk.injEq, reduceCtorEq] at carried <;> obtain ⟨rfl, rfl, rfl⟩ := carried <;> rfl

theorem wideStep_binary {name : String} {op : ArithOp} {reflected quiet : Bool}
    (mem : (Value.str name, (op, reflected, quiet)) ∈ binarySteps) (x : Wide) (v : Value) :
    wideStep x (stepDatum name v) = (stepArg v >>= fun a =>
      match binaryStep x op reflected a with
      | .ok y => pure (wideValue y, y)
      | .error f => if quiet = true ∧ f.kind = "MathError" then pure (.null, x) else throw f) := by
  simp only [binarySteps, List.map_cons, List.map_nil, List.mem_cons, Prod.mk.injEq,
    Value.str.injEq, List.not_mem_nil, or_false] at mem
  rcases mem with ⟨rfl, rfl, rfl, rfl⟩ | ⟨rfl, rfl, rfl, rfl⟩ | ⟨rfl, rfl, rfl, rfl⟩ |
    ⟨rfl, rfl, rfl, rfl⟩ | ⟨rfl, rfl, rfl, rfl⟩ | ⟨rfl, rfl, rfl, rfl⟩ | ⟨rfl, rfl, rfl, rfl⟩ |
    ⟨rfl, rfl, rfl, rfl⟩ | ⟨rfl, rfl, rfl, rfl⟩ | ⟨rfl, rfl, rfl, rfl⟩ | ⟨rfl, rfl, rfl, rfl⟩ |
    ⟨rfl, rfl, rfl, rfl⟩ | ⟨rfl, rfl, rfl, rfl⟩ | ⟨rfl, rfl, rfl, rfl⟩ | ⟨rfl, rfl, rfl, rfl⟩ <;>
  rfl

theorem wideStep_order {name : String} {r : Relation} (mem : (Value.str name, r) ∈ orderSteps)
    (x : Wide) (v : Value) :
    wideStep x (stepDatum name v) = (stepArg v >>= fun a =>
      match a.integer? with
      | some n => pure (.bool (r.holds (compare x.toInt n)), x)
      | none => throw (.unordered r.symbol x.width.label v.kindName)) := by
  simp only [orderSteps, List.mem_cons, Prod.mk.injEq, Value.str.injEq, List.not_mem_nil,
    or_false] at mem
  rcases mem with ⟨rfl, rfl⟩ | ⟨rfl, rfl⟩ | ⟨rfl, rfl⟩ | ⟨rfl, rfl⟩ <;> rfl

def StepArg.equalsValue (a : StepArg) (x : Wide) : Bool :=
  match a with
  | .other _ => false
  | a => a.integer? == some x.toInt

theorem StepArg.equalsValue_of_integer {a : StepArg} {n : Int} (integer : a.integer? = some n)
    (x : Wide) : a.equalsValue x = decide (n = x.toInt) := by
  cases a with
  | int m =>
    cases integer
    exact Bool.beq_eq_decide_eq n x.toInt
  | wide y =>
    cases integer
    exact Bool.beq_eq_decide_eq y.toInt x.toInt
  | other u => cases integer

theorem StepArg.carried_of_integer {a : StepArg} {n : Int} (integer : a.integer? = some n)
    (x : Wide) (reflected : Bool) : ∃ w lhs rhs, a.carried x reflected = some (w, lhs, rhs) := by
  cases a with
  | int m => cases reflected <;> exact ⟨_, _, _, rfl⟩
  | wide y => cases reflected <;> exact ⟨_, _, _, rfl⟩
  | other u => cases integer

theorem wideStep_eq (x : Wide) (v : Value) :
    wideStep x (stepDatum "eq" v) = (stepArg v >>= fun a => pure (.bool (a.equalsValue x), x)) :=
  rfl

theorem wideStep_ne (x : Wide) (v : Value) :
    wideStep x (stepDatum "ne" v) = (stepArg v >>= fun a => pure (.bool !(a.equalsValue x), x)) :=
  rfl

/-- How a session step on `x` answers the checked operation `op` at width `w` on `lhs` and `rhs`:
with the wide value of width `w` holding its result, which the session then holds; with its
refusal, or, for a quiet step, with `null` and the value kept. -/
def ArithAnswered (x : Wide) (quiet : Bool) (w : Wide.Width) (op : ArithOp) (lhs rhs : Int)
    (answer : Except Failure (Value × Wide)) : Prop :=
  match checkedOp w.intType op lhs rhs with
  | .ok r => ∃ y : Wide, y.width = w ∧ y.toInt = r ∧ answer = .ok (wideValue y, y)
  | .error e => answer = if quiet then .ok (.null, x) else .error e

theorem wideStep_arith_answered {name : String} {op : ArithOp} {reflected quiet : Bool}
    (mem : (Value.str name, (op, reflected, quiet)) ∈ binarySteps) {x : Wide} {v : Value}
    {a : StepArg} (read : stepArg v = .ok a) {w : Wide.Width} {lhs rhs : Int}
    (carried : a.carried x reflected = some (w, lhs, rhs)) :
    ArithAnswered x quiet w op lhs rhs (wideStep x (stepDatum name v)) := by
  rw [wideStep_binary mem, read]
  simp only [bind, Except.bind, binaryStep_eq_arith carried]
  unfold ArithAnswered
  split
  · next r ok =>
    obtain ⟨y, built, width, value⟩ := Wide.arith_of_ok ok
    exact ⟨y, width, value, by rw [built]; rfl⟩
  · next e refused =>
    obtain ⟨f, rfl⟩ := checkedOp_error refused
    rw [Wide.arith_of_error refused]
    -- a refusal of checked arithmetic is a math error, which a quiet step answers with `null`
    cases quiet <;> rfl

/-- Wide arithmetic agrees with checked integer arithmetic at the width of the value that
carries it out. Let the argument of a session step on a wide value `x` read as an integer or a
wide value with integer `n`. Each binary step (forward, reflected or quiet) answers the checked
operation of the width it is carried out at on its operands in order: the value's width, except
that a reflected step with a wide argument runs at the argument's width; a result comes back as
a value of that width, a refusal is raised, or answered `null` by a quiet step that keeps `x`.
The order steps and equality compare `x` with `n` as integers, and equality with an argument
that reads as no integer (a boolean, float, text, list or null) is false. -/
theorem wide_steps_follow_checked_arithmetic (x : Wide) :
    (∀ v a n, stepArg v = .ok a → a.integer? = some n →
      (∀ name op reflected quiet, (Value.str name, (op, reflected, quiet)) ∈ binarySteps →
        ∃ w lhs rhs, a.carried x reflected = some (w, lhs, rhs) ∧
          ArithAnswered x quiet w op lhs rhs (wideStep x (stepDatum name v))) ∧
      wideStep x (stepDatum "lt" v) = .ok (.bool (decide (x.toInt < n)), x) ∧
      wideStep x (stepDatum "le" v) = .ok (.bool (decide (x.toInt ≤ n)), x) ∧
      wideStep x (stepDatum "gt" v) = .ok (.bool (decide (n < x.toInt)), x) ∧
      wideStep x (stepDatum "ge" v) = .ok (.bool (decide (n ≤ x.toInt)), x) ∧
      wideStep x (stepDatum "eq" v) = .ok (.bool (decide (n = x.toInt)), x) ∧
      wideStep x (stepDatum "ne" v) = .ok (.bool !(decide (n = x.toInt)), x)) ∧
    ∀ v u, stepArg v = .ok (.other u) →
      wideStep x (stepDatum "eq" v) = .ok (.bool false, x) ∧
        wideStep x (stepDatum "ne" v) = .ok (.bool true, x) := by
  refine ⟨fun v a n read integer => ?_, fun v u read => ?_⟩
  · -- an order step answers the relation between the two integers
    have compared : ∀ name r, (Value.str name, r) ∈ orderSteps →
        wideStep x (stepDatum name v) = .ok (.bool (r.holds (compare x.toInt n)), x) := by
      intro name r mem
      rw [wideStep_order mem, read]
      simp only [bind, Except.bind, integer]
      rfl
    have equal := a.equalsValue_of_integer integer x
    refine ⟨fun name op reflected quiet mem => ?_, ?_, ?_, ?_, ?_, ?_, ?_⟩
    · obtain ⟨w, lhs, rhs, carried⟩ := a.carried_of_integer integer x reflected
      exact ⟨w, lhs, rhs, carried, wideStep_arith_answered mem read carried⟩
    · rw [compared "lt" .lt (by simp [orderSteps]), Value.holds_lt_int]
    · rw [compared "le" .le (by simp [orderSteps]), Value.holds_le_int]
    · rw [compared "gt" .gt (by simp [orderSteps]), Value.holds_gt_int]
    · rw [compared "ge" .ge (by simp [orderSteps]), Value.holds_ge_int]
    · simp only [wideStep_eq, read, bind, Except.bind, equal]
      rfl
    · simp only [wideStep_ne, read, bind, Except.bind, equal]
      rfl
  · rw [wideStep_eq, wideStep_ne, read]
    exact ⟨rfl, rfl⟩

def sevenU192 : Wide := Wide.cut .w192 7

theorem seven_steps_follow_checked_arithmetic :
    stepArg (.int 3) = .ok (.int 3) ∧ (StepArg.int 3).integer? = some 3 ∧
      (∃ w lhs rhs, (StepArg.int 3).carried sevenU192 true = some (w, lhs, rhs) ∧
        ArithAnswered sevenU192 false w .sub lhs rhs
          (wideStep sevenU192 (stepDatum "rsub" (.int 3)))) ∧
      wideStep sevenU192 (stepDatum "gt" (.int 3)) =
        .ok (.bool (decide ((3 : Int) < sevenU192.toInt)), sevenU192) :=
  have steps := (wide_steps_follow_checked_arithmetic sevenU192).1 (.int 3) (.int 3) 3 rfl rfl
  ⟨rfl, rfl, steps.1 "rsub" .sub true false (by simp [binarySteps]), steps.2.2.2.1⟩

def oneU192 : Wide := Wide.cut .w192 1

/-- A `U256` argument reflected onto a `U192` value runs at its own width: subtracting the value
one from the argument `2^200` answers the `U256` value `2^200 - 1`, where the subtraction at the
value's width would refuse `2^200` as an operand. -/
theorem reflected_wide_step_runs_at_argument_width :
    checkedOp oneU192.width.intType .sub (2 ^ 200) 1 =
        .error (.arith ⟨.sub, IntType.u192, 2 ^ 200, 1, .operand (2 ^ 200)⟩) ∧
      ∃ y : Wide, y.width = .w256 ∧ y.toInt = 2 ^ 200 - 1 ∧
        wideStep oneU192 (stepDatum "rsub" (.obj [("wide", .int 256), ("value", .int (2 ^ 200))])) =
          .ok (wideValue y, y) :=
  ⟨rfl, Wide.cut .w256 (2 ^ 200 - 1), rfl, rfl, by rfl⟩

end Service

end MarginLending

import MarginLending.Data.Dynamic
import MarginLending.Arith.IntType

/-! Integer types described by data.

A caller may describe an integer type by a name, a width and a signedness given as data of any
kind. The description is accepted when its width compares as a positive multiple of eight; a
width of another kind fails in that comparison. Its properties are then computed from the data:
the signedness counts by its truth value, the bounds need a whole width (a float width cannot
shift a bit into place), and the type shows as its name, which must be a text. A named type is
the description of its own name, width and signedness.
-/

set_option autoImplicit false

namespace MarginLending.Arith

open Data

/-- An integer type as a caller describes it. -/
structure Descriptor where
  name : Value
  bits : Value
  signed : Value

namespace Descriptor

/-- Whether a width is a multiple of eight: only a number that stands for an integer can be. -/
def alignedWidth (bits : Value) : Bool :=
  match bits.number? with
  | some (.exact b) => b.toInt?.any (· % 8 == 0)
  | _ => false

def make (name bits signed : Value) : Except Failure Descriptor := do
  if ← Value.compareBy .le bits (.int 0) then throw (.badWidth bits.shown)
  if !alignedWidth bits then throw (.badWidth bits.shown)
  pure ⟨name, bits, signed⟩

def ofIntType (t : IntType) : Descriptor := ⟨.str t.name, .int t.bits, .bool t.signed⟩

/-- The width as a number of bits to shift by: only an integer shifts. -/
def width (d : Descriptor) : Except Failure Nat :=
  match d.bits with
  | .int n => .ok n.toNat
  | v => .error (.noShift "int" v.kindName)

def minValue (d : Descriptor) : Except Failure Int := do
  if d.signed.truthy then
    let w ← d.width
    pure (-((2 ^ (w - 1) : Nat) : Int))
  else pure 0

def maxValue (d : Descriptor) : Except Failure Int := do
  let w ← d.width
  if d.signed.truthy then pure (((2 ^ (w - 1) : Nat) : Int) - 1) else pure (((2 ^ w : Nat) : Int) - 1)

def byteWidth (d : Descriptor) : Except Failure Nat := do
  pure ((← d.width) / 8)

def shown (d : Descriptor) : Except Failure String :=
  match d.name with
  | .str s => .ok s
  | .unpaired ps => .ok (pointsText ps)
  | v => .error (.nameNotText v.kindName)

/-- Whether the type holds a datum: the datum lies between the bounds, compared as data; a datum
below the least value is not compared with the greatest. -/
def holds (d : Descriptor) (v : Value) : Except Failure Bool := do
  if ← Value.compareBy .le (.int (← d.minValue)) v then
    Value.compareBy .le v (.int (← d.maxValue))
  else pure false

theorem minValue_ofIntType (t : IntType) : (ofIntType t).minValue = .ok t.min := by
  unfold minValue ofIntType IntType.min
  cases t.signed <;> rfl

theorem maxValue_ofIntType (t : IntType) : (ofIntType t).maxValue = .ok t.max := by
  unfold maxValue ofIntType IntType.max
  cases t.signed <;> rfl

end Descriptor

end MarginLending.Arith

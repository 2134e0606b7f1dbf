import MarginLending.Arith.IntType

/-! The two widths of wide unsigned integers.

A wide value is held as little-endian 64-bit words: three for 192 bits, four for 256 bits.
-/

set_option autoImplicit false

namespace MarginLending.Wide

/-- A width of wide unsigned integers. -/
inductive Width where
  | w192
  | w256
  deriving DecidableEq, Repr

namespace Width

def words : Width → Nat
  | w192 => 3
  | w256 => 4

def bits (w : Width) : Nat := 64 * w.words

def byteWidth (w : Width) : Nat := 8 * w.words

def label : Width → String
  | w192 => "U192"
  | w256 => "U256"

def intType : Width → Arith.IntType
  | w192 => Arith.IntType.u192
  | w256 => Arith.IntType.u256

def ofBits? : Int → Option Width
  | 192 => some w192
  | 256 => some w256
  | _ => none

@[simp] theorem intType_bits (w : Width) : w.intType.bits = w.bits := by cases w <;> rfl

end Width

end MarginLending.Wide

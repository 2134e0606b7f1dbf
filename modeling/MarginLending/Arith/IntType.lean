import MarginLending.Arith.Power
/-! Fixed-width integer types.

Every quantity of the kernel has a declared width: a number of bits that is a positive multiple of
eight, and a signedness. The type's range is the two's complement range of that width; a value
belongs to the type when it lies in the range. Arithmetic and casts are checked against it.
-/

set_option autoImplicit false

namespace MarginLending.Arith

/-- A fixed-width integer type. The width is a positive multiple of eight bits. -/
structure IntType where
  name : String
  bits : Nat
  signed : Bool
  bits_pos : 0 < bits := by decide
  bits_aligned : bits % 8 = 0 := by decide
  deriving DecidableEq

namespace IntType

def min (t : IntType) : Int :=
  if t.signed then -((2 ^ (t.bits - 1) : Nat) : Int) else 0

def max (t : IntType) : Int :=
  if t.signed then ((2 ^ (t.bits - 1) : Nat) : Int) - 1 else ((2 ^ t.bits : Nat) : Int) - 1

def Contains (t : IntType) (v : Int) : Prop := t.min ≤ v ∧ v ≤ t.max

instance (t : IntType) (v : Int) : Decidable (t.Contains v) :=
  inferInstanceAs (Decidable (t.min ≤ v ∧ v ≤ t.max))

def contains (t : IntType) (v : Int) : Bool := decide (t.Contains v)

@[simp] theorem contains_iff (t : IntType) (v : Int) : t.contains v = true ↔ t.Contains v := by
  simp [contains]

def byteWidth (t : IntType) : Nat := t.bits / 8

theorem min_le_zero (t : IntType) : t.min ≤ 0 := by
  unfold min
  split
  · exact Int.neg_nonpos_of_nonneg (Int.natCast_nonneg _)
  · exact Int.le_refl 0

theorem zero_le_max (t : IntType) : 0 ≤ t.max := by
  unfold max
  have h₁ : (1 : Int) ≤ ((2 ^ (t.bits - 1) : Nat) : Int) := Int.ofNat_le.mpr Nat.one_le_two_pow
  have h₂ : (1 : Int) ≤ ((2 ^ t.bits : Nat) : Int) := Int.ofNat_le.mpr Nat.one_le_two_pow
  generalize ((2 ^ (t.bits - 1) : Nat) : Int) = x at *
  generalize ((2 ^ t.bits : Nat) : Int) = y at *
  split <;> omega

theorem contains_zero (t : IntType) : t.Contains 0 := ⟨t.min_le_zero, t.zero_le_max⟩

/-- A type built from a caller's width, refused unless the width is a positive multiple of
eight. -/
def make? (name : String) (bits : Int) (signed : Bool) : Option IntType :=
  if h : 0 < bits ∧ bits % 8 = 0 then
    some { name, bits := bits.toNat, signed, bits_pos := by omega, bits_aligned := by omega }
  else none

def u8 : IntType := { name := "u8", bits := 8, signed := false }
def u16 : IntType := { name := "u16", bits := 16, signed := false }
def u32 : IntType := { name := "u32", bits := 32, signed := false }
def u64 : IntType := { name := "u64", bits := 64, signed := false }
def u128 : IntType := { name := "u128", bits := 128, signed := false }
def u192 : IntType := { name := "u192", bits := 192, signed := false }
def u256 : IntType := { name := "u256", bits := 256, signed := false }
def i8 : IntType := { name := "i8", bits := 8, signed := true }
def i16 : IntType := { name := "i16", bits := 16, signed := true }
def i32 : IntType := { name := "i32", bits := 32, signed := true }
def i64 : IntType := { name := "i64", bits := 64, signed := true }
def i128 : IntType := { name := "i128", bits := 128, signed := true }

def named : List IntType := [u8, u16, u32, u64, u128, u192, u256, i8, i16, i32, i64, i128]

def byName? (name : String) : Option IntType := named.find? (·.name == name)

@[simp] theorem u16_min : u16.min = 0 := rfl
@[simp] theorem u16_max : u16.max = 65535 := rfl
@[simp] theorem u64_min : u64.min = 0 := rfl
@[simp] theorem u64_max : u64.max = 18446744073709551615 := rfl
@[simp] theorem u32_min : u32.min = 0 := rfl
@[simp] theorem u32_max : u32.max = 4294967295 := rfl
@[simp] theorem u128_min : u128.min = 0 := rfl
@[simp] theorem u128_max : u128.max = 340282366920938463463374607431768211455 := rfl
@[simp] theorem i64_min : i64.min = -9223372036854775808 := rfl
@[simp] theorem i64_max : i64.max = 9223372036854775807 := rfl
@[simp] theorem i128_min : i128.min = -170141183460469231731687303715884105728 := rfl
@[simp] theorem i128_max : i128.max = 170141183460469231731687303715884105727 := rfl

end IntType

end MarginLending.Arith

/-! Powers of naturals and integers.

Widths, limbs and float exponents are written as powers `2 ^ n` and `10 ^ n` of naturals and
integers. They are the core power, whatever algebra library is loaded beside the kernel, so that
its definitions mean the same wherever they are read.
-/

set_option autoImplicit false

namespace MarginLending

/-- The core power of a type with a power by naturals, preferred over any other, also as the
default that fixes the type of a literal exponent (an algebra library may declare its own). -/
@[default_instance 20000]
instance (priority := 1100) corePow {α : Type} [NatPow α] : Pow α Nat := instPowNat

end MarginLending

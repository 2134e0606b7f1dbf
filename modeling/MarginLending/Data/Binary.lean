import MarginLending.Arith.Power
/-! The exact value of a binary64 float.

A finite float is `m · 2^e` for an integer `m` and an integer `e`; the bit pattern gives both.
Integral floats are accepted where integers are expected, and float bounds are compared with
integer bounds exactly, so both rest on this decoding rather than on float arithmetic.
-/

set_option autoImplicit false

namespace MarginLending.Data

/-- The exact number `num · 2^exp`. -/
structure Binary where
  num : Int
  exp : Int
  deriving DecidableEq, Repr

namespace Binary

def ofFloat (x : Float) : Option Binary :=
  let bits := x.toBits.toNat
  let frac : Int := ((bits % 2 ^ 52 : Nat) : Int)
  let biased : Nat := bits / 2 ^ 52 % 2 ^ 11
  let negative : Bool := bits / 2 ^ 63 % 2 == 1
  let sign : Int := if negative then -1 else 1
  if biased = 2047 then none
  else if biased = 0 then some ⟨sign * frac, -1074⟩
  else some ⟨sign * (frac + 2 ^ 52), (biased : Int) - 1075⟩

/-- Whether a float is an infinity, and then whether it is the negative one. -/
def infinity? (x : Float) : Option Bool :=
  let bits := x.toBits.toNat
  if bits / 2 ^ 52 % 2 ^ 11 = 2047 ∧ bits % 2 ^ 52 = 0 then some (bits / 2 ^ 63 % 2 == 1)
  else none

def toInt? (d : Binary) : Option Int :=
  if 0 ≤ d.exp then some (d.num * 2 ^ d.exp.toNat)
  else
    let scale : Int := 2 ^ (-d.exp).toNat
    if d.num % scale = 0 then some (d.num / scale) else none

def compareInt (d : Binary) (n : Int) : Ordering :=
  if 0 ≤ d.exp then compare (d.num * 2 ^ d.exp.toNat) n
  else compare d.num (n * 2 ^ (-d.exp).toNat)

end Binary

end MarginLending.Data

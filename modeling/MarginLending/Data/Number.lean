import MarginLending.Data.Value
import MarginLending.Data.Binary

/-! Numbers held by data.

Integers, booleans and floats are all numbers: a boolean counts as `0` or `1`, and a float by
its exact binary value, so that an integer and a float compare exactly, never through a
rounded conversion. The infinities lie beyond every finite number, and NaN is unordered: every
comparison with it is false.
-/

set_option autoImplicit false

namespace MarginLending.Data

inductive Number where
  | exact (b : Binary)
  | posInf
  | negInf
  | nan
  deriving DecidableEq, Repr

namespace Binary

def ofInt (n : Int) : Binary := ⟨n, 0⟩

/-- Compares two binary numbers exactly, on the finer of their two scales. -/
def compare (a b : Binary) : Ordering :=
  let e := min a.exp b.exp
  Ord.compare (a.num * 2 ^ (a.exp - e).toNat) (b.num * 2 ^ (b.exp - e).toNat)

end Binary

namespace Number

def ofFloat (x : Float) : Number :=
  match Binary.ofFloat x with
  | some b => .exact b
  | none =>
    match Binary.infinity? x with
    | some true => .negInf
    | some false => .posInf
    | none => .nan

def ofInt (n : Int) : Number := .exact (Binary.ofInt n)

/-- How two numbers compare; `none` when either is NaN. -/
def compare? : Number → Number → Option Ordering
  | .nan, _ | _, .nan => none
  | .exact a, .exact b => some (a.compare b)
  | .exact _, .posInf | .negInf, .exact _ | .negInf, .posInf => some .lt
  | .exact _, .negInf | .posInf, .exact _ | .posInf, .negInf => some .gt
  | .posInf, .posInf | .negInf, .negInf => some .eq

def toInt? : Number → Option Int
  | .exact b => b.toInt?
  | _ => none

end Number

namespace Value

def number? : Value → Option Number
  | .bool b => some (.ofInt (if b then 1 else 0))
  | .int n => some (.ofInt n)
  | .float x => some (.ofFloat x)
  | _ => none

/-- The truth value of a datum in a condition: null, false, zero (NaN is not zero) and empty
texts, lists and objects are false; everything else is true. -/
def truthy : Value → Bool
  | .null => false
  | .bool b => b
  | .int n => n != 0
  | .float x => !(Binary.ofFloat x).any (·.num == 0)
  | .str s => !s.isEmpty
  | .unpaired ps => !ps.isEmpty
  | .arr xs => !xs.isEmpty
  | .obj fs => !fs.isEmpty

end Value

end MarginLending.Data

import MarginLending.Data.Binary

/-! The shortest decimal that reads back as a given float.

A positive finite float `m · 2^e` is the value that every real number in its rounding interval
reads back as: the interval runs half-way to each neighbouring float, and its ends belong to it
when `m` is even (ties go to the even neighbour). The shortest decimal is found on the decimal
grids of 1, 2, ... 17 significant digits: on the first grid that has a point inside the
interval, the point nearest to the float is taken (an exact tie goes to the even digit), and
trailing zeros are dropped. All arithmetic is exact on natural numbers.
-/

set_option autoImplicit false

namespace MarginLending.Data

structure Decimal where
  digits : Nat
  exponent : Int
  deriving DecidableEq, Repr

namespace Shortest

structure Ratio where
  num : Nat
  den : Nat
  deriving Repr

def Ratio.shift (q : Ratio) (k : Int) : Ratio :=
  if 0 ≤ k then ⟨q.num * 10 ^ k.toNat, q.den⟩ else ⟨q.num, q.den * 10 ^ (-k).toNat⟩

def digitCount (n : Nat) : Nat := (Nat.toDigits 10 n).length

def leadExponent (q : Ratio) : Int :=
  -- `q.num / q.den` has `digitCount` digits when `q ≥ 1`; otherwise count the zeros after the
  -- point from the digit counts of numerator and denominator and correct by one
  let guess : Int := (digitCount q.num : Int) - (digitCount q.den : Int)
  -- `10^(guess - 1) ≤ q < 10^(guess + 1)`, so one comparison decides
  let atGuess := q.shift (-guess)
  if atGuess.num ≥ atGuess.den then guess else guess - 1

/-- The rounding interval of the float `m · 2^e` (with `m > 0`) in units of `2^(e-2)`: its low
end, the float itself and its high end. The gap below halves when `m` is the smallest mantissa
of a binade above the subnormals. -/
def interval (m : Nat) (e : Int) : Nat × Nat × Nat :=
  let low := if m = 2 ^ 52 ∧ e > -1074 then 4 * m - 1 else 4 * m - 2
  (low, 4 * m, 4 * m + 2)

def units (x : Nat) (e : Int) : Ratio :=
  if 2 ≤ e then ⟨x * 2 ^ (e - 2).toNat, 1⟩ else ⟨x, 2 ^ (2 - e).toNat⟩

/-- The point of the grid `10^k` nearest to `q`, an exact tie going to the even point. -/
def nearest (q : Ratio) (k : Int) : Nat :=
  let s := q.shift (-k)
  let d := s.num / s.den
  let r := s.num % s.den
  if 2 * r < s.den then d else if 2 * r > s.den then d + 1 else if d % 2 = 0 then d else d + 1

/-- The points of the grid `10^k` inside the interval from `lo` to `hi`, as the least and the
greatest multiplier; the ends count only when `closed`. -/
def gridRange (lo hi : Ratio) (k : Int) (closed : Bool) : Nat × Nat :=
  let l := lo.shift (-k)
  let h := hi.shift (-k)
  let first := if l.num % l.den = 0 then (if closed then l.num / l.den else l.num / l.den + 1)
    else l.num / l.den + 1
  let last := if h.num % h.den = 0 then (if closed then h.num / h.den else h.num / h.den - 1)
    else h.num / h.den
  (first, last)

def trim : Nat → Decimal → Decimal
  | 0, d => d
  | fuel + 1, d =>
    if d.digits ≠ 0 ∧ d.digits % 10 = 0 then trim fuel ⟨d.digits / 10, d.exponent + 1⟩ else d

/-- The first grid, of `n` significant digits for `n` from `first` on, that has a point inside
the interval, and the point on it nearest to the value. -/
def search (lo v hi : Ratio) (lead : Int) (closed : Bool) : (fuel : Nat) → (n : Nat) → Decimal
  | 0, _ => ⟨0, 0⟩
  | fuel + 1, n =>
    let k := lead - (n : Int) + 1
    let (first, last) := gridRange lo hi k closed
    if first ≤ last then
      let d := nearest v k
      let d := if d < first then first else if last < d then last else d
      trim 400 ⟨d, k⟩
    else search lo v hi lead closed fuel (n + 1)

end Shortest

open Shortest in
/-- The shortest decimal reading back as the positive finite float `m · 2^e`. -/
def Decimal.shortest (m : Nat) (e : Int) : Decimal :=
  let (l, x, h) := interval m e
  let v := units x e
  search (units l e) v (units h e) (leadExponent v) (m % 2 = 0) 17 1

end MarginLending.Data

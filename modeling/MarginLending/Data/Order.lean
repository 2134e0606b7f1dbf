import MarginLending.Data.Number

/-! How data compare.

Numbers compare by value, exactly and across kinds (`1 == 1.0 == true`); NaN equals nothing and
is neither below nor above anything. Texts compare character by character by code point, lists
item by item: at the first pair of unequal items the comparison is that pair's, and when one
list is a prefix of the other the shorter comes first. Objects are equal when they have the same
fields with equal values, but have no order. Any other pair has no order either, and asking for
one is an error that names the relation and the two kinds, left first.
-/

set_option autoImplicit false

namespace MarginLending.Data

inductive Relation where
  | lt
  | le
  | gt
  | ge
  deriving DecidableEq, Repr

namespace Relation

def symbol : Relation → String
  | lt => "<"
  | le => "<="
  | gt => ">"
  | ge => ">="

def holds : Relation → Ordering → Bool
  | lt, o => o == .lt
  | le, o => o != .gt
  | gt, o => o == .gt
  | ge, o => o != .lt

end Relation

structure Incomparable where
  relation : Relation
  left : String
  right : String
  deriving DecidableEq, Repr

/-- Compares two lists of code points item by item; a list that is a prefix of the other comes
first. -/
def comparePoints : List Nat → List Nat → Ordering
  | [], [] => .eq
  | [], _ :: _ => .lt
  | _ :: _, [] => .gt
  | p :: ps, q :: qs => if p = q then comparePoints ps qs else compare p q

namespace Value

mutual

/-- Equality of data. A `String` never equals a text with an unpaired surrogate. -/
def equals : Value → Value → Bool
  | .null, .null => true
  | .str a, .str b => a == b
  | .unpaired a, .unpaired b => a == b
  | .arr xs, .arr ys => itemsEqual xs ys
  | .obj fs, .obj gs => fs.length == gs.length && fieldsWithin fs gs
  | a, b =>
    match a.number?, b.number? with
    | some x, some y => x.compare? y == some .eq
    | _, _ => false

def itemsEqual : List Value → List Value → Bool
  | [], [] => true
  | x :: xs, y :: ys => equals x y && itemsEqual xs ys
  | _, _ => false

def fieldsWithin : List (String × Value) → List (String × Value) → Bool
  | [], _ => true
  | (k, x) :: rest, gs =>
    (match gs.lookup k with
      | some y => equals x y
      | none => false) && fieldsWithin rest gs

end

mutual

def relate (r : Relation) : Value → Value → Except Incomparable Bool
  | .str a, .str b => .ok (r.holds (Ord.compare a b))
  | .arr xs, .arr ys => relateItems r xs ys
  | a, b =>
    match a.points?, b.points? with
    | some p, some q => .ok (r.holds (comparePoints p q))
    | _, _ =>
      match a.number?, b.number? with
      | some x, some y => .ok ((x.compare? y).any r.holds)
      | _, _ => .error ⟨r, a.kindName, b.kindName⟩

/-- Two lists in relation `r`: decided by the first pair of unequal items, else by length. -/
def relateItems (r : Relation) : List Value → List Value → Except Incomparable Bool
  | [], [] => .ok (r.holds .eq)
  | [], _ :: _ => .ok (r.holds .lt)
  | _ :: _, [] => .ok (r.holds .gt)
  | x :: xs, y :: ys => if equals x y then relateItems r xs ys else relate r x y

end

/-- The larger of two data, as `max` picks it: the second only if it is greater than the first. -/
def larger (a b : Value) : Except Incomparable Value := do
  if ← relate .gt b a then pure b else pure a

def smaller (a b : Value) : Except Incomparable Value := do
  if ← relate .lt b a then pure b else pure a

theorem relate_int (r : Relation) (a b : Int) :
    relate r (.int a) (.int b) = .ok (r.holds (Ord.compare a b)) := by
  simp [relate, points?, number?, Number.ofInt, Number.compare?, Binary.ofInt, Binary.compare]

end Value

end MarginLending.Data

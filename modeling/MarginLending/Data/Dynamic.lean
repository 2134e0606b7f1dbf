import MarginLending.Failure
import MarginLending.Data.Order

/-! Operations on data whose kind is known only when they run.

The kernel's arguments arrive as data of any kind, and its functions order, measure and search
them as they come. This module gives each such operation its rule and its failure: ordering
(`compareBy`, `larger`, `smaller`), the absolute value, iteration, length, membership of a name,
subscripting by a name, and lookup in a table keyed by data. Each names the kinds involved when
they do not support it.
-/

set_option autoImplicit false

namespace MarginLending.Data

def isInfix {α : Type} [BEq α] (key : List α) : List α → Bool
  | [] => key.isEmpty
  | c :: rest => (key.isPrefixOf (c :: rest)) || isInfix key rest

namespace Value

def compareBy (r : Relation) (a b : Value) : Except Failure Bool :=
  (relate r a b).mapError fun i => .unordered i.relation.symbol i.left i.right

/-- The larger of two data, as `max` picks it: the second only if it is greater than the
first. -/
def largerOf (a b : Value) : Except Failure Value := do
  if ← compareBy .gt b a then pure b else pure a

/-- The smaller of two data, as `min` picks it: the second only if it is less than the
first. -/
def smallerOf (a b : Value) : Except Failure Value := do
  if ← compareBy .lt b a then pure b else pure a

/-- The absolute value of a number; a boolean counts as `0` or `1`. -/
def absolute : Value → Except Failure Value
  | .int n => .ok (.int n.natAbs)
  | .bool b => .ok (.int (if b then 1 else 0))
  | .float x => .ok (.float x.abs)
  | v => .error (.noAbsolute v.kindName)

/-- The items an iteration over a datum visits: the characters of a text, the items of a list,
the names of an object. -/
def items : Value → Except Failure (List Value)
  | .str s => .ok (s.toList.map fun c => .str (String.singleton c))
  | .unpaired ps => .ok (ps.map fun p => ofPoints [p])
  | .arr xs => .ok xs
  | .obj fs => .ok (fs.map fun f => .str f.1)
  | v => .error (.notIterable v.kindName)

def size : Value → Except Failure Nat
  | .str s => .ok s.length
  | .unpaired ps => .ok ps.length
  | .arr xs => .ok xs.length
  | .obj fs => .ok fs.length
  | v => .error (.noLength v.kindName)

def hasName (key : String) : Value → Except Failure Bool
  | .str s => .ok (isInfix key.toList s.toList)
  | .unpaired ps => .ok (isInfix (key.toList.map Char.toNat) ps)
  | .arr xs => .ok (xs.any (equals (.str key)))
  | .obj fs => .ok (fs.any (·.1 == key))
  | v => .error (.noMembers v.kindName)

def nameAt (key : String) : Value → Except Failure Value
  | .obj fs =>
    match fs.lookup key with
    | some v => .ok v
    | none => .error (.keyMissing (quoteText key))
  | .str _ | .unpaired _ => .error (.subscript "string indices must be integers, not 'str'")
  | .arr _ => .error (.subscript "list indices must be integers or slices, not str")
  | v => .error (.notSubscriptable v.kindName)

/-- The entry of `table` whose key equals the datum `key`, if any. Lists and objects cannot be
keys. -/
def lookupIn {α : Type} (table : List (Value × α)) (key : Value) : Except Failure (Option α) :=
  match key with
  | .arr _ | .obj _ => .error (.unhashable key.kindName)
  | _ => .ok ((table.find? fun entry => equals entry.1 key).map (·.2))

@[simp]
theorem compareBy_int (r : Relation) (a b : Int) :
    compareBy r (.int a) (.int b) = .ok (r.holds (Ord.compare a b)) := by
  rw [compareBy, relate_int]
  rfl

@[simp]
theorem equals_int (a b : Int) : (Value.int a).equals (.int b) = decide (a = b) := by
  simp [equals, number?, Number.ofInt, Number.compare?, Binary.ofInt, Binary.compare]
  cases h : compare a b <;> simp_all [Int.compare_eq_lt, Int.compare_eq_gt] <;> omega

theorem holds_gt_int (a b : Int) : Relation.gt.holds (compare b a) = decide (a < b) := by
  rcases Int.lt_trichotomy a b with lt | rfl | gt
  · simp [Relation.holds, Int.compare_eq_gt.mpr lt, lt]
  · simp [Relation.holds]
  · simp [Relation.holds, Int.compare_eq_lt.mpr gt, Int.not_lt.mpr (Int.le_of_lt gt)]

theorem holds_lt_int (a b : Int) : Relation.lt.holds (compare b a) = decide (b < a) := by
  rcases Int.lt_trichotomy a b with lt | rfl | gt
  · simp [Relation.holds, Int.compare_eq_gt.mpr lt, Int.not_lt.mpr (Int.le_of_lt lt)]
  · simp [Relation.holds]
  · simp [Relation.holds, Int.compare_eq_lt.mpr gt, gt]

theorem holds_le_int (a b : Int) : Relation.le.holds (compare a b) = decide (a ≤ b) := by
  rcases Int.lt_trichotomy a b with lt | rfl | gt
  · simp [Relation.holds, Int.compare_eq_lt.mpr lt, Int.le_of_lt lt]
  · simp [Relation.holds]
  · simp [Relation.holds, Int.compare_eq_gt.mpr gt, Int.not_le.mpr gt]

theorem holds_ge_int (a b : Int) : Relation.ge.holds (compare a b) = decide (b ≤ a) := by
  rcases Int.lt_trichotomy a b with lt | rfl | gt
  · simp [Relation.holds, Int.compare_eq_lt.mpr lt, Int.not_le.mpr lt]
  · simp [Relation.holds]
  · simp [Relation.holds, Int.compare_eq_gt.mpr gt, Int.le_of_lt gt]

@[simp]
theorem largerOf_int (a b : Int) : largerOf (.int a) (.int b) = .ok (.int (max a b)) := by
  simp only [largerOf, compareBy_int, holds_gt_int, bind, Except.bind, pure, Except.pure]
  by_cases h : a < b <;> simp [h, Int.max_def] <;> omega

@[simp]
theorem smallerOf_int (a b : Int) : smallerOf (.int a) (.int b) = .ok (.int (min a b)) := by
  simp only [smallerOf, compareBy_int, holds_lt_int, bind, Except.bind, pure, Except.pure]
  by_cases h : b < a
  · rw [if_pos (decide_eq_true h), Int.min_eq_right (Int.le_of_lt h)]
  · rw [if_neg (fun e => h (of_decide_eq_true e)), Int.min_eq_left (Int.not_lt.mp h)]

end Value

end MarginLending.Data

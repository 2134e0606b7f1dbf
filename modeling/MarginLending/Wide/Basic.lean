import MarginLending.Data.Dynamic

/-! Wide unsigned integers.

A `Wide` value is held as its little-endian 64-bit words, one for each 64 bits of its width,
each below `2 ^ 64`. A value is built from an integer of the width's type by cutting it into
words with shifts and masks, and read back as an integer by ORing the words, each shifted into
place. Narrowing to `u64` or `u128` never truncates.
-/

set_option autoImplicit false

namespace MarginLending

open Arith

/-- An unsigned integer of a wide width, held as its little-endian 64-bit words. -/
structure Wide where
  width : Wide.Width
  words : List Nat
  length_words : words.length = width.words
  words_lt : ∀ d ∈ words, d < 2 ^ 64

namespace Wide

def wordMask : Nat := 2 ^ 64 - 1

/-- The `i`-th word of `v`: `v` shifted down by `64 * i` bits and masked to one word. -/
def limb (v i : Nat) : Nat := (v >>> (64 * i)) &&& wordMask

theorem limb_lt (v i : Nat) : limb v i < 2 ^ 64 := by
  rw [limb, wordMask, Nat.and_two_pow_sub_one_eq_mod]
  exact Nat.mod_lt _ (Nat.two_pow_pos 64)

def cut (w : Width) (v : Nat) : Wide where
  width := w
  words := (List.range w.words).map (limb v)
  length_words := by simp
  words_lt := by
    intro d member
    obtain ⟨i, -, rfl⟩ := List.mem_map.mp member
    exact limb_lt v i

def ofInt? (w : Width) (v : Int) : Except Failure Wide :=
  if w.intType.Contains v then .ok (cut w v.toNat) else .error (.outOfWidth v w)

def zero (w : Width) : Wide := cut w 0

def maxOf (w : Width) : Wide := cut w w.intType.max.toNat

/-- The number whose little-endian words are `ns`: the words ORed together, each shifted
into place. -/
def orWords (ns : List Nat) : Nat :=
  ns.zipIdx.foldl (fun acc (d, i) => acc ||| (d <<< (64 * i))) 0

def toNat (x : Wide) : Nat := orWords x.words

def toInt (x : Wide) : Int := x.toNat

/-- One word given as data, at position `i`: it must compare between `0` and `2^64 - 1`, and
then shift into place, which only an integer (or a boolean) does. -/
def wordOfData (i : Nat) (v : Data.Value) : Except Failure Nat := do
  let inRange ← do
    if ← Data.Value.compareBy .le (.int 0) v then
      Data.Value.compareBy .le v (.int (2 ^ 64 - 1))
    else pure false
  if !inRange then throw (.wordRange i v.shown)
  match v with
  | .int n => pure n.toNat
  | .bool b => pure (if b then 1 else 0)
  | other => throw (.noShift other.kindName "int")

/-- The value whose words are given as data: the count is checked first, then each word in
order, and the value is built from the number the words make. -/
def ofWordData (w : Width) (ws : List Data.Value) : Except Failure Wide := do
  if ws.length ≠ w.words then throw (.wordCount w ws.length)
  let ns ← ws.zipIdx.mapM fun (v, i) => wordOfData i v
  ofInt? w (orWords ns)

def isZero (x : Wide) : Bool := !x.words.any (· != 0)

def repr (x : Wide) : String := x.width.label ++ "(" ++ toString x.toNat ++ ")"

def narrow? (x : Wide) (t : IntType) : Option Int :=
  if t.Contains x.toInt then some x.toInt else none

def narrow (x : Wide) (t : IntType) : Except Failure Int :=
  match x.narrow? t with
  | some v => .ok v
  | none => .error (.narrow x.width x.toNat t)

def arith (w : Width) (op : ArithOp) (a b : Int) : Except Failure Wide := do
  ofInt? w (← checkedOp w.intType op a b)

end Wide

end MarginLending

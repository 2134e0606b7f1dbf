import MarginLending.Data.Number
import MarginLending.Data.Shortest
import MarginLending.Text.Printable

/-! The text forms of data in messages and answers.

A float is written with the fewest significant digits that read back as it: positionally while
its decimal point falls between four places before the first digit and sixteen digits after it,
with `.0` when it is integral, and otherwise as a mantissa and a signed exponent of at least two
digits (`1e+16`, `-1.25e-07`). NaN and the infinities are `nan`, `inf` and `-inf`.

A quoted text stands between single quotes, or double quotes when it holds a single quote and no
double quote; the backslash and the chosen quote are escaped, tabs, line feeds and carriage
returns by letter, and every other character that is not printable by its code point in hex:
two digits below `0x100`, four below `0x10000`, eight above.

Quoting a datum writes `None`, `True` and `False`, numbers as above, texts quoted, and lists and
objects with their items quoted. Showing a datum is the same except that a text stands as it is.
-/

set_option autoImplicit false

namespace MarginLending.Data

def hexPadded (width n : Nat) : String :=
  let ds := Nat.toDigits 16 n
  String.ofList (List.replicate (width - ds.length) '0' ++ ds)

namespace Decimal

/-- The text of a positive decimal: positional when the decimal point falls no more than four
places before the first digit and no more than sixteen digits after it, otherwise a mantissa and
an exponent. -/
def text (d : Decimal) : String :=
  let ds := Nat.toDigits 10 d.digits
  -- the value is `0.ds × 10^point`
  let point : Int := (ds.length : Int) + d.exponent
  if point ≤ -4 ∨ 16 < point then
    let mantissa := match ds with
      | [c] => String.singleton c
      | c :: rest => String.ofList (c :: '.' :: rest)
      | [] => "0"
    let e := point - 1
    let sign := if e < 0 then "-" else "+"
    let mag := Nat.toDigits 10 e.natAbs
    mantissa ++ "e" ++ sign ++ String.ofList (List.replicate (2 - mag.length) '0' ++ mag)
  else if point ≤ 0 then
    "0." ++ String.ofList (List.replicate (-point).toNat '0' ++ ds)
  else if ds.length ≤ point.toNat then
    String.ofList (ds ++ List.replicate (point.toNat - ds.length) '0') ++ ".0"
  else
    String.ofList (ds.take point.toNat ++ '.' :: ds.drop point.toNat)

end Decimal

def floatText (x : Float) : String :=
  let bits := x.toBits.toNat
  let negative := bits / 2 ^ 63 % 2 == 1
  let sign := if negative then "-" else ""
  match Number.ofFloat x with
  | .nan => "nan"
  | .posInf => "inf"
  | .negInf => "-inf"
  | .exact b =>
    if b.num = 0 then sign ++ "0.0"
    else sign ++ (Decimal.shortest b.num.natAbs b.exp).text

def escapeChar (q c : Char) : String :=
  if c = q ∨ c = '\\' then String.ofList ['\\', c]
  else if c = '\t' then "\\t"
  else if c = '\n' then "\\n"
  else if c = '\r' then "\\r"
  else if Text.isPrintable c then String.singleton c
  else if c.toNat < 0x100 then "\\x" ++ hexPadded 2 c.toNat
  else if c.toNat < 0x10000 then "\\u" ++ hexPadded 4 c.toNat
  else "\\U" ++ hexPadded 8 c.toNat

def quoteText (s : String) : String :=
  let q := if s.contains '\'' ∧ !s.contains '"' then '"' else '\''
  String.singleton q ++ String.join (s.toList.map (escapeChar q)) ++ String.singleton q

/-- The escape of one code point inside a quoted text whose quote is `q`: a character as
`escapeChar` writes it, a surrogate by its four hexadecimal digits. -/
def escapePoint (q : Char) (n : Nat) : String :=
  if h : n.isValidChar then escapeChar q (Char.ofNatAux n h) else "\\u" ++ hexPadded 4 n

def quotePoints (ps : List Nat) : String :=
  let q := if ps.contains 0x27 ∧ !ps.contains 0x22 then '"' else '\''
  String.singleton q ++ String.join (ps.map (escapePoint q)) ++ String.singleton q

/-- The text of a list of code points, each surrogate replaced by U+FFFD. -/
def pointsText (ps : List Nat) : String :=
  String.ofList (ps.map fun n => if h : n.isValidChar then Char.ofNatAux n h else '\uFFFD')

namespace Value

mutual

def quoted : Value → String
  | .null => "None"
  | .bool b => if b then "True" else "False"
  | .int n => toString n
  | .float x => floatText x
  | .str s => quoteText s
  | .unpaired ps => quotePoints ps
  | .arr items => "[" ++ quotedItems items ++ "]"
  | .obj fields => "\x7b" ++ quotedFields fields ++ "\x7d"

def quotedItems : List Value → String
  | [] => ""
  | [x] => x.quoted
  | x :: rest => x.quoted ++ ", " ++ quotedItems rest

def quotedFields : List (String × Value) → String
  | [] => ""
  | [(k, x)] => quoteText k ++ ": " ++ x.quoted
  | (k, x) :: rest => quoteText k ++ ": " ++ x.quoted ++ ", " ++ quotedFields rest

end

/-- The shown form of a datum: a text as it is, anything else quoted. -/
def shown : Value → String
  | .str s => s
  | .unpaired ps => pointsText ps
  | v => v.quoted

end Value

end MarginLending.Data

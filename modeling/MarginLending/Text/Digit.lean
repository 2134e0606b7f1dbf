/-! Integer texts as the lenient snapshot reader spells them.

The reader takes ASCII decimal digits only. Before the digits are read, a leading plus sign is
dropped and the leading zeros are cut away together with the underscores among them; what is left
may hold single underscores between its characters, which are ignored. Cutting the zeros stops
at the first other digit or minus sign, so a minus sign may follow leading zeros (`0-5` reads as
`-5`). Blanks are the Unicode white space characters.
-/

set_option autoImplicit false

namespace MarginLending.Text

def isBlank (c : Char) : Bool :=
  (0x9 ≤ c.toNat ∧ c.toNat ≤ 0xd) ∨ c.toNat = 0x20 ∨ c.toNat = 0x85 ∨ c.toNat = 0xa0 ∨
    c.toNat = 0x1680 ∨ (0x2000 ≤ c.toNat ∧ c.toNat ≤ 0x200a) ∨ c.toNat = 0x2028 ∨
    c.toNat = 0x2029 ∨ c.toNat = 0x202f ∨ c.toNat = 0x205f ∨ c.toNat = 0x3000

def trimBy (p : Char → Bool) (s : String) : List Char :=
  ((s.toList.dropWhile p).reverse.dropWhile p).reverse

/-- The rest of a text once its run of zeros and underscores is cut, `last` being the last
character cut: the rest starts at the first other digit or minus sign; a point keeps the
character before it; a text of zeros and underscores keeps its last character; any other
character refuses the text. -/
def afterZeroRun : List Char → Char → Option (List Char)
  | [], last => some [last]
  | c :: rest, last =>
    if c = '0' ∨ c = '_' then afterZeroRun rest c
    else if c.isDigit ∨ c = '-' then some (c :: rest)
    else if c = '.' then some (last :: c :: rest)
    else none

/-- The text without its leading zeros: a text that starts with a zero is cut by
`afterZeroRun`; one that starts with another digit or a minus sign is kept; any other is
refused. -/
def withoutLeadingZeros : List Char → Option (List Char)
  | '0' :: rest => afterZeroRun rest '0'
  | c :: rest => if c.isDigit ∨ c = '-' then some (c :: rest) else none
  | [] => none

/-- The text without its underscores, which must each stand alone and neither first nor
last. -/
def withoutUnderscores (cs : List Char) : Option (List Char) :=
  if cs.head? = some '_' ∨ cs.getLast? = some '_' ∨ (cs.zip cs.tail).any (· = ('_', '_')) then
    none
  else some (cs.filter (· ≠ '_'))

def digitsValue? (cs : List Char) : Option Nat :=
  if cs.isEmpty ∨ !cs.all Char.isDigit then none
  else some (cs.foldl (fun acc c => acc * 10 + (c.toNat - '0'.toNat)) 0)

def signedDigits? : List Char → Option Int
  | '-' :: rest => (digitsValue? rest).map fun n => -(n : Int)
  | '+' :: rest => (digitsValue? rest).map Int.ofNat
  | cs => (digitsValue? cs).map Int.ofNat

/-- The integer a text spells: a leading plus sign dropped, the leading zeros cut, the
underscores removed, and then an optional sign and ASCII digits. -/
def readInteger? (cs : List Char) : Option Int := do
  let cs := match cs with
    | '+' :: rest => rest
    | _ => cs
  let cs ← withoutLeadingZeros cs
  let cs ← withoutUnderscores cs
  signedDigits? cs

end MarginLending.Text

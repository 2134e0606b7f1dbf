import MarginLending.Data.Value
import MarginLending.Data.Quoted

/-! JSON text for `Value`.

`Value.parse?` reads one document. A number with neither fraction nor exponent is an integer of
any size; any other number is rounded once to the nearest binary64 float. `NaN`, `Infinity` and
`-Infinity` are read as the floats they name. In an object a repeated name keeps its first
position and its last value. `Value.render` writes compact JSON with non-ASCII text left as is.
-/

set_option autoImplicit false

namespace MarginLending.Data

namespace Json

def skipBlank : List Char → List Char
  | c :: cs => if c = ' ' ∨ c = '\t' ∨ c = '\n' ∨ c = '\r' then skipBlank cs else c :: cs
  | [] => []

def hexDigit? (c : Char) : Option Nat :=
  if '0' ≤ c ∧ c ≤ '9' then some (c.toNat - '0'.toNat)
  else if 'a' ≤ c ∧ c ≤ 'f' then some (c.toNat - 'a'.toNat + 10)
  else if 'A' ≤ c ∧ c ≤ 'F' then some (c.toNat - 'A'.toNat + 10)
  else none

def hex4? (a b c d : Char) : Option Nat := do
  let w ← hexDigit? a
  let x ← hexDigit? b
  let y ← hexDigit? c
  let z ← hexDigit? d
  pure (((w * 16 + x) * 16 + y) * 16 + z)

/-- Reads the body of a string after its opening quote, up to and past the closing quote, as
its code points: an escaped surrogate pair is one point, and a surrogate escaped without its
partner is a point of its own. -/
def readString : List Nat → List Char → Option (List Nat × List Char)
  | acc, '"' :: rest => some (acc.reverse, rest)
  | acc, '\\' :: 'u' :: a :: b :: c :: d :: rest =>
    match hex4? a b c d with
    | none => none
    | some hi =>
      if 0xD800 ≤ hi ∧ hi < 0xDC00 then
        match _hrest : rest with
        | '\\' :: 'u' :: e :: f :: g :: h :: rest' =>
          match hex4? e f g h with
          | some lo =>
            if 0xDC00 ≤ lo ∧ lo < 0xE000 then
              readString ((0x10000 + (hi - 0xD800) * 0x400 + (lo - 0xDC00)) :: acc) rest'
            else readString (hi :: acc) rest
          | none => none
        | _ => readString (hi :: acc) rest
      else readString (hi :: acc) rest
  | acc, '\\' :: c :: rest =>
    match c with
    | '"' => readString (0x22 :: acc) rest
    | '\\' => readString (0x5c :: acc) rest
    | '/' => readString (0x2f :: acc) rest
    | 'b' => readString (0x08 :: acc) rest
    | 'f' => readString (0x0c :: acc) rest
    | 'n' => readString (0x0a :: acc) rest
    | 'r' => readString (0x0d :: acc) rest
    | 't' => readString (0x09 :: acc) rest
    | _ => none
  | acc, c :: rest => if c.toNat < 0x20 then none else readString (c.toNat :: acc) rest
  | _, [] => none
termination_by _ cs => cs.length
decreasing_by all_goals (try simp_all) <;> omega

def digitsValue (ds : List Char) : Nat :=
  ds.foldl (fun n d => n * 10 + (d.toNat - '0'.toNat)) 0

def readNumber (cs : List Char) : Option (Value × List Char) :=
  let (negative, cs) := match cs with
    | '-' :: rest => (true, rest)
    | _ => (false, cs)
  let whole := cs.takeWhile Char.isDigit
  let cs := cs.dropWhile Char.isDigit
  if whole.isEmpty then none else
  let (frac, cs, hasFrac) := match cs with
    | '.' :: rest => (rest.takeWhile Char.isDigit, rest.dropWhile Char.isDigit, true)
    | _ => ([], cs, false)
  if hasFrac ∧ frac.isEmpty then none else
  let (expo, cs, hasExp) : Int × List Char × Bool := match cs with
    | e :: rest =>
      if e = 'e' ∨ e = 'E' then
        let (expNeg, rest) := match rest with
          | '-' :: r => (true, r)
          | '+' :: r => (false, r)
          | r => (false, r)
        let ds := rest.takeWhile Char.isDigit
        let v : Int := digitsValue ds
        (if expNeg then -v else v, if ds.isEmpty then e :: rest else rest.dropWhile Char.isDigit,
          !ds.isEmpty)
      else (0, cs, false)
    | [] => (0, [], false)
  if !hasFrac ∧ !hasExp then
    let n : Int := digitsValue whole
    some (.int (if negative then -n else n), cs)
  else
    let mantissa := digitsValue (whole ++ frac)
    let scale : Int := expo - frac.length
    let magnitude := Float.ofScientific mantissa (decide (scale < 0)) scale.natAbs
    some (.float (if negative then -magnitude else magnitude), cs)

mutual

/-- Reads one value; `fuel` bounds the nesting work and is computed by `Value.parse?`. -/
def readValue : Nat → List Char → Option (Value × List Char)
  | 0, _ => none
  | fuel + 1, cs =>
    match skipBlank cs with
    | 'n' :: 'u' :: 'l' :: 'l' :: rest => some (.null, rest)
    | 't' :: 'r' :: 'u' :: 'e' :: rest => some (.bool true, rest)
    | 'f' :: 'a' :: 'l' :: 's' :: 'e' :: rest => some (.bool false, rest)
    | 'N' :: 'a' :: 'N' :: rest => some (.float (0.0 / 0.0), rest)
    | 'I' :: 'n' :: 'f' :: 'i' :: 'n' :: 'i' :: 't' :: 'y' :: rest => some (.float (1.0 / 0.0), rest)
    | '-' :: 'I' :: 'n' :: 'f' :: 'i' :: 'n' :: 'i' :: 't' :: 'y' :: rest =>
      some (.float (-1.0 / 0.0), rest)
    | '"' :: rest => (readString [] rest).map fun (ps, r) => (Value.ofPoints ps, r)
    | '[' :: rest =>
      match skipBlank rest with
      | ']' :: r => some (.arr [], r)
      | _ => readItems fuel rest []
    | '\x7b' :: rest =>
      match skipBlank rest with
      | '\x7d' :: r => some (.obj [], r)
      | _ => readFields fuel rest []
    | other => readNumber other

def readItems : Nat → List Char → List Value → Option (Value × List Char)
  | 0, _, _ => none
  | fuel + 1, cs, acc =>
    match readValue fuel cs with
    | none => none
    | some (v, rest) =>
      match skipBlank rest with
      | ',' :: r => readItems fuel r (v :: acc)
      | ']' :: r => some (.arr (v :: acc).reverse, r)
      | _ => none

def readFields : Nat → List Char → List (String × Value) → Option (Value × List Char)
  | 0, _, _ => none
  | fuel + 1, cs, acc =>
    match skipBlank cs with
    | '"' :: rest =>
      match readString [] rest with
      | none => none
      | some (ps, rest) =>
        let key := pointsText ps
        match skipBlank rest with
        | ':' :: rest =>
          match readValue fuel rest with
          | none => none
          | some (v, rest) =>
            match skipBlank rest with
            | ',' :: r => readFields fuel r ((key, v) :: acc)
            | '\x7d' :: r => some (Value.objOf ((key, v) :: acc).reverse, r)
            | _ => none
        | _ => none
    | _ => none

end

end Json

namespace Value

def parse? (text : String) : Option Value :=
  let cs := text.toList
  match Json.readValue (2 * cs.length + 2) cs with
  | some (v, rest) => if (Json.skipBlank rest).isEmpty then some v else none
  | none => none

def hex4 (n : Nat) : String :=
  let d := fun (k : Nat) => "0123456789abcdef".toList.getD (n / 16 ^ k % 16) '0'
  String.ofList [d 3, d 2, d 1, d 0]

/-- The escape of one code point inside JSON quotes: quote, backslash and control characters
escaped, a surrogate by its four hexadecimal digits, any other character as it is. -/
def escapeInJson (n : Nat) : String :=
  if n = 0x22 then "\\\""
  else if n = 0x5c then "\\\\"
  else if n = 0x0a then "\\n"
  else if n = 0x0d then "\\r"
  else if n = 0x09 then "\\t"
  else if n < 0x20 then "\\u" ++ hex4 n
  else if h : n.isValidChar then String.singleton (Char.ofNatAux n h)
  else "\\u" ++ hex4 n

def quotePointsInJson (ps : List Nat) : String :=
  "\"" ++ String.join (ps.map escapeInJson) ++ "\""

def quote (s : String) : String :=
  quotePointsInJson (s.toList.map Char.toNat)

def intText (n : Int) : String :=
  if n < 0 then "-" ++ toString n.natAbs else toString n.natAbs

mutual

/-- Compact JSON text. A float is written as it is quoted, except that NaN and the infinities
are written `NaN`, `Infinity` and `-Infinity`. -/
def render : Value → String
  | .null => "null"
  | .bool b => if b then "true" else "false"
  | .int n => intText n
  | .float x =>
    match Number.ofFloat x with
    | .nan => "NaN"
    | .posInf => "Infinity"
    | .negInf => "-Infinity"
    | .exact _ => floatText x
  | .str s => quote s
  | .unpaired ps => quotePointsInJson ps
  | .arr items => "[" ++ renderItems items ++ "]"
  | .obj fields => "\x7b" ++ renderFields fields ++ "\x7d"

def renderItems : List Value → String
  | [] => ""
  | [x] => render x
  | x :: rest => render x ++ "," ++ renderItems rest

def renderFields : List (String × Value) → String
  | [] => ""
  | [(k, x)] => quote k ++ ":" ++ render x
  | (k, x) :: rest => quote k ++ ":" ++ render x ++ "," ++ renderFields rest

end

end Value

end MarginLending.Data

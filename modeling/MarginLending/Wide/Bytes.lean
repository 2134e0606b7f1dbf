import MarginLending.Wide.Basic

/-! The byte form of wide values.

A wide value is written word by word, each word as its eight little-endian bytes, so it takes
exactly `byteWidth` bytes. Reading cuts the first `byteWidth` bytes of a buffer into eight-byte
chunks, reads each as a word and builds the value from the words; it hands back the rest of the
buffer. A shorter buffer is refused.
-/

set_option autoImplicit false

namespace MarginLending

namespace Wide

def ofBytesLE : List UInt8 → Nat
  | [] => 0
  | b :: rest => b.toNat + 256 * ofBytesLE rest

def wordBytes (d : Nat) : List UInt8 := (List.range 8).map fun j => (d / 256 ^ j % 256).toUInt8

/-- The bytes of the value: the bytes of each word, least significant word first. -/
def toBytes (x : Wide) : List UInt8 := x.words.flatMap wordBytes

/-- The `i`-th word of a buffer: its bytes `8 * i` to `8 * i + 7`, little-endian. -/
def chunkWord (buf : List UInt8) (i : Nat) : Nat := ofBytesLE ((buf.drop (8 * i)).take 8)

/-- Reads a value from the start of a buffer and returns it with the unread rest. -/
def deserialize (w : Width) (buf : List UInt8) : Except Failure (Wide × List UInt8) :=
  if buf.length < w.byteWidth then .error (.shortBuffer w buf.length)
  else do
    let words := (List.range w.words).map (chunkWord buf)
    let x ← ofWordData w (words.map fun (d : Nat) => .int d)
    pure (x, buf.drop w.byteWidth)

def ofBytes (w : Width) (buf : List UInt8) : Except Failure Wide :=
  (deserialize w buf).map Prod.fst

end Wide

end MarginLending

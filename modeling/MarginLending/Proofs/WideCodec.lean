import Mathlib.Data.Nat.Digits.Lemmas
import MarginLending.Wide.Bytes
import MarginLending.Proofs.Checked

/-! The three forms of a wide value and the conversions between them.

A wide value is held as its words. Read back, the words OR together to the number they denote
in base `2^64`: each word is below `2^64` and shifted past the words before it, so each OR is an
addition. Cut from a number, the words are its first digits in base `2^64`. Written out, the
eight bytes of each word are its digits in base `256`, so the bytes of a value are the first
digits of its number in base `256`; read back chunk by chunk, a buffer's words denote the number
its first bytes denote. All these digit lists are the number's `Nat.digits` padded with zeros,
and a list of digits of a given length is determined by the number it denotes
(`Nat.ofDigits_inj_of_len_eq`).

From this follow the round trips: a number through its words or its bytes and back, and a buffer
through the value read from its start and back to bytes. Building from words succeeds exactly for
the right number of words, each below `2^64`.
-/

set_option autoImplicit false

open Nat (ofDigits)

namespace MarginLending

open Arith

/-! ## Fixed-length digit lists -/

theorem ofDigits_range_digits (b n k : ℕ) :
    ofDigits b ((List.range k).map fun i => n / b ^ i % b) = n % b ^ k := by
  induction k with
  | zero => simp [Nat.mod_one]
  | succ k ih =>
    rw [List.range_succ, List.map_append, List.map_singleton, Nat.ofDigits_append,
      Nat.ofDigits_singleton, ih, List.length_map, List.length_range, Nat.mod_pow_succ]

theorem range_digits_lt {b : ℕ} (hb : 1 < b) (n k : ℕ) :
    ∀ d ∈ (List.range k).map (fun i => n / b ^ i % b), d < b := by
  intro d member
  obtain ⟨i, -, rfl⟩ := List.mem_map.mp member
  exact Nat.mod_lt _ (by omega)

theorem range_digits_eq_padded {b n k : ℕ} (hb : 1 < b) (small : n < b ^ k) :
    (List.range k).map (fun i => n / b ^ i % b) =
      Nat.digits b n ++ List.replicate (k - (Nat.digits b n).length) 0 := by
  have fits : (Nat.digits b n).length ≤ k := (Nat.digits_length_le_iff hb n).mpr small
  have paddedDigits : ∀ d ∈ Nat.digits b n ++ List.replicate (k - (Nat.digits b n).length) 0,
      d < b := by
    intro d member
    rcases List.mem_append.mp member with digit | zero
    · exact Nat.digits_lt_base hb digit
    · rw [List.eq_of_mem_replicate zero]
      omega
  -- two digit lists of one length that denote the same number are equal
  apply Nat.ofDigits_inj_of_len_eq hb _ (range_digits_lt hb n k) paddedDigits
  · rw [ofDigits_range_digits, Nat.ofDigits_append_replicate_zero, Nat.ofDigits_digits,
      Nat.mod_eq_of_lt small]
  · simp only [List.length_map, List.length_range, List.length_append, List.length_replicate]
    omega

theorem range_digits_ofDigits {b : ℕ} (hb : 1 < b) (l : List ℕ) (digits : ∀ d ∈ l, d < b) :
    (List.range l.length).map (fun i => ofDigits b l / b ^ i % b) = l := by
  apply Nat.ofDigits_inj_of_len_eq hb _ (range_digits_lt hb _ _) digits
  · rw [ofDigits_range_digits, Nat.mod_eq_of_lt (Nat.ofDigits_lt_base_pow_length hb digits)]
  · simp

namespace Wide

theorem Width.intType_contains_iff (w : Width) (v : Int) :
    w.intType.Contains v ↔ 0 ≤ v ∧ v < 2 ^ w.bits := by
  cases w <;>
    simp [Width.intType, Width.bits, Width.words, IntType.u192, IntType.u256, IntType.Contains,
      IntType.min, IntType.max] <;>
    omega

theorem Width.pow_bits (w : Width) : (2 : ℕ) ^ w.bits = (2 ^ 64) ^ w.words := by
  rw [Width.bits, pow_mul]

theorem Width.pow_byteWidth (w : Width) : (256 : ℕ) ^ w.byteWidth = 2 ^ w.bits := by
  cases w <;> norm_num [Width.byteWidth, Width.bits, Width.words]

/-! ## The value of the words -/

theorem or_shiftLeft_eq_add {acc k : ℕ} (below : acc < 2 ^ k) (d : ℕ) :
    acc ||| d <<< k = acc + 2 ^ k * d := by
  rw [Nat.or_comm, ← Nat.shiftLeft_add_eq_or_of_lt below, Nat.shiftLeft_eq, Nat.mul_comm,
    Nat.add_comm]

theorem foldl_or_words {ns : List ℕ} (digits : ∀ d ∈ ns, d < 2 ^ 64) (start acc : ℕ)
    (below : acc < 2 ^ (64 * start)) :
    (ns.zipIdx start).foldl (fun acc (d, i) => acc ||| (d <<< (64 * i))) acc =
      acc + 2 ^ (64 * start) * ofDigits (2 ^ 64) ns := by
  induction ns generalizing start acc with
  | nil => simp
  | cons d ns ih =>
    have word : d < 2 ^ 64 := digits d List.mem_cons_self
    have rest : ∀ d ∈ ns, d < 2 ^ 64 := fun d member => digits d (List.mem_cons_of_mem _ member)
    -- after this word the accumulator stays below the next word's bits
    have next : acc + 2 ^ (64 * start) * d < 2 ^ (64 * (start + 1)) :=
      calc acc + 2 ^ (64 * start) * d < 2 ^ (64 * start) + 2 ^ (64 * start) * d :=
            Nat.add_lt_add_right below _
        _ = 2 ^ (64 * start) * (d + 1) := by ring
        _ ≤ 2 ^ (64 * start) * 2 ^ 64 := Nat.mul_le_mul_left _ word
        _ = 2 ^ (64 * (start + 1)) := by ring
    simp only [List.zipIdx_cons, List.foldl_cons]
    rw [or_shiftLeft_eq_add below, ih rest (start + 1) _ next, Nat.ofDigits_cons]
    ring

/-- Words below `2^64`, ORed together, make the number they denote in base `2^64`. -/
theorem orWords_eq_ofDigits {ns : List ℕ} (digits : ∀ d ∈ ns, d < 2 ^ 64) :
    orWords ns = ofDigits (2 ^ 64) ns := by
  simpa [orWords] using foldl_or_words digits 0 0 (Nat.two_pow_pos _)

theorem toNat_eq_ofDigits (x : Wide) : x.toNat = ofDigits (2 ^ 64) x.words :=
  orWords_eq_ofDigits x.words_lt

theorem toNat_lt_words (x : Wide) : x.toNat < (2 ^ 64) ^ x.width.words := by
  rw [toNat_eq_ofDigits, ← x.length_words]
  exact Nat.ofDigits_lt_base_pow_length (by norm_num) x.words_lt

theorem orWords_lt {w : Width} {ns : List ℕ} (count : ns.length = w.words)
    (digits : ∀ d ∈ ns, d < 2 ^ 64) : orWords ns < 2 ^ w.bits := by
  rw [orWords_eq_ofDigits digits, Width.pow_bits, ← count]
  exact Nat.ofDigits_lt_base_pow_length (by norm_num) digits

theorem toNat_lt (x : Wide) : x.toNat < 2 ^ x.width.bits :=
  orWords_lt x.length_words x.words_lt

/-! ## Cutting a number into words -/

theorem limb_eq (v i : ℕ) : limb v i = v / (2 ^ 64) ^ i % 2 ^ 64 := by
  rw [limb, wordMask, Nat.and_two_pow_sub_one_eq_mod, Nat.shiftRight_eq_div_pow, pow_mul]

theorem cut_words (w : Width) (v : ℕ) :
    (cut w v).words = (List.range w.words).map fun i => v / (2 ^ 64) ^ i % 2 ^ 64 := by
  simp only [cut]
  congr 1
  funext i
  exact limb_eq v i

theorem cut_toNat {w : Width} {v : ℕ} (small : v < 2 ^ w.bits) : (cut w v).toNat = v := by
  rw [toNat_eq_ofDigits, cut_words, ofDigits_range_digits,
    Nat.mod_eq_of_lt (by rwa [← Width.pow_bits])]

theorem words_eq_range_digits (x : Wide) :
    x.words = (List.range x.width.words).map fun i => x.toNat / (2 ^ 64) ^ i % 2 ^ 64 := by
  rw [toNat_eq_ofDigits, ← x.length_words, range_digits_ofDigits (by norm_num) _ x.words_lt]

theorem words_eq_digits (x : Wide) :
    x.words = Nat.digits (2 ^ 64) x.toNat ++
      List.replicate (x.width.words - (Nat.digits (2 ^ 64) x.toNat).length) 0 := by
  rw [words_eq_range_digits, range_digits_eq_padded (by norm_num) x.toNat_lt_words]

theorem ext_toNat {x y : Wide} (width : x.width = y.width) (value : x.toNat = y.toNat) :
    x = y := by
  have words : x.words = y.words := by
    rw [words_eq_range_digits, words_eq_range_digits y, width, value]
  cases x
  cases y
  cases width
  cases words
  rfl

theorem cut_self (x : Wide) : cut x.width x.toNat = x :=
  ext_toNat rfl (cut_toNat x.toNat_lt)

theorem ofInt?_of_lt {w : Width} {n : ℕ} (small : n < 2 ^ w.bits) :
    ofInt? w n = .ok (cut w n) := by
  have contained : w.intType.Contains n :=
    (Width.intType_contains_iff w n).mpr ⟨Int.natCast_nonneg n, by exact_mod_cast small⟩
  rw [ofInt?, if_pos contained, Int.toNat_natCast]

theorem ofInt?_eq_ok {w : Width} {v : Int} (small : 0 ≤ v ∧ v < 2 ^ w.bits) :
    ∃ x, ofInt? w v = .ok x ∧ x.width = w ∧ x.toNat = v.toNat := by
  have below : v.toNat < 2 ^ w.bits := by
    have : (v.toNat : Int) < 2 ^ w.bits := by rw [Int.toNat_of_nonneg small.1]; exact small.2
    exact_mod_cast this
  refine ⟨cut w v.toNat, ?_, rfl, cut_toNat below⟩
  rw [← ofInt?_of_lt below, Int.toNat_of_nonneg small.1]

theorem ofInt?_toNat (x : Wide) : ofInt? x.width x.toNat = .ok x := by
  rw [ofInt?_of_lt x.toNat_lt, cut_self]

/-! ## Words given as data -/

theorem wordOfData_int_eq_ok (i : ℕ) (v : Int) (n : ℕ) :
    wordOfData i (.int v) = .ok n ↔ (0 ≤ v ∧ v < 2 ^ 64) ∧ n = v.toNat := by
  simp only [wordOfData, Data.Value.compareBy_int, Data.Value.holds_le_int, bind, Except.bind,
    pure, Except.pure]
  -- the bounds are compared as literals, so each case is stated as one
  by_cases low : 0 ≤ v
  · by_cases high : v ≤ 18446744073709551615
    · have below : v < 18446744073709551616 := by omega
      simp [low, high, below, eq_comm]
    · have above : ¬ v < 18446744073709551616 := by omega
      simp [low, high, above, throw, throwThe, MonadExceptOf.throw]
  · simp [low, throw, throwThe, MonadExceptOf.throw]

theorem mapM_wordOfData_int (ws : List Int) (start : ℕ) (ns : List ℕ) :
    ((ws.map Data.Value.int).zipIdx start).mapM (fun p => wordOfData p.2 p.1) = .ok ns ↔
      (∀ v ∈ ws, 0 ≤ v ∧ v < 2 ^ 64) ∧ ns = ws.map Int.toNat := by
  induction ws generalizing start ns with
  | nil =>
    simp only [List.map_nil, List.zipIdx_nil, List.mapM_nil, pure, Except.pure, Except.ok.injEq]
    simp [eq_comm]
  | cons v ws ih =>
    simp only [List.map_cons, List.zipIdx_cons, List.mapM_cons, except_bind_eq_ok, ih,
      wordOfData_int_eq_ok, pure, Except.pure, Except.ok.injEq, List.forall_mem_cons]
    constructor
    · rintro ⟨n, ⟨inRange, rfl⟩, ns', ⟨rest, rfl⟩, rfl⟩
      exact ⟨⟨inRange, rest⟩, rfl⟩
    · rintro ⟨⟨inRange, rest⟩, rfl⟩
      exact ⟨_, ⟨inRange, rfl⟩, _, ⟨rest, rfl⟩, rfl⟩

theorem ofWordData_int_ok_iff (w : Width) (ws : List Int) :
    (∃ x, ofWordData w (ws.map .int) = .ok x) ↔
      ws.length = w.words ∧ ∀ v ∈ ws, 0 ≤ v ∧ v < 2 ^ 64 := by
  unfold ofWordData
  simp only [List.length_map]
  by_cases count : ws.length = w.words
  · rw [if_neg (not_not.mpr count)]
    simp only [except_bind_eq_ok]
    constructor
    · rintro ⟨x, ns, words, -⟩
      exact ⟨count, ((mapM_wordOfData_int ws 0 ns).mp words).1⟩
    · rintro ⟨-, inRange⟩
      have digits : ∀ d ∈ ws.map Int.toNat, d < 2 ^ 64 := by
        intro d member
        obtain ⟨v, mem, rfl⟩ := List.mem_map.mp member
        have := inRange v mem
        omega
      -- the words make a number below `2 ^ bits`, which the width holds
      have bound := orWords_lt ((List.length_map _).trans count) digits
      exact ⟨_, _, (mapM_wordOfData_int ws 0 _).mpr ⟨inRange, rfl⟩, ofInt?_of_lt bound⟩
  · rw [if_pos count]
    simp [count, throw, throwThe, MonadExceptOf.throw, bind, Except.bind]

theorem ofWordData_nat {w : Width} {ns : List ℕ} (count : ns.length = w.words)
    (digits : ∀ d ∈ ns, d < 2 ^ 64) :
    ofWordData w (ns.map fun (d : ℕ) => .int d) = .ok (cut w (orWords ns)) := by
  have asInts : ns.map (fun (d : ℕ) => Data.Value.int d) =
      (ns.map fun (d : ℕ) => (d : Int)).map Data.Value.int := by
    rw [List.map_map]
    rfl
  have inRange : ∀ v ∈ ns.map (fun (d : ℕ) => (d : Int)), 0 ≤ v ∧ v < 2 ^ 64 := by
    intro v member
    obtain ⟨d, mem, rfl⟩ := List.mem_map.mp member
    exact ⟨Int.natCast_nonneg d, by exact_mod_cast digits d mem⟩
  have back : (ns.map fun (d : ℕ) => (d : Int)).map Int.toNat = ns := by
    simp [List.map_map, Function.comp_def]
  have words := (mapM_wordOfData_int _ 0 _).mpr ⟨inRange, rfl⟩
  unfold ofWordData
  rw [asInts, List.length_map, List.length_map, count, if_neg (not_not.mpr rfl)]
  simp only [bind, Except.bind, words, back, ofInt?_of_lt (orWords_lt count digits)]

theorem ofWordData_words (x : Wide) :
    ofWordData x.width (x.words.map fun (d : ℕ) => .int d) = .ok x := by
  rw [ofWordData_nat x.length_words x.words_lt, ← toNat, cut_self]

/-! ## Bytes -/

theorem ofBytesLE_eq_ofDigits (l : List UInt8) :
    ofBytesLE l = ofDigits 256 (l.map UInt8.toNat) := by
  induction l with
  | nil => rfl
  | cons d l ih => rw [ofBytesLE, ih, List.map_cons, Nat.ofDigits_cons]

theorem byte_digits (l : List UInt8) : ∀ d ∈ l.map UInt8.toNat, d < 256 := by
  intro d member
  obtain ⟨b, -, rfl⟩ := List.mem_map.mp member
  exact b.toNat_lt

theorem ofBytesLE_append (l l' : List UInt8) :
    ofBytesLE (l ++ l') = ofBytesLE l + 256 ^ l.length * ofBytesLE l' := by
  rw [ofBytesLE_eq_ofDigits, List.map_append, Nat.ofDigits_append, ← ofBytesLE_eq_ofDigits,
    ← ofBytesLE_eq_ofDigits, List.length_map]

theorem ofBytesLE_lt (l : List UInt8) : ofBytesLE l < 256 ^ l.length := by
  have digits := byte_digits l
  have bound := Nat.ofDigits_lt_base_pow_length (by norm_num) digits
  rw [List.length_map] at bound
  rwa [ofBytesLE_eq_ofDigits]

theorem wordBytes_toNat (d : ℕ) :
    (wordBytes d).map UInt8.toNat = (List.range 8).map fun j => d / 256 ^ j % 256 := by
  simp [wordBytes, UInt8.toNat_ofNat']

theorem length_wordBytes (d : ℕ) : (wordBytes d).length = 8 := by
  simp [wordBytes]

theorem ofBytesLE_wordBytes {d : ℕ} (word : d < 2 ^ 64) : ofBytesLE (wordBytes d) = d := by
  rw [ofBytesLE_eq_ofDigits, wordBytes_toNat, ofDigits_range_digits,
    Nat.mod_eq_of_lt (by norm_num; exact word)]

theorem ofBytesLE_flatMap_wordBytes {ns : List ℕ} (digits : ∀ d ∈ ns, d < 2 ^ 64) :
    ofBytesLE (ns.flatMap wordBytes) = ofDigits (2 ^ 64) ns := by
  induction ns with
  | nil => rfl
  | cons d ns ih =>
    have rest : ∀ d ∈ ns, d < 2 ^ 64 := fun d member => digits d (List.mem_cons_of_mem _ member)
    rw [List.flatMap_cons, ofBytesLE_append, ofBytesLE_wordBytes (digits d List.mem_cons_self),
      ih rest, length_wordBytes, Nat.ofDigits_cons]
    norm_num

theorem ofBytesLE_toBytes (x : Wide) : ofBytesLE x.toBytes = x.toNat := by
  rw [toBytes, ofBytesLE_flatMap_wordBytes x.words_lt, toNat_eq_ofDigits]

theorem toBytes_length (x : Wide) : x.toBytes.length = x.width.byteWidth := by
  simp [toBytes, List.length_flatMap, length_wordBytes, x.length_words, Width.byteWidth,
    Nat.mul_comm]

/-- The bytes of a value, written word by word, are the first digits in base `256` of its
number. -/
theorem toBytes_toNat (x : Wide) :
    x.toBytes.map UInt8.toNat = (List.range x.width.byteWidth).map fun i =>
      x.toNat / 256 ^ i % 256 := by
  have digits := byte_digits x.toBytes
  conv_lhs => rw [← range_digits_ofDigits (by norm_num) _ digits]
  rw [← ofBytesLE_eq_ofDigits, ofBytesLE_toBytes, List.length_map, toBytes_length]

theorem toBytes_eq_of_ofBytesLE {x : Wide} {bs : List UInt8}
    (length : bs.length = x.width.byteWidth) (value : ofBytesLE bs = x.toNat) : x.toBytes = bs := by
  have digits := byte_digits bs
  have digitsOf := range_digits_ofDigits (by norm_num) _ digits
  rw [List.length_map, ← ofBytesLE_eq_ofDigits, value, length] at digitsOf
  apply List.map_injective_iff.mpr (fun a b same => UInt8.toNat_inj.mp same)
  rw [toBytes_toNat, digitsOf]

/-! ## Reading a buffer -/

theorem chunkWord_lt (buf : List UInt8) (i : ℕ) : chunkWord buf i < 2 ^ 64 :=
  calc chunkWord buf i < 256 ^ ((buf.drop (8 * i)).take 8).length := ofBytesLE_lt _
    _ ≤ 256 ^ 8 := Nat.pow_le_pow_right (by norm_num) (List.length_take_le _ _)
    _ = 2 ^ 64 := by norm_num

theorem ofDigits_chunkWords (buf : List UInt8) (k : ℕ) (long : 8 * k ≤ buf.length) :
    ofDigits (2 ^ 64) ((List.range k).map (chunkWord buf)) = ofBytesLE (buf.take (8 * k)) := by
  induction k generalizing buf with
  | zero => simp [ofBytesLE]
  | succ k ih =>
    -- the first chunk, then the chunks of the buffer after it
    have shifted : (List.range k).map (chunkWord buf ∘ Nat.succ) =
        (List.range k).map (chunkWord (buf.drop 8)) := by
      congr 1
      funext i
      rw [Function.comp_apply, chunkWord, chunkWord, List.drop_drop,
        show 8 * i.succ = 8 + 8 * i by omega]
    have first : (buf.take 8).length = 8 := by simp; omega
    rw [List.range_succ_eq_map, List.map_cons, List.map_map, shifted, Nat.ofDigits_cons,
      ih (buf.drop 8) (by simp; omega), show 8 * (k + 1) = 8 + 8 * k by ring, List.take_add,
      ofBytesLE_append, first]
    simp [chunkWord]

/-- Reading a buffer of at least `byteWidth` bytes chunk by chunk gives the value its first
`byteWidth` bytes make, and hands back the rest. -/
theorem deserialize_eq {w : Width} {buf : List UInt8} (long : w.byteWidth ≤ buf.length) :
    deserialize w buf = .ok (cut w (ofBytesLE (buf.take w.byteWidth)), buf.drop w.byteWidth) := by
  have digits : ∀ d ∈ (List.range w.words).map (chunkWord buf), d < 2 ^ 64 := by
    intro d member
    obtain ⟨i, -, rfl⟩ := List.mem_map.mp member
    exact chunkWord_lt buf i
  have value : orWords ((List.range w.words).map (chunkWord buf)) =
      ofBytesLE (buf.take w.byteWidth) := by
    rw [orWords_eq_ofDigits digits, ofDigits_chunkWords buf w.words long, Width.byteWidth]
  have read := ofWordData_nat
    (by simp : ((List.range w.words).map (chunkWord buf)).length = w.words) digits
  simp only [deserialize, show ¬ buf.length < w.byteWidth by omega, if_false, read, value, bind,
    Except.bind, pure, Except.pure]

theorem deserialize_of_le {w : Width} {buf : List UInt8} (long : w.byteWidth ≤ buf.length) :
    ∃ x, deserialize w buf = .ok (x, buf.drop w.byteWidth) ∧
      x.toBytes = buf.take w.byteWidth := by
  have taken : (buf.take w.byteWidth).length = w.byteWidth := by simp [long]
  have small : ofBytesLE (buf.take w.byteWidth) < 2 ^ w.bits := by
    have bound := ofBytesLE_lt (buf.take w.byteWidth)
    rwa [taken, Width.pow_byteWidth] at bound
  exact ⟨_, deserialize_eq long, toBytes_eq_of_ofBytesLE taken (cut_toNat small).symm⟩

theorem deserialize_of_lt {w : Width} {buf : List UInt8} (short : buf.length < w.byteWidth) :
    deserialize w buf = .error (.shortBuffer w buf.length) := by
  simp [deserialize, short]

theorem ofBytes_toBytes (x : Wide) : ofBytes x.width x.toBytes = .ok x := by
  have whole : x.toBytes.take x.width.byteWidth = x.toBytes := by
    rw [List.take_of_length_le (by rw [toBytes_length])]
  simp only [ofBytes, deserialize_eq (le_of_eq x.toBytes_length.symm), whole, ofBytesLE_toBytes,
    cut_self, Except.map]

end Wide

/-- The integer, word and byte forms of wide values convert into each other without loss. For
either width and every `v` in `[0, 2^(64·words))`, building a value from `v` succeeds and gives
back `v`; its words are the base-`2^64` digits of `v` padded with zeros to the width, and
building from them gives the same value; it has exactly `byteWidth` bytes, and reading them gives
the same value. Conversely, reading a buffer of at least `byteWidth` bytes gives a value whose
bytes are the buffer's first `byteWidth` and hands back the rest, and a shorter buffer is a
conversion failure. Building from integer words succeeds exactly when there is one per 64 bits
and each lies in `[0, 2^64)`. -/
theorem wide_codec_round_trips (w : Wide.Width) :
    (∀ v : Int, 0 ≤ v → v < 2 ^ (64 * w.words) →
      ∃ x, Wide.ofInt? w v = .ok x ∧ x.toInt = v ∧
        x.words = Nat.digits (2 ^ 64) v.toNat ++
          List.replicate (w.words - (Nat.digits (2 ^ 64) v.toNat).length) 0 ∧
        Wide.ofWordData w (x.words.map fun (d : ℕ) => .int d) = .ok x ∧
        x.toBytes.length = w.byteWidth ∧ Wide.ofBytes w x.toBytes = .ok x) ∧
    (∀ buf : List UInt8, w.byteWidth ≤ buf.length →
      ∃ x, Wide.deserialize w buf = .ok (x, buf.drop w.byteWidth) ∧
        x.toBytes = buf.take w.byteWidth) ∧
    (∀ buf : List UInt8, buf.length < w.byteWidth →
      Wide.deserialize w buf = .error (.shortBuffer w buf.length) ∧
        (Failure.shortBuffer w buf.length).kind = "BigNumberConversionError") ∧
    (∀ ws : List Int, (∃ x, Wide.ofWordData w (ws.map .int) = .ok x) ↔
      ws.length = w.words ∧ ∀ v ∈ ws, 0 ≤ v ∧ v < 2 ^ 64) := by
  refine ⟨fun v low high => ?_, fun _ long => Wide.deserialize_of_le long,
    fun _ short => ⟨Wide.deserialize_of_lt short, rfl⟩, Wide.ofWordData_int_ok_iff w⟩
  obtain ⟨x, built, rfl, value⟩ := Wide.ofInt?_eq_ok ⟨low, high⟩
  refine ⟨x, built, ?_, ?_, x.ofWordData_words, x.toBytes_length, x.ofBytes_toBytes⟩
  · simp only [Wide.toInt, value, Int.toNat_of_nonneg low]
  · rw [x.words_eq_digits, value]

end MarginLending

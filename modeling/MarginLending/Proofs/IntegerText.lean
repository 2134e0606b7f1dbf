import MarginLending.Text.Digit

/-! The integers that texts spell.

The reader reads back every integer as it is printed: an optional minus sign and the decimal
digits of its absolute value. Before it reads the digits it cuts a leading run of zeros and
underscores, which ends at the first other digit or at a minus sign, so a minus sign may follow
leading zeros. Past that run an underscore must stand alone between two characters: two in a
row refuse the text.
-/

set_option autoImplicit false

namespace MarginLending.Text

/-! ## Digits -/

theorem digitsValue?_eq {cs : List Char} (nonempty : cs ≠ [])
    (digits : ∀ c ∈ cs, c.isDigit = true) : digitsValue? cs = some (Nat.ofDigitChars 10 cs 0) := by
  have all : cs.all Char.isDigit = true := List.all_eq_true.mpr digits
  have present : cs.isEmpty = false := List.isEmpty_eq_false_iff.mpr nonempty
  rw [digitsValue?, if_neg (by simp only [present, all, Bool.not_true, Bool.false_eq_true,
    or_self, not_false_eq_true]), Nat.ofDigitChars_eq_foldl]
  congr 2
  funext acc c
  rw [Nat.mul_comm]

theorem toDigits_isDigit (m : Nat) : ∀ c ∈ Nat.toDigits 10 m, c.isDigit = true :=
  fun _ member => Nat.isDigit_of_mem_toDigits (by decide) (by decide) member

theorem digitsValue?_toDigits (m : Nat) : digitsValue? (Nat.toDigits 10 m) = some m := by
  rw [digitsValue?_eq Nat.toDigits_ne_nil (toDigits_isDigit m), Nat.ofDigitChars_ten_toDigits]

theorem toDigits_head_ne_zero {m : Nat} (positive : 0 < m) :
    (Nat.toDigits 10 m).head? ≠ some '0' := by
  induction m using Nat.strongRecOn with
  | ind m ih =>
    by_cases small : m < 10
    · have nonzero : ∀ k, k < 10 → 0 < k → Nat.digitChar k ≠ '0' := by decide
      rw [Nat.toDigits_of_lt_base small, List.head?_cons]
      exact fun same => nonzero m small positive (Option.some.inj same)
    · -- the leading digits are those of `m / 10`, which is positive
      have lead := ih (m / 10) (by omega) (by omega)
      obtain ⟨d, ds, digits⟩ :=
        List.exists_cons_of_ne_nil (Nat.toDigits_ne_nil (b := 10) (n := m / 10))
      rw [digits, List.head?_cons] at lead
      rwa [Nat.toDigits_of_base_le (by decide) (by omega), digits, List.cons_append,
        List.head?_cons]

theorem ne_of_isDigit {c : Char} (digit : c.isDigit = true) : c ≠ '-' ∧ c ≠ '+' ∧ c ≠ '_' := by
  refine ⟨?_, ?_, ?_⟩ <;>
  · rintro rfl
    exact absurd digit (by decide)

theorem signedDigits?_of_digit {c : Char} (digit : c.isDigit = true) (rest : List Char) :
    signedDigits? (c :: rest) = (digitsValue? (c :: rest)).map Int.ofNat := by
  obtain ⟨notMinus, notPlus, -⟩ := ne_of_isDigit digit
  rw [signedDigits?.eq_3 _ (fun rest same => notMinus (List.cons.inj same).1)
    (fun rest same => notPlus (List.cons.inj same).1)]

theorem ne_of_start {c : Char} (start : c.isDigit ∧ c ≠ '0' ∨ c = '-') :
    c ≠ '0' ∧ c ≠ '_' ∧ c ≠ '+' := by
  rcases start with ⟨digit, nonzero⟩ | rfl
  · obtain ⟨-, notPlus, notUnderscore⟩ := ne_of_isDigit digit
    exact ⟨nonzero, notUnderscore, notPlus⟩
  · decide

/-! ## The sign -/

theorem readInteger?_plus (rest : List Char) :
    readInteger? ('+' :: rest) =
      (withoutLeadingZeros rest).bind fun cs => (withoutUnderscores cs).bind signedDigits? :=
  rfl

theorem readInteger?_of_ne_plus {c : Char} (notPlus : c ≠ '+') (rest : List Char) :
    readInteger? (c :: rest) = (withoutLeadingZeros (c :: rest)).bind fun cs =>
      (withoutUnderscores cs).bind signedDigits? := by
  unfold readInteger?
  split
  · next same => exact absurd (List.cons.inj same).1 notPlus
  · rfl

/-! ## Underscores -/

theorem mem_zip_tail (front back : List Char) (a b : Char) :
    (a, b) ∈ (front ++ a :: b :: back).zip (front ++ a :: b :: back).tail := by
  induction front with
  | nil => simp
  | cons x front ih =>
    cases front with
    | nil => simp
    | cons y front =>
      simp only [List.cons_append, List.tail_cons, List.zip_cons_cons] at ih ⊢
      exact List.mem_cons_of_mem _ ih

theorem withoutUnderscores_of_not_mem {cs : List Char} (none : '_' ∉ cs) :
    withoutUnderscores cs = some cs := by
  have first : cs.head? ≠ some '_' := fun head => none (List.mem_of_mem_head? head)
  have last : cs.getLast? ≠ some '_' := fun tail => none (List.mem_of_getLast? tail)
  have pairs : (cs.zip cs.tail).any (· = ('_', '_')) = false := by
    rw [List.any_eq_false]
    intro p member same
    simp only [decide_eq_true_eq] at same
    rw [same] at member
    exact none (List.of_mem_zip member).1
  rw [withoutUnderscores, if_neg (by simp only [first, last, pairs, Bool.false_eq_true,
    or_self, not_false_eq_true]), List.filter_eq_self.mpr]
  intro c member
  simp only [ne_eq, decide_eq_true_eq]
  exact fun underscore => none (underscore ▸ member)

theorem withoutUnderscores_doubled (front back : List Char) :
    withoutUnderscores (front ++ '_' :: '_' :: back) = none := by
  have pair := mem_zip_tail front back '_' '_'
  rw [withoutUnderscores, if_pos (.inr (.inr (List.any_eq_true.mpr ⟨_, pair, by simp⟩)))]

/-! ## The leading zeros -/

theorem withoutLeadingZeros_of_start {c : Char} (start : c.isDigit ∧ c ≠ '0' ∨ c = '-')
    (rest : List Char) : withoutLeadingZeros (c :: rest) = some (c :: rest) := by
  have kept : c.isDigit = true ∨ c = '-' := start.imp And.left id
  rw [withoutLeadingZeros.eq_2 c rest (ne_of_start start).1, if_pos kept]

theorem afterZeroRun_append {z : List Char} (run : ∀ c ∈ z, c = '0' ∨ c = '_') {c : Char}
    (start : c.isDigit ∧ c ≠ '0' ∨ c = '-') (rest : List Char) (last : Char) :
    afterZeroRun (z ++ c :: rest) last = some (c :: rest) := by
  induction z generalizing last with
  | nil =>
    have kept : c.isDigit = true ∨ c = '-' := start.imp And.left id
    have other : ¬(c = '0' ∨ c = '_') := not_or.mpr ⟨(ne_of_start start).1, (ne_of_start start).2.1⟩
    rw [List.nil_append, afterZeroRun, if_neg other, if_pos kept]
  | cons x z ih =>
    have cut : x = '0' ∨ x = '_' := run x List.mem_cons_self
    rw [List.cons_append, afterZeroRun, if_pos cut]
    exact ih (fun d member => run d (List.mem_cons_of_mem x member)) x

/-- The reader cuts a leading zero and the zeros and underscores after it, up to the first other
digit or a minus sign, also after a plus sign; what is left is read as it stands. -/
theorem readInteger?_zero_run {z : List Char} (run : ∀ c ∈ z, c = '0' ∨ c = '_') {c : Char}
    (start : c.isDigit ∧ c ≠ '0' ∨ c = '-') (rest : List Char) :
    readInteger? ('0' :: z ++ c :: rest) = (withoutUnderscores (c :: rest)).bind signedDigits? ∧
      readInteger? ('+' :: '0' :: z ++ c :: rest) =
        (withoutUnderscores (c :: rest)).bind signedDigits? := by
  have cut := afterZeroRun_append run start rest '0'
  constructor
  · rw [List.cons_append, readInteger?_of_ne_plus (by decide), withoutLeadingZeros.eq_1, cut,
      Option.bind_some]
  · rw [List.cons_append, List.cons_append, readInteger?_plus, withoutLeadingZeros.eq_1, cut,
      Option.bind_some]

example : readInteger? "0-5".toList = some (-5) := by decide
example : readInteger? "+0-7".toList = some (-7) := by decide
example : readInteger? "0__7".toList = some 7 := by decide
example : readInteger? "0-_2".toList = some (-2) := by decide

/-- Past the leading zeros, two underscores in a row refuse the text. -/
theorem readInteger?_doubled_underscore {c : Char} (start : c.isDigit ∧ c ≠ '0' ∨ c = '-')
    (front back : List Char) : readInteger? (c :: front ++ '_' :: '_' :: back) = none := by
  rw [List.cons_append, readInteger?_of_ne_plus (ne_of_start start).2.2,
    withoutLeadingZeros_of_start start, Option.bind_some, ← List.cons_append,
    withoutUnderscores_doubled, Option.bind_none]

example : readInteger? "1__0".toList = none := by decide

/-! ## Reading back printed integers -/

theorem readInteger?_toDigits (m : Nat) : readInteger? (Nat.toDigits 10 m) = some (m : Int) := by
  by_cases zero : m = 0
  · subst zero
    decide
  obtain ⟨c, rest, digits⟩ := List.exists_cons_of_ne_nil (Nat.toDigits_ne_nil (b := 10) (n := m))
  have digit : c.isDigit = true := toDigits_isDigit m c (digits ▸ List.mem_cons_self)
  have lead : c ≠ '0' := fun same =>
    toDigits_head_ne_zero (Nat.pos_of_ne_zero zero) (by rw [digits, same]; rfl)
  have start : c.isDigit ∧ c ≠ '0' ∨ c = '-' := .inl ⟨digit, lead⟩
  have none : '_' ∉ c :: rest := digits ▸ Nat.underscore_not_in_toDigits
  rw [digits, readInteger?_of_ne_plus (ne_of_start start).2.2, withoutLeadingZeros_of_start start,
    Option.bind_some, withoutUnderscores_of_not_mem none, Option.bind_some,
    signedDigits?_of_digit digit, ← digits, digitsValue?_toDigits]
  rfl

theorem readInteger?_minus_toDigits (m : Nat) :
    readInteger? ('-' :: Nat.toDigits 10 m) = some (-(m : Int)) := by
  have none : '_' ∉ '-' :: Nat.toDigits 10 m := fun member =>
    (List.mem_cons.mp member).elim (absurd · (by decide)) (Nat.underscore_not_in_toDigits ·)
  rw [readInteger?_of_ne_plus (by decide), withoutLeadingZeros_of_start (.inr rfl),
    Option.bind_some, withoutUnderscores_of_not_mem none, Option.bind_some, signedDigits?,
    digitsValue?_toDigits]
  rfl

/-- The reader reads back every integer as it is printed. -/
theorem readInteger?_toString (n : Int) : readInteger? (toString n).toList = some n := by
  rw [Int.toString_eq_repr, Int.repr_eq_if]
  split
  · next nonneg =>
    rw [Nat.toList_repr, readInteger?_toDigits, Int.toNat_of_nonneg nonneg]
  · next negative =>
    have minus : ("-" ++ (-n).toNat.repr).toList = '-' :: Nat.toDigits 10 (-n).toNat := by
      simp
    rw [minus, readInteger?_minus_toDigits, Int.toNat_of_nonneg (by omega), Int.neg_neg]

end MarginLending.Text

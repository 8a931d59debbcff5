import Triage.Proofs.Text.Lowercase
import Triage.Proofs.Text.Scan

/-!
# Integers as whole texts

Decimal digits with an optional sign write an integer, with leading zeros or without, and
are read as it.  Such a text is the same in lower case and is no word.
-/

namespace Triage.Text

variable {text digits : List Char} {value : Int} {c : Char}

/-! ## Texts of digits -/

/-- The text is made of digits. -/
structure IsNumeral (digits : List Char) : Prop where
  nonempty : digits ≠ []
  allDigits : ∀ c ∈ digits, c.isDigit = true

theorem isNumeral_decimal (number : Nat) : IsNumeral (decimal number) :=
  ⟨Nat.toDigits_ne_nil, fun _ => isDigit_of_mem_decimal number⟩

theorem numberOfDigits_decimal (number : Nat) : numberOfDigits (decimal number) = number :=
  Nat.ofDigitChars_ten_toDigits

/-- Digits are neither missing nor followed by anything else. -/
theorem IsNumeral.isWhole (numeral : IsNumeral digits) :
    (digits.isEmpty || !digits.all Char.isDigit) = false := by
  rw [Bool.or_eq_false_iff, List.isEmpty_eq_false_iff, Bool.not_eq_false', List.all_eq_true]
  exact ⟨numeral.nonempty, numeral.allDigits⟩

/-- A text of digits starts with one. -/
theorem IsNumeral.exists_eq_cons (numeral : IsNumeral digits) :
    ∃ first later, digits = first :: later ∧ first.isDigit = true := by
  cases digits with
  | nil => exact absurd rfl numeral.nonempty
  | cons first later => exact ⟨first, later, rfl, numeral.allDigits first List.mem_cons_self⟩

theorem signOf_of_isDigit {rest : List Char} (digit : c.isDigit = true) :
    signOf (c :: rest) = (false, c :: rest) := by
  have notSign : c ≠ '-' ∧ c ≠ '+' := by
    constructor <;>
      rintro rfl <;>
      contradiction
  rw [signOf]
  · exact fun later same => notSign.1 (List.cons.inj same).1
  · exact fun later same => notSign.2 (List.cons.inj same).1

theorem natural?_of_isNumeral (numeral : IsNumeral digits) :
    natural? digits = some (numberOfDigits digits) := by
  obtain ⟨first, later, rfl, digit⟩ := numeral.exists_eq_cons
  unfold natural?
  split
  · rename_i same
    rw [(List.cons.inj same).1] at digit
    contradiction
  · simp only [numeral.isWhole, Bool.false_eq_true, if_false]

/-! ## Texts of integers -/

/-- The text writes the integer in decimal digits, behind a sign or not. -/
inductive WritesInteger : List Char → Int → Prop
  | plain {digits : List Char} (numeral : IsNumeral digits) :
      WritesInteger digits (numberOfDigits digits)
  | plus {digits : List Char} (numeral : IsNumeral digits) :
      WritesInteger ('+' :: digits) (numberOfDigits digits)
  | minus {digits : List Char} (numeral : IsNumeral digits) :
      WritesInteger ('-' :: digits) (-numberOfDigits digits)

/-- An integer in decimal digits without leading zeros, behind a minus when it is
negative, is written as it should be. -/
theorem writesInteger_toString (value : Int) : WritesInteger (toString value).toList value := by
  cases value with
  | ofNat number =>
      have writes := WritesInteger.plain (isNumeral_decimal number)
      rw [numberOfDigits_decimal] at writes
      have letters : (toString (Int.ofNat number)).toList = decimal number := Nat.toList_repr
      rwa [letters]
  | negSucc number =>
      have writes := WritesInteger.minus (isNumeral_decimal (number + 1))
      rw [numberOfDigits_decimal] at writes
      have letters : (toString (Int.negSucc number)).toList = '-' :: decimal (number + 1) := by
        change ("-" ++ Nat.repr (number + 1)).toList = _
        rw [String.toList_append, Nat.toList_repr]
        rfl
      rwa [letters]

theorem integer?_of_writesInteger (writes : WritesInteger text value) :
    integer? text = some value := by
  cases writes with
  | plain numeral =>
      obtain ⟨first, later, isCons, digit⟩ := numeral.exists_eq_cons
      have unsigned : signOf text = (false, text) := by
        rw [isCons, signOf_of_isDigit digit]
      simp only [integer?, unsigned, numeral.isWhole, Bool.false_eq_true, if_false]
  | plus numeral =>
      simp only [integer?, signOf, numeral.isWhole, Bool.false_eq_true, if_false]
  | minus numeral =>
      simp only [integer?, signOf, numeral.isWhole, Bool.false_eq_true, if_false, if_true]

theorem integerWithin?_of_writesInteger {low high : Int} (writes : WritesInteger text value)
    (low_le : low ≤ value) (le_high : value ≤ high) :
    integerWithin? low high text = some value := by
  rw [integerWithin?, integer?_of_writesInteger writes, Option.filter_some,
    if_pos (by simp [low_le, le_high])]

/-! ## Words -/

/-- The characters of decimal integers. -/
def IsIntegerCharacter (c : Char) : Prop := c.isDigit = true ∨ c = '+' ∨ c = '-'

/-- Digits are in lower case. -/
theorem isLowerAscii_of_isDigit (digit : c.isDigit = true) : IsLowerAscii c := by
  have bounds : 48 ≤ c.toNat ∧ c.toNat ≤ 57 := by
    simpa [Char.isDigit, UInt32.le_iff_toNat_le] using digit
  refine ⟨by omega, dif_neg ?_⟩
  rw [ge_iff_le, UInt32.le_iff_toNat_le]
  intro capital
  have tooSmall : 65 ≤ 57 := Nat.le_trans capital.1 bounds.2
  contradiction

theorem IsIntegerCharacter.isLowerAscii (isCharacter : IsIntegerCharacter c) :
    IsLowerAscii c := by
  rcases isCharacter with digit | rfl | rfl
  · exact isLowerAscii_of_isDigit digit
  · decide
  · decide

theorem WritesInteger.isIntegerCharacter (writes : WritesInteger text value) :
    ∀ c ∈ text, IsIntegerCharacter c := by
  cases writes with
  | plain numeral => exact fun c isIn => .inl (numeral.allDigits c isIn)
  | plus numeral =>
      exact List.forall_mem_cons.mpr
        ⟨.inr (.inl rfl), fun c isIn => .inl (numeral.allDigits c isIn)⟩
  | minus numeral =>
      exact List.forall_mem_cons.mpr
        ⟨.inr (.inr rfl), fun c isIn => .inl (numeral.allDigits c isIn)⟩

/-- A text that starts with a digit is no word. -/
theorem ofList_ne_of_isDigit {first : Char} {later : List Char} {word : String}
    (digit : first.isDigit = true) (letter : word.toList.head?.any Char.isDigit = false) :
    String.ofList (first :: later) ≠ word := by
  rintro rfl
  rw [String.toList_ofList, List.head?_cons, Option.any_some, digit] at letter
  contradiction

end Triage.Text

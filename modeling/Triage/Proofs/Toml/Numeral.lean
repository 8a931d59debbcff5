import Triage.Toml.Numeral
import Triage.Proofs.Text.Scan

/-!
# Decimal integers in TOML

An integer that is written in decimal digits, with a minus in front of a negative one,
is read as that integer when it has 64 bits and is refused otherwise.
-/

namespace Triage.Toml

open Triage.Text

variable {rest digits : List Char} {c : Char}

/-- An integer in decimal digits, behind a minus when it is negative. -/
def integerLetters (value : Int) : List Char :=
  if value < 0 then '-' :: decimal value.natAbs else decimal value.natAbs

/-- A value ends before this text: nothing follows, or the sign of a list, or the end of
the line. -/
def EndsValue (rest : List Char) : Prop :=
  ∀ c ∈ rest.head?, c = ',' ∨ c = ']' ∨ c = '\n'

@[simp]
theorem endsValue_cons : EndsValue (c :: rest) ↔ c = ',' ∨ c = ']' ∨ c = '\n' := by
  simp [EndsValue]

/-! ## Digits -/

theorem isDigit_of_decimal_eq_cons {number : Nat} (isDecimal : decimal number = c :: digits) :
    c.isDigit = true :=
  isDigit_of_mem_decimal number (isDecimal ▸ List.mem_cons_self)

theorem numberInBase_decimal (number : Nat) : numberInBase 10 (decimal number) = number := by
  have same : ∀ (digits : List Char) (start : Nat), (∀ c ∈ digits, c.isDigit = true) →
      digits.foldl (fun number c => 10 * number + digitValueOf c) start =
        Nat.ofDigitChars 10 digits start := by
    intro digits
    induction digits with
    | nil => intros; rfl
    | cons c digits ih =>
        intro start allDigits
        rw [List.foldl_cons, Nat.ofDigitChars_cons, ih _ fun c isIn =>
          allDigits c (List.mem_cons_of_mem _ isIn)]
        rw [digitValueOf, if_pos (allDigits c List.mem_cons_self)]
  rw [numberInBase, same _ 0 fun c => isDigit_of_mem_decimal number]
  exact Nat.ofDigitChars_ten_toDigits

/-- There is a first digit, and only zero starts with the digit zero. -/
theorem exists_decimal_eq_cons (number : Nat) :
    ∃ first later, decimal number = first :: later ∧ (first = '0' → number = 0) := by
  induction number using Nat.strongRecOn with
  | ind number ih =>
      by_cases small : number < 10
      · have zeroDigit : ∀ number < 10, Nat.digitChar number = '0' → number = 0 := by decide
        exact ⟨_, [], Nat.toDigits_of_lt_base small, zeroDigit number small⟩
      · have front : decimal number =
            decimal (number / 10) ++ [Nat.digitChar (number % 10)] :=
          Nat.toDigits_of_base_le (by decide) (by omega)
        rcases ih (number / 10) (by omega) with ⟨first, later, isFront, onlyZero⟩
        refine ⟨first, later ++ [Nat.digitChar (number % 10)], ?_, ?_⟩
        · rw [front, isFront, List.cons_append]
        · intro zero
          have := onlyZero zero
          omega

/-- Digits are read up to the end of the value. -/
theorem moreDigits?_append (allDigits : ∀ c ∈ digits, c.isDigit = true)
    (ends : EndsValue rest) :
    moreDigits? Char.isDigit (digits ++ rest) = some (digits, rest) := by
  induction digits with
  | nil =>
      cases rest with
      | nil => rfl
      | cons c rest =>
          rcases endsValue_cons.mp ends with rfl | rfl | rfl <;> rfl
  | cons c digits ih =>
      have isDigit := allDigits c List.mem_cons_self
      have later := ih fun c isIn => allDigits c (List.mem_cons_of_mem _ isIn)
      rw [List.cons_append, moreDigits?, if_pos isDigit, later]
      · rfl
      · rintro rfl
        contradiction
      · rintro c rest rfl
        contradiction

theorem someDigits?_append (nonempty : digits ≠ [])
    (allDigits : ∀ c ∈ digits, c.isDigit = true) (ends : EndsValue rest) :
    someDigits? Char.isDigit (digits ++ rest) = some (digits, rest) := by
  cases digits with
  | nil => contradiction
  | cons c digits =>
      have later := moreDigits?_append (fun c isIn => allDigits c (List.mem_cons_of_mem _ isIn))
        ends
      rw [List.cons_append, someDigits?, if_pos (allDigits c List.mem_cons_self), later]
      rfl

theorem wholeDigits?_decimal (number : Nat) (ends : EndsValue rest) :
    wholeDigits? (decimal number ++ rest) = some (decimal number, rest) := by
  by_cases zero : number = 0
  · subst zero
    rfl
  · rcases exists_decimal_eq_cons number with ⟨first, later, isDecimal, onlyZero⟩
    have read := someDigits?_append Nat.toDigits_ne_nil
      (fun c => isDigit_of_mem_decimal number) ends
    rw [wholeDigits?]
    · exact read
    · intro rest startsWithZero
      rw [isDecimal, List.cons_append, List.cons.injEq] at startsWithZero
      exact zero (onlyZero startsWithZero.1)

/-! ## Numbers -/

theorem decimalNumber?_decimal (negative : Bool) (number : Nat) (ends : EndsValue rest) :
    decimalNumber? negative (decimal number ++ rest) =
      (integer? (if negative then -(number : Int) else number)).map (·, rest) := by
  rw [decimalNumber?, wholeDigits?_decimal number ends]
  simp only [Option.bind_eq_bind, Option.bind_some, numberInBase_decimal]
  cases rest with
  | nil => rfl
  | cons c rest =>
      rcases endsValue_cons.mp ends with rfl | rfl | rfl <;> rfl

theorem signedNumber?_decimal (negative : Bool) (number : Nat) (ends : EndsValue rest) :
    signedNumber? negative (decimal number ++ rest) =
      (integer? (if negative then -(number : Int) else number)).map (·, rest) := by
  rcases exists_decimal_eq_cons number with ⟨first, later, isDecimal, -⟩
  have isDigit := isDigit_of_decimal_eq_cons isDecimal
  rw [signedNumber?]
  · exact decimalNumber?_decimal negative number ends
  · intro rest infinite
    rw [isDecimal, List.cons_append, List.cons.injEq] at infinite
    rw [infinite.1] at isDigit
    contradiction
  · intro rest notANumber
    rw [isDecimal, List.cons_append, List.cons.injEq] at notANumber
    rw [notANumber.1] at isDigit
    contradiction

/-- A number that starts with another digit than zero has no sign and no other base. -/
theorem number?_cons (isDigit : c.isDigit = true) (notZero : c ≠ '0') :
    number? (c :: rest) = signedNumber? false (c :: rest) := by
  unfold number?
  split
  case h_1 | h_2 | h_3 => simp_all
  case h_4 same | h_5 same =>
    rw [(List.cons.inj same).1] at isDigit
    contradiction
  case h_6 => rfl

theorem number?_decimal (number : Nat) (ends : EndsValue rest) :
    number? (decimal number ++ rest) = (integer? number).map (·, rest) := by
  by_cases zero : number = 0
  · subst zero
    cases rest with
    | nil => rfl
    | cons c rest =>
        rcases endsValue_cons.mp ends with rfl | rfl | rfl <;> rfl
  · rcases exists_decimal_eq_cons number with ⟨first, later, isDecimal, onlyZero⟩
    have read := signedNumber?_decimal false number ends
    have notZero : first ≠ '0' := fun isZero => zero (onlyZero isZero)
    rw [isDecimal, List.cons_append] at read ⊢
    rw [number?_cons (isDigit_of_decimal_eq_cons isDecimal) notZero]
    exact read

/-- An integer in decimal digits is read as the integer. -/
theorem number?_integerLetters (value : Int) (ends : EndsValue rest) :
    number? (integerLetters value ++ rest) = (integer? value).map (·, rest) := by
  unfold integerLetters
  split
  · rename_i negative
    have isValue : -(value.natAbs : Int) = value := by omega
    have read := signedNumber?_decimal true value.natAbs ends
    rw [if_pos rfl, isValue] at read
    exact read
  · rename_i notNegative
    have isValue : (value.natAbs : Int) = value := by omega
    rw [number?_decimal value.natAbs ends, isValue]

end Triage.Toml

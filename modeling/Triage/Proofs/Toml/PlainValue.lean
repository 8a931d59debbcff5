import Triage.Toml.Reader
import Triage.Proofs.Toml.Numeral

/-!
# Plain values

Integers in decimal digits, truth values and lists of such integers in brackets.  Each
is read as the value that was written, and is refused exactly when one of its integers
does not have 64 bits.
-/

namespace Triage.Toml

open Triage.Text

variable {rest digits : List Char} {c : Char} {value : Int}

/-! ## Integers among the scalars -/

theorem EndsValue.isDigit (ends : EndsValue rest) : ∀ c ∈ rest.head?, c.isDigit = false := by
  intro c isHead
  rcases ends c isHead with rfl | rfl | rfl <;> rfl

theorem symbol?_digits {symbol : Char} (notDigit : symbol.isDigit = false)
    (notEnd : ¬ EndsValue [symbol]) (allDigits : ∀ c ∈ digits, c.isDigit = true)
    (ends : EndsValue rest) : symbol? symbol (digits ++ rest) = none := by
  cases digits with
  | nil =>
      cases rest with
      | nil => rfl
      | cons c rest =>
          apply if_neg
          rintro rfl
          exact notEnd (endsValue_cons.mpr (endsValue_cons.mp ends))
  | cons c digits =>
      apply if_neg
      rintro rfl
      have := allDigits c List.mem_cons_self
      simp [notDigit] at this

/-- After digits of an integer stands another digit or the end of the value. -/
theorem symbol?_of_digits?_integerLetters {found later : List Char} {width : Nat} {symbol : Char}
    (positive : 0 < width) (notDigit : symbol.isDigit = false) (notEnd : ¬ EndsValue [symbol])
    (ends : EndsValue rest)
    (read : digits? width width (integerLetters value ++ rest) = some (found, later)) :
    symbol? symbol later = none := by
  unfold integerLetters at read
  split at read
  · cases width with
    | zero => contradiction
    | succ width => simp [digits?] at read
  · rw [digits?_append_of_ends width (fun c => isDigit_of_mem_decimal value.natAbs)
      ends.isDigit] at read
    split at read
    · contradiction
    · rcases Prod.mk.inj (Option.some.inj read) with ⟨-, rfl⟩
      exact symbol?_digits notDigit notEnd
        (fun c isIn => isDigit_of_mem_decimal _ (List.mem_of_mem_drop isIn)) ends

theorem startsLikeDate_integerLetters (ends : EndsValue rest) :
    startsLikeDate (integerLetters value ++ rest) = false := by
  rw [startsLikeDate, Text.number?]
  cases read : digits? 4 4 (integerLetters value ++ rest) with
  | none => rfl
  | some found =>
      have noDash : symbol? '-' found.2 = none :=
        symbol?_of_digits?_integerLetters (by decide) rfl (by simp) ends read
      simp [noDash]

theorem startsLikeTime_integerLetters (ends : EndsValue rest) :
    startsLikeTime (integerLetters value ++ rest) = false := by
  rw [startsLikeTime, bounded?, Text.number?]
  cases read : digits? 2 2 (integerLetters value ++ rest) with
  | none => rfl
  | some found =>
      have noColon : symbol? ':' found.2 = none :=
        symbol?_of_digits?_integerLetters (by decide) rfl (by simp) ends read
      simp only [Option.map_some, Option.bind_some]
      split <;> simp [noColon]

/-- The first character of an integer. -/
def StartsInteger (c : Char) : Prop := c.isDigit = true ∨ c = '-'

theorem StartsInteger.ne {other : Char} (starts : StartsInteger c)
    (notDigit : other.isDigit = false) (notMinus : other ≠ '-') : c ≠ other := by
  rintro rfl
  rcases starts with isDigit | isMinus
  · rw [isDigit] at notDigit
    contradiction
  · exact notMinus isMinus

theorem StartsInteger.isSpace (starts : StartsInteger c) : isSpace c = false := by
  simp [Toml.isSpace, starts.ne (show ' '.isDigit = false from rfl) (by decide),
    starts.ne (show '\t'.isDigit = false from rfl) (by decide)]

theorem exists_integerLetters_eq_cons (value : Int) :
    ∃ first later, integerLetters value = first :: later ∧ StartsInteger first := by
  unfold integerLetters
  split
  · exact ⟨'-', decimal value.natAbs, rfl, .inr rfl⟩
  · rcases exists_decimal_eq_cons value.natAbs with ⟨first, later, isDecimal, -⟩
    exact ⟨first, later, isDecimal, .inl (isDigit_of_decimal_eq_cons isDecimal)⟩

/-- An integer is neither a truth value nor text nor a moment. -/
theorem scalar?_integerLetters (ends : EndsValue rest) :
    scalar? (integerLetters value ++ rest) = (integer? value).map (·, rest) := by
  rcases exists_integerLetters_eq_cons value with ⟨first, later, isInteger, starts⟩
  have noDate : startsLikeDate (integerLetters value ++ rest) = false :=
    startsLikeDate_integerLetters ends
  have noTime : startsLikeTime (integerLetters value ++ rest) = false :=
    startsLikeTime_integerLetters ends
  have read := number?_integerLetters value ends
  rw [isInteger, List.cons_append] at noDate noTime read ⊢
  unfold scalar?
  split
  case h_1 same | h_2 same | h_3 same | h_4 same =>
    exact absurd (List.cons.inj same).1 (starts.ne rfl (by decide))
  case h_5 =>
    rw [noDate, noTime]
    exact read

/-! ## Lists of integers -/

/-- The items of a list, with a comma and a blank between them. -/
def itemLetters (values : List Int) : List Char :=
  [',', ' '].intercalate (values.map integerLetters)

theorem itemLetters_singleton (value : Int) : itemLetters [value] = integerLetters value := by
  simp [itemLetters, List.intercalate]

theorem itemLetters_cons_cons (value next : Int) (later : List Int) :
    itemLetters (value :: next :: later) =
      integerLetters value ++ ',' :: ' ' :: itemLetters (next :: later) := by
  simp [itemLetters, List.intercalate]

/-- Every item takes a character. -/
theorem length_le_itemLetters (values : List Int) :
    values.length ≤ (itemLetters values).length := by
  induction values with
  | nil => exact Nat.zero_le _
  | cons value later ih =>
      rcases exists_integerLetters_eq_cons value with ⟨first, digits, isInteger, -⟩
      cases later with
      | nil =>
          rw [itemLetters_singleton, isInteger]
          simp
      | cons next later =>
          rw [itemLetters_cons_cons, isInteger]
          simp only [List.length_cons, List.length_append] at ih ⊢
          omega

theorem literal?_integerLetters {fuel depth : Nat} (ends : EndsValue rest) :
    literal? (fuel + 1) depth (integerLetters value ++ rest) = (integer? value).map (·, rest) := by
  rcases exists_integerLetters_eq_cons value with ⟨first, later, isInteger, starts⟩
  have read : scalar? (integerLetters value ++ rest) = (integer? value).map (·, rest) :=
    scalar?_integerLetters ends
  rw [isInteger, List.cons_append] at read ⊢
  rw [literal?]
  · exact read
  all_goals
    rintro later same
    exact starts.ne rfl (by decide) (List.cons.inj same).1

theorem skipTrivia?_cons (notComment : c ≠ '#') (notLineEnd : c ≠ '\n' ∧ c ≠ '\r')
    (notSpace : isSpace c = false) : skipTrivia? false (c :: rest) = some (c :: rest) := by
  rw [skipTrivia?, if_neg notComment, if_neg (by simp [notSpace])]
  · exact notLineEnd.1
  · intro later
    exact fun isReturn => absurd isReturn notLineEnd.2

theorem skipTrivia?_integerLetters :
    skipTrivia? false (integerLetters value ++ rest) = some (integerLetters value ++ rest) := by
  rcases exists_integerLetters_eq_cons value with ⟨first, later, isInteger, starts⟩
  rw [isInteger, List.cons_append]
  exact skipTrivia?_cons (starts.ne rfl (by decide))
    ⟨starts.ne rfl (by decide), starts.ne rfl (by decide)⟩ starts.isSpace

/-- An item of a list is read, and then what stands behind it. -/
theorem items?_integerLetters {fuel depth : Nat} (ends : EndsValue rest) :
    items? (fuel + 2) depth (integerLetters value ++ rest) = (do
      let item ← integer? value
      match ← skipTrivia? false rest with
      | ']' :: later => some ([item], later)
      | ',' :: later => do
          let (items, later) ← items? (fuel + 1) depth later
          some (item :: items, later)
      | _ => none) := by
  rcases exists_integerLetters_eq_cons value with ⟨first, later, isInteger, starts⟩
  have read : literal? (fuel + 1) depth (integerLetters value ++ rest) =
      (integer? value).map (·, rest) :=
    literal?_integerLetters ends
  have solid : skipTrivia? false (integerLetters value ++ rest) =
      some (integerLetters value ++ rest) :=
    skipTrivia?_integerLetters
  rw [isInteger, List.cons_append] at read solid ⊢
  rw [items?]
  simp only [solid, Option.bind_eq_bind, Option.bind_some]
  split
  · rename_i closing
    exact absurd (List.cons.inj closing).1 (starts.ne rfl (by decide))
  · rw [read]
    cases integer? value <;> rfl

/-- The items of a list are read one after the other. -/
theorem items?_itemLetters (values : List Int) {fuel depth : Nat} (enough : values.length < fuel) :
    items? fuel depth (itemLetters values ++ ']' :: rest) =
      (values.mapM integer?).map (·, rest) := by
  induction values generalizing fuel with
  | nil =>
      cases fuel with
      | zero => contradiction
      | succ fuel => rfl
  | cons value later ih =>
      obtain ⟨fuel, rfl⟩ : ∃ room, fuel = room + 2 := ⟨fuel - 2, by simp at enough; omega⟩
      have enoughLater : later.length < fuel + 1 := by simpa using enough
      have readLater := ih enoughLater
      rw [List.mapM_cons]
      cases later with
      | nil =>
          rw [itemLetters_singleton, items?_integerLetters (by simp)]
          cases integer? value <;> rfl
      | cons next later =>
          have blank : items? (fuel + 1) depth
              (' ' :: (itemLetters (next :: later) ++ ']' :: rest)) =
                items? (fuel + 1) depth (itemLetters (next :: later) ++ ']' :: rest) := rfl
          rw [itemLetters_cons_cons, List.append_assoc, List.cons_append, List.cons_append,
            items?_integerLetters (by simp)]
          cases integer? value with
          | none => rfl
          | some item =>
              change ((items? (fuel + 1) depth
                  (' ' :: (itemLetters (next :: later) ++ ']' :: rest))).bind
                fun (items, later) => some (item :: items, later)) = _
              rw [blank, readLater]
              cases (next :: later).mapM integer? <;> rfl

/-! ## Plain values -/

/-- A value that is an integer, a truth value, or a list of integers. -/
inductive PlainValue where
  | integer (value : Int)
  | boolean (value : Bool)
  | integers (values : List Int)
deriving DecidableEq

namespace PlainValue

/-- The value as it is written. -/
def letters : PlainValue → List Char
  | integer value => integerLetters value
  | boolean true => ['t', 'r', 'u', 'e']
  | boolean false => ['f', 'a', 'l', 's', 'e']
  | integers values => '[' :: (itemLetters values ++ [']'])

/-- The value as it is read; integers must have 64 bits. -/
def literal? : PlainValue → Option Literal
  | integer value => integer? value
  | boolean value => some (.boolean value)
  | integers values => (values.mapM integer?).map .array

end PlainValue

/-- A plain value is read as the value that was written. -/
theorem value?_letters (value : PlainValue) (ends : EndsValue rest) :
    value? (value.letters ++ rest) = value.literal?.map (·, rest) := by
  unfold value?
  cases value with
  | integer value => exact literal?_integerLetters ends
  | boolean value => cases value <;> rfl
  | integers values =>
      have length_le := length_le_itemLetters values
      have text : (PlainValue.integers values).letters ++ rest =
          '[' :: (itemLetters values ++ ']' :: rest) := by
        simp [PlainValue.letters]
      rw [text, literal?, if_neg (by decide), items?_itemLetters values]
      · simp only [PlainValue.literal?, Option.map_map]
        rfl
      · simp only [List.length_cons, List.length_append]
        omega

end Triage.Toml

import Mathlib.Data.List.TakeWhile
import Triage.Text.Scan

/-!
# Reading what was written

Digits, names and white space are read from the front of a text in which they were
written: the reader finds what was written there and leaves the rest.
-/

namespace Triage.Text

variable {text rest digits : List Char} {c : Char} {number least : Nat}

/-- What is kept from the front of a text ends where a character is not kept. -/
theorem takeWhile_append_of_ends {keep : Char → Bool} {kept : List Char}
    (all : ∀ c ∈ kept, keep c = true) (ends : ∀ c ∈ rest.head?, keep c = false) :
    (kept ++ rest).takeWhile keep = kept := by
  have restNone : rest.takeWhile keep = [] := by
    cases rest with
    | nil => rfl
    | cons c rest => simp [ends c rfl]
  rw [List.takeWhile_append_of_pos all, restNone, List.append_nil]

/-! ## White space -/

/-- The text does not start with white space. -/
def StartsSolid (text : List Char) : Prop := ∀ c ∈ text.head?, isBlank c = false

@[simp]
theorem startsSolid_cons : StartsSolid (c :: rest) ↔ isBlank c = false := by
  simp [StartsSolid]

theorem startsSolid_append (solid : text.head?.map isBlank = some false) :
    StartsSolid (text ++ rest) := by
  cases text with
  | nil => contradiction
  | cons c text => exact startsSolid_cons.mpr (Option.some.inj solid)

theorem skipBlanks_of_startsSolid (solid : StartsSolid text) : skipBlanks text = text := by
  cases text with
  | nil => rfl
  | cons c rest => simp [skipBlanks, startsSolid_cons.mp solid]

theorem skipBlanks_space (solid : StartsSolid text) : skipBlanks (' ' :: text) = text :=
  skipBlanks_of_startsSolid solid

theorem blanks?_space (solid : StartsSolid text) : blanks? (' ' :: text) = some text :=
  congrArg some (skipBlanks_of_startsSolid solid)

/-- White space in front is skipped together with what the text starts with. -/
theorem skipBlanks_append_of_blank {front : List Char}
    (blank : ∀ c ∈ front, isBlank c = true) : skipBlanks (front ++ text) = skipBlanks text :=
  List.dropWhile_append_of_pos blank

theorem skipBlanks_eq_nil_iff : skipBlanks text = [] ↔ ∀ c ∈ text, isBlank c = true :=
  List.dropWhile_eq_nil_iff

/-- White space behind a text is trimmed together with what the text ends with. -/
theorem trim_append_of_blank {back : List Char} (blank : ∀ c ∈ back, isBlank c = true) :
    trim (text ++ back) = trim text := by
  by_cases nothing : skipBlanks text = []
  · have nothingAtAll : skipBlanks (text ++ back) = [] := by
      rw [skipBlanks_eq_nil_iff, List.forall_mem_append]
      exact ⟨skipBlanks_eq_nil_iff.mp nothing, blank⟩
    rw [trim, trim, nothingAtAll, nothing]
  · have kept : skipBlanks (text ++ back) = skipBlanks text ++ back := by
      rw [skipBlanks, List.dropWhile_append, if_neg (by rwa [List.isEmpty_iff])]
      rfl
    have blankReversed : ∀ c ∈ back.reverse, isBlank c = true := by simpa using blank
    rw [trim, kept, List.reverse_append, skipBlanks_append_of_blank blankReversed, trim]

/-- White space around a text does not count. -/
theorem trim_surrounded {front back : List Char} (frontBlank : ∀ c ∈ front, isBlank c = true)
    (backBlank : ∀ c ∈ back, isBlank c = true) : trim (front ++ text ++ back) = trim text := by
  rw [trim_append_of_blank backBlank, trim, skipBlanks_append_of_blank frontBlank, trim]

/-- A text without white space at its ends is not trimmed. -/
theorem trim_of_startsSolid (front : StartsSolid text) (back : StartsSolid text.reverse) :
    trim text = text := by
  rw [trim, skipBlanks_of_startsSolid front, skipBlanks_of_startsSolid back, List.reverse_reverse]

/-- Digits are no white space. -/
theorem isBlank_of_isDigit (digit : c.isDigit = true) : isBlank c = false := by
  have bounds : 48 ≤ c.toNat ∧ c.toNat ≤ 57 := by
    simpa [Char.isDigit, UInt32.le_iff_toNat_le] using digit
  unfold isBlank
  simp only [Bool.or_eq_false_iff, Bool.and_eq_false_iff, decide_eq_false_iff_not]
  omega

/-! ## Digits -/

theorem isDigit_digitChar (small : number < 10) : (digitChar number).isDigit = true := by
  revert number
  decide

theorem digitValue_digitChar (small : number < 10) : digitValue (digitChar number) = number := by
  revert number
  decide

/-- Digits are read up to the width that is asked for. -/
theorem digits?_append (allDigits : ∀ c ∈ digits, c.isDigit = true)
    (enough : least ≤ digits.length) :
    digits? least digits.length (digits ++ rest) = some (digits, rest) := by
  have found : ((digits ++ rest).take digits.length).takeWhile Char.isDigit = digits := by
    have nothingFollows : ∀ c ∈ ([] : List Char).head?, c.isDigit = false := by simp
    simpa using takeWhile_append_of_ends allDigits nothingFollows
  simp only [digits?, found]
  rw [if_neg (Nat.not_lt.mpr enough), List.drop_left]

/-- Digits are read up to the first character that is none, or up to a width. -/
theorem digits?_append_of_ends (most : Nat) (allDigits : ∀ c ∈ digits, c.isDigit = true)
    (ends : ∀ c ∈ rest.head?, c.isDigit = false) :
    digits? least most (digits ++ rest) =
      if min most digits.length < least then none
      else some (digits.take most, digits.drop most ++ rest) := by
  have found : ((digits ++ rest).take most).takeWhile Char.isDigit = digits.take most := by
    rw [← List.take_takeWhile, takeWhile_append_of_ends allDigits ends]
  simp only [digits?, found, List.length_take]
  by_cases fits : most ≤ digits.length
  · rw [Nat.min_eq_left fits, List.drop_append_of_le_length fits]
  · have short : digits.length ≤ most := by omega
    rw [Nat.min_eq_right short, List.drop_left, List.drop_of_length_le short, List.nil_append]

/-- Without a width, digits are read up to the first character that is none. -/
theorem digits?_length_append (allDigits : ∀ c ∈ digits, c.isDigit = true)
    (ends : ∀ c ∈ rest.head?, c.isDigit = false) (enough : least ≤ digits.length) :
    digits? least (digits ++ rest).length (digits ++ rest) = some (digits, rest) := by
  have short : digits.length ≤ (digits ++ rest).length := by simp
  rw [digits?_append_of_ends _ allDigits ends, Nat.min_eq_right short,
    if_neg (Nat.not_lt.mpr enough), List.take_of_length_le short, List.drop_of_length_le short,
    List.nil_append]

theorem isDigit_of_mem_twoDigits (small : number < 100) (isIn : c ∈ twoDigits number) :
    c.isDigit = true := by
  rw [twoDigits, List.mem_cons, List.mem_singleton] at isIn
  rcases isIn with rfl | rfl
  · exact isDigit_digitChar (by omega)
  · exact isDigit_digitChar (by omega)

theorem numberOfDigits_twoDigits (small : number < 100) :
    numberOfDigits (twoDigits number) = number := by
  simp only [numberOfDigits, twoDigits, List.foldl_cons, List.foldl_nil,
    digitValue_digitChar (show number / 10 < 10 by omega),
    digitValue_digitChar (show number % 10 < 10 by omega)]
  omega

/-- Two digits are read as the number that they write. -/
theorem number?_twoDigits (small : number < 100) (enough : least ≤ 2) :
    number? least 2 (twoDigits number ++ rest) = some (number, rest) := by
  have read : digits? least 2 (twoDigits number ++ rest) = some (twoDigits number, rest) :=
    digits?_append (fun _ isIn => isDigit_of_mem_twoDigits small isIn) enough
  simp only [number?, read, Option.map_some, numberOfDigits_twoDigits small]

theorem startsSolid_twoDigits (small : number < 100) :
    StartsSolid (twoDigits number ++ rest) :=
  startsSolid_cons.mpr (isBlank_of_isDigit (isDigit_digitChar (by omega)))

theorem isDigit_of_mem_fourDigits (small : number < 10000) (isIn : c ∈ fourDigits number) :
    c.isDigit = true := by
  rcases List.mem_append.mp isIn with high | low
  · exact isDigit_of_mem_twoDigits (by omega) high
  · exact isDigit_of_mem_twoDigits (by omega) low

theorem startsSolid_fourDigits (small : number < 10000) :
    StartsSolid (fourDigits number ++ rest) := by
  rw [fourDigits, List.append_assoc]
  exact startsSolid_twoDigits (by omega)

theorem numberOfDigits_fourDigits (small : number < 10000) :
    numberOfDigits (fourDigits number) = number := by
  simp only [numberOfDigits, fourDigits, twoDigits, List.cons_append, List.nil_append,
    List.foldl_cons, List.foldl_nil,
    digitValue_digitChar (show number / 100 / 10 < 10 by omega),
    digitValue_digitChar (show number / 100 % 10 < 10 by omega),
    digitValue_digitChar (show number % 100 / 10 < 10 by omega),
    digitValue_digitChar (show number % 100 % 10 < 10 by omega)]
  omega

theorem isDigit_of_mem_decimal (number : Nat) (isIn : c ∈ decimal number) : c.isDigit = true :=
  Nat.isDigit_of_mem_toDigits (by decide) (by decide) isIn

/-! ## Names -/

/-- Three letters that no earlier name of the list has are read as the name's place. -/
theorem shortName?_append {names : List String} {index : Nat} (inside : index < names.length)
    (short : names[index].toList.length = 3)
    (distinct : (names.map fun name => lowerAscii name.toList).Nodup) :
    shortName? names (names[index].toList ++ rest) = some (index, rest) := by
  have word : lowerAscii ((names[index].toList ++ rest).take 3) =
      lowerAscii names[index].toList := by
    rw [← short, List.take_left]
  have found : (names.findIdx? fun name =>
      lowerAscii name.toList = lowerAscii names[index].toList) = some index := by
    rw [List.findIdx?_eq_some_iff_getElem]
    refine ⟨inside, by simp, ?_⟩
    intro earlier before same
    have different := List.pairwise_iff_getElem.mp distinct earlier index
      (by simp; omega) (by simpa using inside) before
    simp only [List.getElem_map] at different
    exact different (of_decide_eq_true same)
  simp only [shortName?, word, found, Option.map_some]
  rw [← short, List.drop_left]

end Triage.Text

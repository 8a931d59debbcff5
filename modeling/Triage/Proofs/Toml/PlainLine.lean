import Triage.Proofs.Toml.PlainValue

/-!
# Plain lines

A plain line is blank, or the head of a table, or gives a plain value to a key, where
the key needs no quotes.  Blanks may stand in front.  A text of plain lines is read as
their statements.
-/

namespace Triage.Toml

open Triage.Text

variable {rest : List Char} {c : Char}

/-! ## Keys -/

/-- A key that needs no quotes. -/
structure BareKey where
  name : String
  nonempty : name.toList ≠ []
  plain : name.toList.all isKeyCharacter = true

namespace BareKey

/-- The key as it is written. -/
def letters (key : BareKey) : List Char := key.name.toList

theorem isKeyCharacter_of_mem (key : BareKey) (isIn : c ∈ key.letters) :
    isKeyCharacter c = true :=
  List.all_eq_true.mp key.plain c isIn

theorem exists_letters_eq_cons (key : BareKey) :
    ∃ first later, key.letters = first :: later ∧ isKeyCharacter first = true := by
  rcases List.exists_cons_of_ne_nil key.nonempty with ⟨first, later, isLetters⟩
  refine ⟨first, later, isLetters, key.isKeyCharacter_of_mem ?_⟩
  rw [letters, isLetters]
  exact List.mem_cons_self

end BareKey

theorem ne_of_isKeyCharacter {other : Char} (isKey : isKeyCharacter c = true)
    (isOther : isKeyCharacter other = false) : c ≠ other := by
  rintro rfl
  rw [isKey] at isOther
  contradiction

theorem skipSpaces_cons (notSpace : isSpace c = false) : skipSpaces (c :: rest) = c :: rest := by
  simp [skipSpaces, notSpace]

theorem skipSpaces_replicate (indent : Nat) :
    skipSpaces (List.replicate indent ' ' ++ rest) = skipSpaces rest := by
  apply List.dropWhile_append_of_pos
  intro c isBlank
  rw [List.eq_of_mem_replicate isBlank]
  rfl

theorem isSpace_of_isKeyCharacter (isKey : isKeyCharacter c = true) : isSpace c = false := by
  simp [isSpace, ne_of_isKeyCharacter isKey (show isKeyCharacter ' ' = false from rfl),
    ne_of_isKeyCharacter isKey (show isKeyCharacter '\t' = false from rfl)]

theorem keyPart?_letters (key : BareKey) (ends : ∀ c ∈ rest.head?, isKeyCharacter c = false) :
    keyPart? (key.letters ++ rest) = some (key.name, rest) := by
  rcases key.exists_letters_eq_cons with ⟨first, later, isLetters, isKey⟩
  have found : (key.letters ++ rest).takeWhile isKeyCharacter = key.letters :=
    takeWhile_append_of_ends (fun c => key.isKeyCharacter_of_mem) ends
  have nonempty : key.letters.isEmpty = false := by rw [isLetters]; rfl
  have name : String.ofList key.letters = key.name := String.ofList_toList
  rw [keyPart?]
  · rw [found, nonempty, name, List.drop_left]
    rfl
  all_goals
    intro rest quoted
    rw [isLetters] at quoted
    exact ne_of_isKeyCharacter isKey rfl (List.cons.inj quoted).1

/-- A key is read up to the sign behind it. -/
theorem key?_letters (key : BareKey) {sign : Char} {later : List Char}
    (ends : ∀ c ∈ rest.head?, isKeyCharacter c = false)
    (behind : skipSpaces rest = sign :: later) (noDot : sign ≠ '.') :
    key? (key.letters ++ rest) = some ([key.name], sign :: later) := by
  rcases key.exists_letters_eq_cons with ⟨first, tail, isLetters, isKey⟩
  have solid : skipSpaces (key.letters ++ rest) = key.letters ++ rest := by
    rw [isLetters]
    exact skipSpaces_cons (isSpace_of_isKeyCharacter isKey)
  have part : keyPart? (key.letters ++ rest) = some (key.name, rest) := keyPart?_letters key ends
  rw [key?, show nestingLimit - 1 = 78 + 1 from rfl, keyUpTo?]
  simp only [solid, part, behind, Option.bind_eq_bind, Option.bind_some]
  split
  · rename_i dotted
    exact absurd (List.cons.inj dotted).1 noDot
  · rfl

/-! ## Lines -/

/-- What stands on a line. -/
inductive LineContent where
  | nothing
  | head (key : BareKey)
  | entry (key : BareKey) (value : PlainValue)

namespace LineContent

/-- The content as it is written. -/
def letters : LineContent → List Char
  | nothing => []
  | head key => '[' :: (key.letters ++ [']'])
  | entry key value => key.letters ++ ' ' :: '=' :: ' ' :: value.letters

/-- The statement of a line, if there is one; none when its value is refused. -/
def statement? : LineContent → Option (Option Statement)
  | nothing => some none
  | head key => some (some (.tableHead [key.name]))
  | entry key value => value.literal?.map fun literal => some (.assign [key.name] literal)

end LineContent

/-- A line with blanks in front. -/
structure PlainLine where
  indent : Nat
  content : LineContent

/-- The line as it is written. -/
def PlainLine.letters (line : PlainLine) : List Char :=
  List.replicate line.indent ' ' ++ (line.content.letters ++ ['\n'])

theorem head?_letters (key : BareKey) :
    head? (key.letters ++ ']' :: '\n' :: rest) = some (.tableHead [key.name], rest) := by
  rcases key.exists_letters_eq_cons with ⟨first, later, isLetters, isKey⟩
  have read : key? (key.letters ++ ']' :: '\n' :: rest) = some ([key.name], ']' :: '\n' :: rest) :=
    key?_letters key (by simp; rfl) rfl (by decide)
  rw [head?]
  · rw [read]
    rfl
  · intro rest again
    rw [isLetters] at again
    exact ne_of_isKeyCharacter isKey rfl (List.cons.inj again).1

theorem PlainValue.skipSpaces_letters (value : PlainValue) :
    skipSpaces (value.letters ++ rest) = value.letters ++ rest := by
  cases value with
  | integer value =>
      rcases exists_integerLetters_eq_cons value with ⟨first, later, isInteger, starts⟩
      rw [letters, isInteger]
      exact skipSpaces_cons starts.isSpace
  | boolean value => cases value <;> rfl
  | integers values => rfl

theorem assignment?_letters (key : BareKey) (value : PlainValue) :
    assignment? (key.letters ++ ' ' :: '=' :: ' ' :: (value.letters ++ '\n' :: rest)) =
      value.literal?.map fun literal => (.assign [key.name] literal, rest) := by
  have readKey : key? (key.letters ++ ' ' :: '=' :: ' ' :: (value.letters ++ '\n' :: rest)) =
      some ([key.name], '=' :: ' ' :: (value.letters ++ '\n' :: rest)) :=
    key?_letters key (by simp; rfl) rfl (by decide)
  have readValue : value? (skipSpaces (' ' :: (value.letters ++ '\n' :: rest))) =
      value.literal?.map (·, '\n' :: rest) := by
    change value? (skipSpaces (value.letters ++ '\n' :: rest)) = _
    rw [value.skipSpaces_letters]
    exact value?_letters value (by simp)
  rw [assignment?, readKey]
  simp only [Option.bind_eq_bind, Option.bind_some, symbol?, if_true, readValue]
  cases value.literal? <;> rfl

/-- A plain line is read as its statement. -/
theorem line?_letters (line : PlainLine) :
    line? (line.letters ++ rest) = line.content.statement?.map (·, rest) := by
  rcases line with ⟨indent, content⟩
  rw [line?, PlainLine.letters, List.append_assoc, skipSpaces_replicate]
  cases content with
  | nothing => rfl
  | head key =>
      have read : head? (key.letters ++ ']' :: '\n' :: rest) =
          some (.tableHead [key.name], rest) :=
        head?_letters key
      have text : (LineContent.head key).letters ++ ['\n'] ++ rest =
          '[' :: (key.letters ++ ']' :: '\n' :: rest) := by
        simp [LineContent.letters]
      rw [text, skipSpaces_cons rfl]
      change (head? (key.letters ++ ']' :: '\n' :: rest)).map _ = _
      rw [read]
      rfl
  | entry key value =>
      rcases key.exists_letters_eq_cons with ⟨first, later, isLetters, isKey⟩
      have read : assignment?
          (key.letters ++ ' ' :: '=' :: ' ' :: (value.letters ++ '\n' :: rest)) =
            value.literal?.map fun literal => (.assign [key.name] literal, rest) :=
        assignment?_letters key value
      have text : (LineContent.entry key value).letters ++ ['\n'] ++ rest =
          key.letters ++ ' ' :: '=' :: ' ' :: (value.letters ++ '\n' :: rest) := by
        simp [LineContent.letters]
      have assigns : ¬ (first = '#' ∨ first = '\n' ∨ first = '\r') := by
        simp [ne_of_isKeyCharacter isKey (show isKeyCharacter '#' = false from rfl),
          ne_of_isKeyCharacter isKey (show isKeyCharacter '\n' = false from rfl),
          ne_of_isKeyCharacter isKey (show isKeyCharacter '\r' = false from rfl)]
      rw [text]
      rw [isLetters, List.cons_append] at read ⊢
      rw [skipSpaces_cons (isSpace_of_isKeyCharacter isKey)]
      split
      · contradiction
      · rename_i isHead
        exact absurd (List.cons.inj isHead).1 (ne_of_isKeyCharacter isKey rfl)
      · rename_i c text _ same
        rcases List.cons.inj same with ⟨rfl, rfl⟩
        rw [if_neg assigns, read]
        simp only [LineContent.statement?, Option.map_map]
        rfl

/-! ## Texts -/

/-- Lines as they are written. -/
def lineLetters (lines : List PlainLine) : List Char := lines.flatMap PlainLine.letters

/-- The statements of lines, one after the other. -/
def lineStatements? : List PlainLine → Option (List Statement)
  | [] => some []
  | line :: later => do
      let statement ← line.content.statement?
      let later ← lineStatements? later
      some (statement.toList ++ later)

/-- A line has a first character, which is no byte-order mark. -/
theorem PlainLine.exists_letters_eq_cons (line : PlainLine) :
    ∃ first later, line.letters = first :: later ∧ first ≠ '\uFEFF' := by
  rcases line with ⟨indent, content⟩
  cases indent with
  | zero =>
      cases content with
      | nothing => exact ⟨_, _, rfl, by decide⟩
      | head key => exact ⟨_, _, rfl, by decide⟩
      | entry key value =>
          rcases key.exists_letters_eq_cons with ⟨first, later, isLetters, isKey⟩
          refine ⟨first, later ++ (' ' :: '=' :: ' ' :: value.letters) ++ ['\n'], ?_,
            ne_of_isKeyCharacter isKey rfl⟩
          simp [letters, LineContent.letters, isLetters]
  | succ indent => exact ⟨_, _, rfl, by decide⟩

theorem length_le_lineLetters (lines : List PlainLine) :
    lines.length ≤ (lineLetters lines).length := by
  induction lines with
  | nil => exact Nat.zero_le _
  | cons line later ih =>
      rcases line.exists_letters_eq_cons with ⟨first, tail, isLetters, -⟩
      simp only [lineLetters, List.flatMap_cons, isLetters, List.length_append,
        List.length_cons] at ih ⊢
      omega

theorem statementsUpTo?_lineLetters (lines : List PlainLine) {fuel : Nat}
    (enough : lines.length ≤ fuel) :
    statementsUpTo? fuel (lineLetters lines) = lineStatements? lines := by
  induction lines generalizing fuel with
  | nil => cases fuel <;> rfl
  | cons line later ih =>
      obtain ⟨fuel, rfl⟩ : ∃ room, fuel = room + 1 := ⟨fuel - 1, by simp at enough; omega⟩
      have readLater := ih (Nat.le_of_succ_le_succ enough)
      have read : line? (line.letters ++ lineLetters later) =
          line.content.statement?.map (·, lineLetters later) :=
        line?_letters line
      rcases line.exists_letters_eq_cons with ⟨first, tail, isLetters, -⟩
      have text : lineLetters (line :: later) = first :: (tail ++ lineLetters later) := by
        rw [lineLetters, List.flatMap_cons, isLetters]
        rfl
      rw [isLetters, List.cons_append] at read
      rw [text, statementsUpTo?, read, lineStatements?]
      cases line.content.statement? with
      | none => rfl
      | some statement =>
          simp only [Option.map_some, Option.bind_eq_bind, Option.bind_some, readLater]

/-- A text of plain lines is read as the statements of the lines. -/
theorem statements?_lineLetters (lines : List PlainLine) :
    statements? (lineLetters lines) = lineStatements? lines :=
  statementsUpTo?_lineLetters lines (length_le_lineLetters lines)

end Triage.Toml

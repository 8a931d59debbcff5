import Triage.Proofs.Config.Agreement
import Triage.Proofs.Text.Integer

/-!
# Variables for the choices of a configuration

Every choice of a configuration has a variable that overrides it.  The name of the variable
is read as the key of the choice whatever word it starts with, and its value as the integer
or the truth value that is written there.
-/

namespace Triage.Config

open Triage.Number Triage.Text Triage.Toml

/-! ## Keys of choices -/

/-- The keys of all choices. -/
inductive ChoiceKey where
  | backoff (key : BackoffKey)
  | clock (key : ClockKey)
deriving DecidableEq

namespace ChoiceKey

/-- The name of the group of a key. -/
def group : ChoiceKey → String
  | backoff _ => backoffKeys.head.name
  | clock _ => clockKeys.head.name

/-- The name of a key in its group. -/
def name : ChoiceKey → String
  | backoff key => (backoffKeys.bare key).name
  | clock key => (clockKeys.bare key).name

/-- The way to a choice from the outermost table, as text. -/
def path (key : ChoiceKey) : String := key.group ++ "." ++ key.name

/-- A text in capitals, ASCII letters only. -/
def capitals (text : String) : String := String.ofList (text.toList.map Char.toUpper)

/-- The name of the variable that overrides a choice. -/
def variableName (word : String) (key : ChoiceKey) : String :=
  word ++ "__" ++ capitals (key.group ++ "__" ++ key.name)

theorem name_injective {first second : ChoiceKey} (sameGroup : first.group = second.group)
    (sameName : first.name = second.name) : first = second := by
  rcases first with first | first <;> rcases second with second | second
  · rw [backoffKeys.bare_injective first second sameName]
  · exact absurd sameGroup (show backoffKeys.head.name ≠ clockKeys.head.name by decide)
  · exact absurd sameGroup (show clockKeys.head.name ≠ backoffKeys.head.name by decide)
  · rw [clockKeys.bare_injective first second sameName]

theorem ofKey_path (key : ChoiceKey) :
    KeyPath.ofKey key.path = ⟨key.group, [.name key.name]⟩ := by
  rcases key with key | key <;> cases key <;> decide +kernel

theorem path_injective {first second : ChoiceKey} (samePath : first.path = second.path) :
    first = second := by
  have sameSteps : (⟨first.group, [.name first.name]⟩ : KeyPath) =
      ⟨second.group, [.name second.name]⟩ := by
    rw [← first.ofKey_path, ← second.ofKey_path, samePath]
  simp only [KeyPath.mk.injEq, List.cons.injEq, Step.name.injEq, and_true] at sameSteps
  exact name_injective sameSteps.1 sameSteps.2

end ChoiceKey

/-! ## Names of variables -/

namespace Variable

theorem behind?_append (start rest : List Char) : behind? start (start ++ rest) = some rest := by
  induction start with
  | nil => rfl
  | cons s start ih => rw [List.cons_append, behind?, if_pos rfl, ih]

/-- The name of a variable leads to its choice. -/
theorem key?_variableName {word : String} {key : ChoiceKey} {entry : Variable}
    (isNamed : entry.name = key.variableName word) : entry.key? word = some key.path := by
  have ascii : IsAscii (ChoiceKey.capitals (key.group ++ "__" ++ key.name)).toList := by
    rcases key with key | key <;> cases key <;> decide +kernel
  have back : String.ofList (dotted
      ((ChoiceKey.capitals (key.group ++ "__" ++ key.name)).toList.map Char.toLower)) =
        key.path := by
    rcases key with key | key <;> cases key <;> decide +kernel
  rw [key?, isNamed, ChoiceKey.variableName, toList_lowercase_append ascii, behind?_append,
    Option.map_some, back]

theorem overrides_of_isNamed {word : String} {key : ChoiceKey} {entry : Variable}
    (isNamed : entry.name = key.variableName word) : entry.Overrides word := by
  by_contra free
  rw [← key?_eq_none_iff, key?_variableName isNamed] at free
  contradiction

/-! ## Values of variables -/

/-- A text for a value that is no list: decimal digits with an optional sign for an integer,
and the word for a truth value. -/
inductive Writes : String → PlainValue → Prop
  | integer {text : String} {value : Int} (writes : WritesInteger text.toList value) :
      Writes text (.integer value)
  | boolean (value : Bool) : Writes (toString value) (.boolean value)

/-- A text in lower case without the letter that ends both words is no truth value. -/
theorem boolean?_eq_none {text : String} (lower : ∀ c ∈ text.toList, IsLowerAscii c)
    (noLetter : ∀ c ∈ text.toList, c ≠ 'e') : boolean? text = none := by
  have notWord : ∀ word : String, 'e' ∈ word.toList → text ≠ word := by
    rintro word isIn rfl
    exact noLetter 'e' isIn rfl
  rw [boolean?, lowercase_of_isLowerAscii lower, if_neg (notWord "true" (by decide)),
    if_neg (notWord "false" (by decide))]

/-- A variable has the value that is written there. -/
theorem setting_of_writes (key : String) {text : String} {value : PlainValue}
    (writes : Writes text value) (fits : value.Fits) :
    setting key text = value.setting (some .environment) := by
  cases writes with
  | boolean value => cases value <;> rfl
  | integer writes =>
      have noWord : boolean? text = none := by
        refine boolean?_eq_none (fun c isIn => (writes.isIntegerCharacter c isIn).isLowerAscii) ?_
        rintro c isIn rfl
        rcases writes.isIntegerCharacter _ isIn with digit | plus | minus <;> contradiction
      simp only [setting, noWord, integerWithin?_of_writesInteger writes fits.1 fits.2]
      rfl

end Variable

end Triage.Config

import Triage.Config.Folder
import Triage.Proofs.Config.Listing
import Triage.Proofs.Config.Order
import Triage.Proofs.Config.Origin

/-!
# Files and texts

A file without variables that override it is the same as its text: both are loaded as the
same configuration, or both are refused for the same reason, except that only the file is
named in the words of a mismatch.  This holds for any order in which the entries of tables
are taken, as long as no two names lead to the same place.  Names of variables are compared
in lower case, and letters outside ASCII may have a lower case inside.
-/

namespace Triage.Config

open Triage.Text

/-! ## Variables that override -/

namespace Variable

theorem behind?_eq_none_iff (start text : List Char) :
    behind? start text = none ↔ ¬ start <+: text := by
  induction start generalizing text with
  | nil => simp [behind?]
  | cons s start ih =>
      cases text with
      | nil => simp [behind?]
      | cons c text =>
          by_cases same : s = c
          · simp [behind?, same, ih]
          · simp [behind?, same]

/-- The name of the variable starts with the word and two underscores, both in lower
case. -/
def Overrides (word : String) (entry : Variable) : Prop :=
  (lowercase (word ++ "__")).toList <+: (lowercase entry.name).toList

instance (word : String) (entry : Variable) : Decidable (entry.Overrides word) :=
  inferInstanceAs (Decidable (_ <+: _))

theorem key?_eq_none_iff (word : String) (entry : Variable) :
    entry.key? word = none ↔ ¬ entry.Overrides word := by
  rw [key?, Option.map_eq_none_iff, behind?_eq_none_iff, Overrides]

end Variable

theorem overrides_eq_nil {word : String} {environment : List Variable}
    (free : ∀ entry ∈ environment, ¬ entry.Overrides word) : overrides word environment = [] := by
  rw [overrides, List.filterMap_eq_nil_iff]
  intro entry isIn
  rw [(entry.key?_eq_none_iff word).mpr (free entry isIn), Option.map_none]

/-! ## Kinds of errors -/

/-- What a load error is put down to.  A setting without a place is no error that is told:
there the loading stops. -/
inductive LoadErrorKind where
  | missing (path : String)
  | path
  | configuration
  | invalid (message : String)
  | noPlace
deriving DecidableEq

/-- The kind of a load error; only what does not make sense together keeps its message. -/
def LoadError.kind : LoadError → LoadErrorKind
  | missing path => .missing path
  | unreadablePath _ => .path
  | noFile _ => .configuration
  | noDocument => .configuration
  | noPlace => .noPlace
  | unreadable _ => .configuration
  | invalid fault => .invalid fault.message

theorem LoadError.kind_withoutOrigin (error : LoadError) :
    error.withoutOrigin.kind = error.kind := by
  cases error <;> rfl

/-! ## Agreement -/

/-- A path that is text and leads to a file is loaded like this file. -/
theorem loadBytes_eq_ofFile {lookUp : String → Target} {pathText name text : String}
    {path : List UInt8} (isText : textOfBytes? path = some pathText)
    (isFile : lookUp pathText = .file name text) (word : String) (environment : List Variable) :
    loadBytes lookUp word environment path = ofFile word environment name text := by
  rw [loadBytes, isText]
  change load lookUp word environment pathText = _
  rw [load, isFile]

/-- A text is loaded like the file that holds it, but for the origins of mismatches. -/
theorem ofText_eq_ofFile {word : String} {environment : List Variable}
    (free : ∀ entry ∈ environment, ¬ entry.Overrides word) (name text : String) :
    ofText text = (ofFile word environment name text).mapError LoadError.withoutOrigin := by
  rw [ofText, ofFile, overrides_eq_nil free, documentSettings, documentSettings]
  cases Toml.read? text with
  | none => rfl
  | some entries =>
      change ofSettings (Setting.entriesOfToml none entries) =
        (ofSettings (Setting.entriesOfToml (some (.file name)) entries ++ [])).mapError _
      rw [List.append_nil, ← Setting.withoutOrigin_entriesOfToml (some (.file name)),
        ofSettings_withoutOrigin]

theorem kind_ofFile {word : String} {environment : List Variable}
    (free : ∀ entry ∈ environment, ¬ entry.Overrides word) (name text : String) :
    (ofFile word environment name text).mapError LoadError.kind =
      (ofText text).mapError LoadError.kind := by
  rw [ofText_eq_ofFile free name text, mapError_mapError]
  congr 1
  funext error
  exact error.kind_withoutOrigin.symm

/-- A file that no variable overrides is loaded like its text when the names of the text are
apart: as the same configuration or with an error of the same kind, and neither stops.  They
agree in whatever order each of them takes the entries of tables. -/
theorem file_is_loaded_like_its_text (lookUp : String → Target) (word : String)
    (environment : List Variable) (path : List UInt8) (pathText name text : String)
    (isText : textOfBytes? path = some pathText) (isFile : lookUp pathText = .file name text)
    (free : ∀ entry ∈ environment, ¬ entry.Overrides word) (apart : HasNamesApart text) :
    (loadBytes lookUp word environment path).mapError LoadError.kind =
        (ofText text).mapError LoadError.kind ∧
      ofText text ≠ .error .noPlace ∧
      ∀ fromFile fromText,
        InSomeOrder (some (.file name)) text (overrides word environment) fromFile →
        InSomeOrder none text [] fromText →
        fromFile.mapError LoadError.kind = fromText.mapError LoadError.kind := by
  have keeps : KeepsAlike (overrides word environment) :=
    overrides_eq_nil free ▸ keepsAlike_nil
  have onlyFile := apart.eq_of_inSomeOrder keeps (inSomeOrder_ofFile word environment name text)
  have onlyText := apart.eq_of_inSomeOrder keepsAlike_nil (inSomeOrder_ofText text)
  refine ⟨?_, apart.ofText_ne_noPlace, fun fromFile fromText inFile inText => ?_⟩
  · rw [loadBytes_eq_ofFile isText isFile, kind_ofFile free]
  · rw [apart.eq_of_inSomeOrder keeps inFile, apart.eq_of_inSomeOrder keepsAlike_nil inText,
      ← onlyFile, ← onlyText, kind_ofFile free]

/-- A folder with one file, which asks for more attempts than there are. -/
def overfullFolder : Folder := ⟨[("retry.toml", "[strategy]\nmax_attempts = 4294967296\n")]⟩

/-- Two variables that override nothing. -/
def strangeVariables : List Variable := [⟨"PATH", "/bin"⟩, ⟨"SVC_RETRY_STRATEGY", "5"⟩]

theorem file_is_loaded_like_its_text_overfull :
    (∀ entry ∈ strangeVariables, ¬ entry.Overrides standardWord) ∧
      (loadBytes overfullFolder.lookUp standardWord strangeVariables
          ("retry.toml".toList.map Char.toUInt8)).mapError LoadError.kind =
        (ofText "[strategy]\nmax_attempts = 4294967296\n").mapError LoadError.kind ∧
      (ofText "[strategy]\nmax_attempts = 4294967296\n").toOption = none := by
  have free : ∀ entry ∈ strangeVariables, ¬ entry.Overrides standardWord := by decide
  have agrees := file_is_loaded_like_its_text overfullFolder.lookUp standardWord strangeVariables
    ("retry.toml".toList.map Char.toUInt8) "retry.toml" "retry.toml"
    "[strategy]\nmax_attempts = 4294967296\n" (by decide) (by decide) free (by decide +kernel)
  exact ⟨free, agrees.1, by decide +kernel⟩

/-- The name starts with the word and two underscores when only the letters of ASCII are
put into lower case. -/
def Variable.OverridesInAscii (word : String) (entry : Variable) : Prop :=
  (word ++ "__").toList.map Char.toLower <+: entry.name.toList.map Char.toLower

instance (word : String) (entry : Variable) : Decidable (entry.OverridesInAscii word) :=
  inferInstanceAs (Decidable (_ <+: _))

/-- An empty folder but for an empty file. -/
def emptyFile : Folder := ⟨[("retry.toml", "")]⟩

/-- A table with two spellings of one name. -/
def twoSpellings : Toml.PlainTable :=
  ⟨backoffKeys.head,
    [(backoffKeys.bare .attempts, .integer 4),
      (⟨"MAX_ATTEMPTS", by decide, by decide⟩, .integer 5)]⟩

theorem documentSettings_twoSpellings :
    documentSettings none "[strategy]\nmax_attempts = 4\nMAX_ATTEMPTS = 5\n" =
      .ok [("strategy", .table none (twoSpellings.settings none))] := by
  have isText : Toml.documentText ⟨0, 0⟩ [twoSpellings] =
      "[strategy]\nmax_attempts = 4\nMAX_ATTEMPTS = 5\n" := by decide
  rw [← isText, documentSettings, Toml.read?_documentText]
  · exact congrArg Except.ok (Toml.PlainTable.entriesOfToml_tables none [twoSpellings])
  · intro table isIn entry isEntry
    cases List.mem_singleton.mp isIn
    rcases List.mem_pair.mp isEntry with rfl | rfl <;> exact ⟨by decide, by decide⟩
  · decide
  · intro table isIn
    cases List.mem_singleton.mp isIn
    rw [Toml.PlainTable.IsDistinct]
    decide

/-- The sign of a temperature in kelvins has a `k` for its lower case, so that a variable
may override a setting although its name does not start with the word in ASCII.  A path that
is no text is refused whatever it leads to.  Two spellings of a name make either of two
configurations, and an index before the start of a list stops the loading. -/
theorem kelvin_sign_overrides_and_stray_bytes_are_refused :
    ((∀ entry ∈ [⟨"\u212a__STRATEGY__MAX_ATTEMPTS", "5"⟩],
        ¬ Variable.OverridesInAscii "K" entry) ∧
      (loadBytes emptyFile.lookUp "K" [⟨"\u212a__STRATEGY__MAX_ATTEMPTS", "5"⟩]
          ("retry.toml".toList.map Char.toUInt8)).toOption =
        some ⟨{ Backoff.standard with maxAttempts := 5 }, Clock.standard⟩ ∧
      (ofText "").toOption = some standard) ∧
    (∀ lookUp : String → Target, loadBytes lookUp "K" [] [255] = .error (.unreadablePath [255])) ∧
    (∀ attempts ∈ [4, 5],
      InSomeOrder none "[strategy]\nmax_attempts = 4\nMAX_ATTEMPTS = 5\n" []
        (.ok ⟨{ Backoff.standard with maxAttempts := attempts }, Clock.standard⟩)) ∧
    ofText "\"waits[-1]\" = 5\n" = .error .noPlace := by
  refine ⟨⟨by decide, by decide +kernel, by decide +kernel⟩, fun _ => rfl, ?_, by decide +kernel⟩
  have inOrder {inner : Entries Setting} {config : Config}
      (moved : (twoSpellings.settings none).Perm inner)
      (loads : ofSettings [("strategy", .table none inner)] = .ok config) :
      InSomeOrder none "[strategy]\nmax_attempts = 4\nMAX_ATTEMPTS = 5\n" [] (.ok config) := by
    have reordered : Reordered [("strategy", .table none (twoSpellings.settings none))]
        [("strategy", .table none inner)] :=
      ⟨_, .cons ((Reordered.of_perm moved).sameEntry "strategy" none) .nil, .refl _⟩
    have taken : InSomeOrder none "[strategy]\nmax_attempts = 4\nMAX_ATTEMPTS = 5\n" []
        (ofSettings ([("strategy", .table none inner)] ++ [])) :=
      .taken documentSettings_twoSpellings reordered
    rwa [List.append_nil, loads] at taken
  intro attempts isIn
  rcases List.mem_pair.mp isIn with rfl | rfl
  · exact inOrder (.swap _ _ []) (by decide +kernel)
  · exact inOrder (.refl _) (by decide +kernel)

end Triage.Config

import Triage.Config.Folder
import Triage.Proofs.Config.Groups

/-!
# Environment over file over standard choices

Variables override the choices of a file one by one, and a file overrides the standard
choices.  What is checked is the configuration that all of them make together, so that a
variable may mend a file that would be refused or spoil one that would not.
-/

namespace Triage.Config

open Triage.Text Triage.Toml

variable {before after : Entries Setting} {entries : Entries Toml.Value}

/-! ## Choices of an environment -/

/-- The choices that an environment makes, any of those that are no list. -/
structure Overriding where
  baseMilliseconds : Option UInt64
  throttlingBaseMilliseconds : Option UInt64
  maxMilliseconds : Option UInt64
  maxAttempts : Option UInt32
  jitterPercent : Option UInt8
  thresholdSeconds : Option Int64
  possibleCodesOnAnyStatus : Option Bool

namespace Overriding

/-- The value that is chosen for a key. -/
def value? (overriding : Overriding) : ChoiceKey → Option PlainValue
  | .backoff .base => overriding.baseMilliseconds.map fun word => .integer word.toNat
  | .backoff .throttlingBase =>
      overriding.throttlingBaseMilliseconds.map fun word => .integer word.toNat
  | .backoff .maximum => overriding.maxMilliseconds.map fun word => .integer word.toNat
  | .backoff .attempts => overriding.maxAttempts.map fun word => .integer word.toNat
  | .backoff .jitter => overriding.jitterPercent.map fun word => .integer word.toNat
  | .clock .statuses => none
  | .clock .threshold => overriding.thresholdSeconds.map fun word => .integer word.toInt
  | .clock .onAnyStatus => overriding.possibleCodesOnAnyStatus.map .boolean

/-- The setting that is chosen for a key. -/
def chosen (overriding : Overriding) (key : ChoiceKey) : Option Setting :=
  (overriding.value? key).map (PlainValue.setting (some .environment))

/-- The choices for delays and attempts, where they are not overridden. -/
def overBackoff (overriding : Overriding) (file : Backoff) : Backoff where
  baseMilliseconds := overriding.baseMilliseconds.getD file.baseMilliseconds
  throttlingBaseMilliseconds :=
    overriding.throttlingBaseMilliseconds.getD file.throttlingBaseMilliseconds
  maxMilliseconds := overriding.maxMilliseconds.getD file.maxMilliseconds
  maxAttempts := overriding.maxAttempts.getD file.maxAttempts
  jitterPercent := overriding.jitterPercent.getD file.jitterPercent

/-- The choices for wrong clocks, where they are not overridden. -/
def overClock (overriding : Overriding) (file : Clock) : Clock where
  sensitiveStatuses := file.sensitiveStatuses
  thresholdSeconds := overriding.thresholdSeconds.getD file.thresholdSeconds
  possibleCodesOnAnyStatus :=
    overriding.possibleCodesOnAnyStatus.getD file.possibleCodesOnAnyStatus

/-- A configuration with the overriding choices in place of its own. -/
def merged (overriding : Overriding) (file : Config) : Config :=
  ⟨overriding.overBackoff file.backoff, overriding.overClock file.clock⟩

/-- Every integer that is chosen has 64 bits and a sign. -/
def Fits (overriding : Overriding) : Prop :=
  ∀ key value, overriding.value? key = some value → value.Fits

/-- The variables that override anything are those of the choices, in any order and among
any others, and each of them writes what is chosen. -/
structure IsMadeBy (overriding : Overriding) (word : String) (environment : List Variable) :
    Prop where
  isSet : ∀ key value, overriding.value? key = some value →
    ∃ entry ∈ environment, entry.name = key.variableName word ∧
      Variable.Writes entry.value value
  onlySet : ∀ entry ∈ environment, entry.Overrides word →
    ∃ key value, overriding.value? key = some value ∧ entry.name = key.variableName word ∧
      Variable.Writes entry.value value

variable {overriding : Overriding} {word : String} {environment : List Variable}

theorem isLeaf_of_chosen {key : ChoiceKey} {setting : Setting}
    (isChosen : overriding.chosen key = some setting) : setting.IsLeaf := by
  obtain ⟨value, -, rfl⟩ := Option.map_eq_some_iff.mp isChosen
  exact value.isLeaf_setting _

theorem IsMadeBy.setsChoices (made : overriding.IsMadeBy word environment)
    (fits : overriding.Fits) : SetsChoices word environment overriding.chosen where
  isSet key setting isChosen := by
    obtain ⟨value, isValue, -⟩ := Option.map_eq_some_iff.mp isChosen
    obtain ⟨entry, isIn, isNamed, -⟩ := made.isSet key value isValue
    exact ⟨entry, isIn, isNamed⟩
  onlySet entry isIn overrides := by
    obtain ⟨key, value, isValue, isNamed, writes⟩ := made.onlySet entry isIn overrides
    refine ⟨key, isNamed, ?_⟩
    rw [chosen, isValue, Option.map_some,
      Variable.setting_of_writes key.path writes (fits key value isValue)]

/-! ## Reading overridden groups -/

/-- A setting that is overridden is read as the value that is chosen, and any other one as
before. -/
theorem Group.read_overridden {α : Type} {name : String} {place : Nat}
    {read : Setting → Decoded α} {standard file : α} {choice : Option α} {written : α → PlainValue}
    (isThere : Entries.get? after name =
      ((choice.map written).map (PlainValue.setting (some .environment))).or
        (Entries.get? before name))
    (reads : ∀ value, read ((written value).setting (some .environment)) = .ok value)
    (wasRead : Group.read (.named before) name place read standard = .ok file) :
    Group.read (.named after) name place read standard = .ok (choice.getD file) := by
  cases choice with
  | some value => exact Group.read_of_present isThere (reads value)
  | none => exact (Group.read_congr isThere).trans wasRead

theorem readFrom_overBackoff {file : Backoff}
    (overridden : Overridden overriding.chosen before after)
    (readFrom : Backoff.ReadFrom (.named (groupEntries before "strategy")) file) :
    Backoff.ReadFrom (.named (groupEntries after "strategy")) (overriding.overBackoff file) where
  base := Group.read_overridden (overridden.value (.backoff .base)) word64_numeral readFrom.base
  throttlingBase := Group.read_overridden (overridden.value (.backoff .throttlingBase))
    word64_numeral readFrom.throttlingBase
  maximum := Group.read_overridden (overridden.value (.backoff .maximum)) word64_numeral
    readFrom.maximum
  attempts := Group.read_overridden (overridden.value (.backoff .attempts)) word32_numeral
    readFrom.attempts
  jitter := Group.read_overridden (overridden.value (.backoff .jitter)) word8_numeral
    readFrom.jitter

theorem readFrom_overClock {file : Clock}
    (overridden : Overridden overriding.chosen before after)
    (readFrom : Clock.ReadFrom (.named (groupEntries before "clock_skew")) file) :
    Clock.ReadFrom (.named (groupEntries after "clock_skew")) (overriding.overClock file) where
  statuses := (Group.read_congr (overridden.value (.clock .statuses))).trans readFrom.statuses
  threshold := Group.read_overridden (overridden.value (.clock .threshold)) integer_scalar
    readFrom.threshold
  onAnyStatus := Group.read_overridden (overridden.value (.clock .onAnyStatus)) (fun _ => rfl)
    readFrom.onAnyStatus

/-- A group stays named when some of its choices are overridden. -/
theorem isNamedGroup_of_overridden {chosen : ChoiceKey → Option Setting} {group : String}
    (overridden : Overridden chosen before after) (isNamed : IsNamedGroup before group) :
    IsNamedGroup after group := by
  by_cases untouched : ∀ key : ChoiceKey, key.group = group → chosen key = none
  · rw [IsNamedGroup, HasTable, overridden.untouched group untouched]
    exact isNamed
  · push Not at untouched
    obtain ⟨key, rfl, isChosen⟩ := untouched
    exact .inr (overridden.hasTable key (Option.isSome_iff_ne_none.mpr isChosen))

/-- The choices laid over a tree are read as the choices laid over its configuration. -/
theorem ofEntries_of_overridden {file : Config}
    (overridden : Overridden overriding.chosen before after)
    (isBackoffNamed : IsNamedGroup before "strategy")
    (isClockNamed : IsNamedGroup before "clock_skew") (wasRead : ofEntries before = .ok file) :
    ofEntries after = .ok (overriding.merged file) := by
  obtain ⟨backoff, clock⟩ := ofEntries_eq_ok_iff.mp wasRead
  refine ofEntries_eq_ok_iff.mpr ⟨?_, ?_⟩
  · exact (Backoff.read_iff (isNamedGroup_of_overridden overridden isBackoffNamed)).mpr
      (readFrom_overBackoff overridden ((Backoff.read_iff isBackoffNamed).mp backoff))
  · exact (Clock.read_iff (isNamedGroup_of_overridden overridden isClockNamed)).mpr
      (readFrom_overClock overridden ((Clock.read_iff isClockNamed).mp clock))

end Overriding

/-! ## Sections of a document -/

/-- All choices. -/
def ChoiceKey.all : List ChoiceKey :=
  [.backoff .base, .backoff .throttlingBase, .backoff .maximum, .backoff .attempts,
    .backoff .jitter, .clock .statuses, .clock .threshold, .clock .onAnyStatus]

/-- The entry is one of the two sections, and every key in it is that of a choice of this
section, in lower case as the keys of choices are. -/
def isSection : String × Toml.Value → Bool
  | (group, .table inner) =>
      (ChoiceKey.all.any fun key => key.group = group) &&
        inner.all fun entry => ChoiceKey.all.any fun key => key.group = group && key.name = entry.1
  | _ => false

/-- The document consists of the two sections, or of one of them, or is empty. -/
def HasSections (text : String) : Prop :=
  (Toml.read? text).all (fun entries => entries.all isSection) = true

instance (text : String) : Decidable (HasSections text) :=
  inferInstanceAs (Decidable (_ = true))

theorem exists_inner_of_isSection {name : String} {value : Toml.Value}
    (known : isSection (name, value) = true) :
    (∃ inner, value = .table inner) ∧ KeyPath.ofKey name = ⟨name, []⟩ := by
  cases value with
  | table inner =>
      obtain ⟨key, -, isGroup⟩ := List.any_eq_true.mp (Bool.and_eq_true_iff.mp known).1
      obtain rfl := of_decide_eq_true isGroup
      rcases key with key | key
      · exact ⟨⟨inner, rfl⟩, backoffKeys.ofKey_head⟩
      · exact ⟨⟨inner, rfl⟩, clockKeys.ofKey_head⟩
  | _ => contradiction

/-- A table that is laid over a named group makes a table. -/
theorem exists_table_of_laidOver {group : String} (isNamed : IsNamedGroup before group)
    (origin : Option Origin) (inner : List (String × Setting)) :
    ∃ outer after, Setting.laidOver (.table origin inner) (Entries.get? before group) =
      .table outer after := by
  rw [Setting.laidOver]
  rcases isNamed with missing | ⟨known, entries, isTable⟩
  · rw [missing, Option.getD_none]
    exact ⟨none, Setting.exists_table_of_entriesLaidOver inner none []⟩
  · rw [isTable, Option.getD_some]
    exact ⟨known, Setting.exists_table_of_entriesLaidOver inner known entries⟩

/-- The groups of a tree of sections are named. -/
theorem isNamedGroup_of_isSection {origin outer : Option Origin} {group : String}
    (sections : ∀ entry ∈ entries, isSection entry = true)
    (isTree : (Setting.table outer before).putAll? (Setting.entriesOfToml origin entries) =
      some (.table outer after)) (isNamed : IsNamedGroup before group) :
    IsNamedGroup after group := by
  induction entries generalizing before with
  | nil =>
      cases isTree
      exact isNamed
  | cons entry later ih =>
      rcases entry with ⟨name, value⟩
      obtain ⟨known, sectionsLater⟩ := List.forall_mem_cons.mp sections
      obtain ⟨⟨inner, rfl⟩, isName⟩ := exists_inner_of_isSection known
      rw [Setting.entriesOfToml, Setting.putAll?, isName] at isTree
      refine ih sectionsLater isTree ?_
      by_cases same : name = group
      · subst same
        obtain ⟨tableOrigin, table, isLaid⟩ := exists_table_of_laidOver isNamed origin
          (Setting.entriesOfToml origin inner)
        refine .inr ⟨tableOrigin, table, ?_⟩
        rw [Entries.get?_put_self, Setting.ofToml]
        exact congrArg some isLaid
      · rw [IsNamedGroup, HasTable, Entries.get?_put_of_ne same]
        exact isNamed

/-! ## Layers -/

/-- A file of the two sections whose choices are overridden by variables is loaded as the
configuration of the file with the overriding choices in place of its own.  The
configuration of the file need not be valid; when the merged one has a fault, it is refused
for its first fault. -/
theorem environment_overrides_file (lookUp : String → Target) (word : String)
    (environment : List Variable) (path : List UInt8) (pathText name text : String)
    (file : Config) (overriding : Overriding) (isText : textOfBytes? path = some pathText)
    (isFile : lookUp pathText = .file name text) (sections : HasSections text)
    (decoded : decodedText text = .ok file) (fits : overriding.Fits)
    (made : overriding.IsMadeBy word environment) :
    loadBytes lookUp word environment path =
      match (overriding.merged file).fault? with
      | some fault => .error (.invalid fault)
      | none => .ok (overriding.merged file) := by
  obtain ⟨entries, before, isDocument, isTree, wasRead, -⟩ := exists_fileTree decoded name
  rw [HasSections, isDocument, Option.all_some, List.all_eq_true] at sections
  have isNamed (group : String) : IsNamedGroup before group :=
    isNamedGroup_of_isSection sections isTree (.inl rfl)
  obtain ⟨after, isPut, overridden⟩ :=
    (made.setsChoices fits).exists_putAll? (fun _ _ => Overriding.isLeaf_of_chosen) before
  rw [loadBytes_eq isText isFile isDocument isTree isPut,
    Overriding.ofEntries_of_overridden overridden (isNamed _) (isNamed _) wasRead]
  rfl

/-- A folder with one file, whose first delay is longer than the longest one. -/
def steepFolder : Folder := ⟨[("retry.toml", "[strategy]\nbase_delay_ms = 30000\n")]⟩

/-- The configuration of that file, which is not valid. -/
def steepFile : Config := ⟨{ Backoff.standard with baseMilliseconds := 30000 }, Clock.standard⟩

/-- A variable for a longer longest delay, and one that overrides nothing. -/
def longerDelay : List Variable :=
  [⟨"PATH", "/bin"⟩, ⟨"SVC_RETRY__STRATEGY__MAX_DELAY_MS", "+40000"⟩]

/-- The choice that these variables make. -/
def onlyLongerDelay : Overriding where
  baseMilliseconds := none
  throttlingBaseMilliseconds := none
  maxMilliseconds := some 40000
  maxAttempts := none
  jitterPercent := none
  thresholdSeconds := none
  possibleCodesOnAnyStatus := none

theorem onlyLongerDelay_value? {key : ChoiceKey} {value : PlainValue}
    (isValue : onlyLongerDelay.value? key = some value) :
    key = .backoff .maximum ∧ value = .integer 40000 := by
  rcases key with key | key <;> cases key <;> cases isValue
  exact ⟨rfl, rfl⟩

theorem onlyLongerDelay_isMadeBy : onlyLongerDelay.IsMadeBy standardWord longerDelay := by
  have writes : Variable.Writes "+40000" (.integer 40000) :=
    .integer (.plus ⟨by decide, List.all_eq_true.mp (by decide)⟩)
  constructor
  · intro key value isValue
    obtain ⟨rfl, rfl⟩ := onlyLongerDelay_value? isValue
    exact ⟨_, List.mem_cons_of_mem _ List.mem_cons_self, by decide, writes⟩
  · intro entry isIn overrides
    rcases List.mem_pair.mp isIn with rfl | rfl
    · exact absurd overrides (by decide)
    · exact ⟨.backoff .maximum, .integer 40000, rfl, by decide, writes⟩

theorem environment_overrides_file_steep :
    (loadBytes steepFolder.lookUp standardWord []
        ("retry.toml".toList.map Char.toUInt8)).toOption = none ∧
      loadBytes steepFolder.lookUp standardWord longerDelay
          ("retry.toml".toList.map Char.toUInt8) =
        .ok ⟨{ steepFile.backoff with maxMilliseconds := 40000 }, Clock.standard⟩ := by
  have fits : onlyLongerDelay.Fits := by
    intro key value isValue
    obtain ⟨rfl, rfl⟩ := onlyLongerDelay_value? isValue
    exact ⟨by decide, by decide⟩
  have overrides := environment_overrides_file steepFolder.lookUp standardWord longerDelay
    ("retry.toml".toList.map Char.toUInt8) "retry.toml" "retry.toml"
    "[strategy]\nbase_delay_ms = 30000\n" steepFile onlyLongerDelay (by decide) (by decide)
    (by decide +kernel) (by decide +kernel) fits onlyLongerDelay_isMadeBy
  exact ⟨by decide +kernel, overrides⟩

end Triage.Config

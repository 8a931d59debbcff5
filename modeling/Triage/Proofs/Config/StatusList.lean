import Triage.Proofs.Config.Groups

/-!
# Lists of statuses in the environment

The list of sensitive statuses may be set by a variable that holds the statuses with commas
between them.  A text with a comma is no number, so that two statuses and more are read as
a list.  The text of a single status is a number before it is a list, and a number is no
list of statuses.
-/

namespace Triage.Number

open Triage.Text

/-- Digits in front of a comma are no number. -/
theorem Binary64.read?_eq_none_of_comma {digits rest : List Char} (numeral : IsNumeral digits) :
    Binary64.read? (digits ++ ',' :: rest) = none := by
  obtain ⟨first, later, rfl, digit⟩ := numeral.exists_eq_cons
  have whole : (first :: later ++ ',' :: rest).takeWhile Char.isDigit = first :: later :=
    takeWhile_append_of_ends numeral.allDigits (by simp)
  have notWord (word : String) (letter : word.toList.head?.any Char.isDigit = false) :
      String.ofList (lowerAscii (first :: later ++ ',' :: rest)) ≠ word := by
    have same : first.toLower = first := (isLowerAscii_of_isDigit digit).2
    rw [lowerAscii, List.cons_append, List.map_cons, same]
    exact ofList_ne_of_isDigit digit letter
  have mantissa : mantissa? (first :: later ++ ',' :: rest) =
      some (first :: later, [], ',' :: rest) := by
    simp only [mantissa?, whole, List.drop_left]
    rfl
  rw [Binary64.read?, List.cons_append, signOf_of_isDigit digit]
  simp only [← List.cons_append, mantissa, notWord "inf" (by decide),
    notWord "infinity" (by decide), notWord "nan" (by decide), or_self, if_false]
  rfl

end Triage.Number

namespace Triage.Config

open Triage.Number Triage.Text Triage.Toml

/-! ## Texts of lists -/

/-- The statuses in decimal digits, with commas between them. -/
def commaText (statuses : List UInt16) : String :=
  ",".intercalate (statuses.map fun status => toString status.toNat)

theorem toList_commaText (statuses : List UInt16) :
    (commaText statuses).toList =
      [','].intercalate (statuses.map fun status => decimal status.toNat) := by
  rw [commaText, String.toList_intercalate, List.map_map]
  congr 2
  funext status
  exact Nat.toList_repr

/-- A list of two statuses and more starts with digits and a comma. -/
theorem exists_toList_commaText {statuses : List UInt16} (several : 2 ≤ statuses.length) :
    ∃ digits rest, IsNumeral digits ∧ (commaText statuses).toList = digits ++ ',' :: rest := by
  rcases statuses with _ | ⟨first, _ | ⟨second, later⟩⟩
  · contradiction
  · contradiction
  · refine ⟨decimal first.toNat,
      [','].intercalate ((second :: later).map fun status => decimal status.toNat),
      isNumeral_decimal _, ?_⟩
    rw [toList_commaText, List.map_cons, List.map_cons, List.intercalate_cons_cons,
      List.append_assoc]
    rfl

theorem eq_comma_or_isDigit_of_mem {statuses : List UInt16} {c : Char}
    (isIn : c ∈ (commaText statuses).toList) : c = ',' ∨ c.isDigit = true := by
  rw [toList_commaText] at isIn
  induction statuses with
  | nil => contradiction
  | cons status later ih =>
      cases later with
      | nil =>
          rw [List.map_singleton, List.intercalate_singleton] at isIn
          exact .inr (isDigit_of_mem_decimal _ isIn)
      | cons next later =>
          rw [List.map_cons, List.map_cons, List.intercalate_cons_cons, List.append_assoc,
            List.mem_append] at isIn
          rcases isIn with isDigit | isLater
          · exact .inr (isDigit_of_mem_decimal _ isDigit)
          · rcases List.mem_cons.mp isLater with rfl | isLater
            · exact .inl rfl
            · exact ih isLater

/-- The commas are where the list is split. -/
theorem splitOnP_commaText {statuses : List UInt16} (nonempty : statuses ≠ []) :
    (commaText statuses).toList.splitOnP (· = ',') =
      statuses.map fun status => decimal status.toNat := by
  have noComma : ∀ digits ∈ statuses.map fun status => decimal status.toNat, ',' ∉ digits := by
    intro digits isIn comma
    obtain ⟨status, -, rfl⟩ := List.mem_map.mp isIn
    have digit := isDigit_of_mem_decimal _ comma
    contradiction
  have split := List.splitOn_intercalate ',' noComma (by simpa using nonempty)
  rw [toList_commaText]
  exact split

/-- Two statuses and more are a list of texts. -/
theorem setting_commaText {statuses : List UInt16} (several : 2 ≤ statuses.length) :
    Variable.setting Variable.listKey (commaText statuses) =
      .list (some .environment) (statuses.map fun status =>
        .scalar (some .environment) (.text (String.ofList (decimal status.toNat)))) := by
  obtain ⟨digits, rest, numeral, isText⟩ := exists_toList_commaText several
  have noWord : Variable.boolean? (commaText statuses) = none := by
    apply Variable.boolean?_eq_none
    · intro c isIn
      rcases eq_comma_or_isDigit_of_mem isIn with rfl | digit
      · decide
      · exact isLowerAscii_of_isDigit digit
    · rintro c isIn rfl
      rcases eq_comma_or_isDigit_of_mem isIn with comma | digit <;> contradiction
  have noInteger : integerWithin? (-9223372036854775808) 9223372036854775807
      (commaText statuses).toList = none := by
    obtain ⟨first, later, rfl, digit⟩ := numeral.exists_eq_cons
    rw [integerWithin?, Text.integer?, isText, List.cons_append, signOf_of_isDigit digit]
    simp
  have noNumber : Binary64.read? (commaText statuses).toList = none := by
    rw [isText, Binary64.read?_eq_none_of_comma numeral]
  have nonempty : statuses ≠ [] := by
    rintro rfl
    contradiction
  simp only [Variable.setting, noWord, noInteger, noNumber, if_true, splitOnP_commaText nonempty,
    List.map_map]
  rfl

/-- A text of digits is read as a status. -/
theorem word16_digits (origin : Option Origin) (status : UInt16) :
    word16 (.scalar origin (.text (String.ofList (decimal status.toNat)))) = .ok status := by
  have numeral := isNumeral_decimal status.toNat
  obtain ⟨first, later, isCons, digit⟩ := numeral.exists_eq_cons
  have lower : lowercase (String.ofList (decimal status.toNat)) =
      String.ofList (decimal status.toNat) := by
    apply lowercase_of_isLowerAscii
    intro c isIn
    rw [String.toList_ofList] at isIn
    exact isLowerAscii_of_isDigit (numeral.allDigits c isIn)
  have notWord (word : String) (letter : word.toList.head?.any Char.isDigit = false) :
      String.ofList (decimal status.toNat) ≠ word := by
    rw [isCons]
    exact ofList_ne_of_isDigit digit letter
  have noWord : booleanWord? (String.ofList (decimal status.toNat)) = none := by
    simp only [booleanWord?, lower, notWord "true" (by decide), notWord "on" (by decide),
      notWord "yes" (by decide), notWord "false" (by decide), notWord "off" (by decide),
      notWord "no" (by decide), or_self, if_false]
  have status_lt := status.toNat_lt
  have isNatural : natural (.scalar origin (.text (String.ofList (decimal status.toNat)))) =
      .ok status.toNat := by
    have fits : (natural? (decimal status.toNat)).filter (· ≤ 18446744073709551615) =
        some status.toNat := by
      rw [natural?_of_isNumeral numeral, numberOfDigits_decimal, Option.filter_some,
        if_pos (by simp; omega)]
    simp only [natural, noWord, String.toList_ofList, fits, Option.map_none]
    rfl
  rw [word16, word, isNatural]
  change UInt16.ofNat <$> (if status.toNat < Nat.pow 2 16 then _ else _) = _
  rw [if_pos status_lt]
  exact congrArg Except.ok UInt16.ofNat_toNat

/-- Two statuses and more are read as these statuses. -/
theorem list_word16_setting {statuses : List UInt16} (several : 2 ≤ statuses.length) :
    list word16 (Variable.setting Variable.listKey (commaText statuses)) = .ok statuses := by
  rw [setting_commaText several]
  exact items_of_forall (word16_digits _) statuses 0

/-- A single status is an integer and no list. -/
theorem list_word16_single (status : UInt16) :
    list word16 (Variable.setting Variable.listKey (commaText [status])) =
      .error (.shape (.integer status.toNat) .list) := by
  have writes : Variable.Writes (commaText [status]) (.integer status.toNat) := by
    apply Variable.Writes.integer
    rw [commaText, List.map_singleton, String.intercalate_singleton]
    exact writesInteger_toString status.toNat
  have status_lt := status.toNat_lt
  rw [Variable.setting_of_writes _ writes (PlainValue.has64Bits_natCast (by omega))]
  rfl

/-! ## Statuses laid over a tree -/

/-- The key of the list of statuses. -/
def statusesKey : ChoiceKey := .clock .statuses

/-- The only variable that overrides anything holds the statuses. -/
structure SetsStatuses (word : String) (environment : List Variable) (statuses : List UInt16) :
    Prop where
  isSet : ⟨statusesKey.variableName word, commaText statuses⟩ ∈ environment
  onlySet : ∀ entry ∈ environment, entry.Overrides word →
    entry = ⟨statusesKey.variableName word, commaText statuses⟩

/-- Only a setting for the list of statuses is chosen. -/
def onlyStatuses (setting : Setting) (key : ChoiceKey) : Option Setting :=
  if key = statusesKey then some setting else none

theorem SetsStatuses.setsChoices {word : String} {environment : List Variable}
    {statuses : List UInt16} (sets : SetsStatuses word environment statuses) :
    SetsChoices word environment
      (onlyStatuses (Variable.setting Variable.listKey (commaText statuses))) where
  isSet key setting isChosen := by
    unfold onlyStatuses at isChosen
    split at isChosen
    · rename_i isStatuses
      exact ⟨_, sets.isSet, congrArg (ChoiceKey.variableName word) isStatuses.symm⟩
    · contradiction
  onlySet entry isIn overrides := by
    rw [sets.onlySet entry isIn overrides]
    exact ⟨statusesKey, rfl, rfl⟩

variable {before after : Entries Setting} {setting : Setting} {statuses : List UInt16}
  {file : Config}

theorem isLeaf_of_onlyStatuses {key : ChoiceKey} {value : Setting} (leaf : setting.IsLeaf)
    (isChosen : onlyStatuses setting key = some value) : value.IsLeaf := by
  unfold onlyStatuses at isChosen
  split at isChosen
  · cases isChosen
    exact leaf
  · contradiction

/-- The choices for delays and attempts are read as before. -/
theorem read_backoff_of_onlyStatuses
    (overridden : Overridden (onlyStatuses setting) before after)
    (wasRead : Group.read (.named before) "strategy" 0 Backoff.ofSetting Backoff.standard =
      .ok file.backoff) :
    Group.read (.named after) "strategy" 0 Backoff.ofSetting Backoff.standard =
      .ok file.backoff := by
  have same : Entries.get? after "strategy" = Entries.get? before "strategy" := by
    apply overridden.untouched
    rintro (key | key) isBackoff
    · rfl
    · exact absurd isBackoff (show clockKeys.head.name ≠ "strategy" by decide)
  exact (Group.read_congr same).trans wasRead

theorem get?_statuses_of_onlyStatuses
    (overridden : Overridden (onlyStatuses setting) before after) :
    Entries.get? (groupEntries after "clock_skew") "sensitive_status_codes" = some setting :=
  overridden.value statusesKey

/-- Statuses that can be read are read, and the other choices for wrong clocks as before. -/
theorem readFrom_of_onlyStatuses {clock : Clock}
    (overridden : Overridden (onlyStatuses setting) before after)
    (reads : list word16 setting = .ok statuses)
    (readFrom : Clock.ReadFrom (.named (groupEntries before "clock_skew")) clock) :
    Clock.ReadFrom (.named (groupEntries after "clock_skew"))
      { clock with sensitiveStatuses := statuses } where
  statuses := Group.read_of_present (get?_statuses_of_onlyStatuses overridden) reads
  threshold :=
    (Group.read_congr (overridden.value (.clock .threshold))).trans readFrom.threshold
  onAnyStatus :=
    (Group.read_congr (overridden.value (.clock .onAnyStatus))).trans readFrom.onAnyStatus

theorem ofEntries_of_onlyStatuses {clock : Clock}
    (overridden : Overridden (onlyStatuses setting) before after)
    (reads : list word16 setting = .ok statuses) (wasRead : ofEntries before = .ok file)
    (readFrom : Clock.ReadFrom (.named (groupEntries before "clock_skew")) clock) :
    ofEntries after = .ok ⟨file.backoff, { clock with sensitiveStatuses := statuses }⟩ := by
  refine ofEntries_eq_ok_iff.mpr ⟨?_, ?_⟩
  · exact read_backoff_of_onlyStatuses overridden (ofEntries_eq_ok_iff.mp wasRead).1
  · exact (Clock.read_iff (.inr (overridden.hasTable statusesKey rfl))).mpr
      (readFrom_of_onlyStatuses overridden reads readFrom)

/-- Statuses that cannot be read spoil the configuration. -/
theorem ofEntries_of_shape {found : Found}
    (overridden : Overridden (onlyStatuses setting) before after)
    (fails : list word16 setting = .error (.shape found .list))
    (wasRead : ofEntries before = .ok file) :
    ofEntries after = .error (.shape found .list) := by
  have backoff := read_backoff_of_onlyStatuses overridden (ofEntries_eq_ok_iff.mp wasRead).1
  have isThere := get?_statuses_of_onlyStatuses overridden
  obtain ⟨origin, inner, isTable⟩ := overridden.hasTable statusesKey rfl
  have isClock : Entries.get? after "clock_skew" = some (.table origin inner) := isTable
  have isInner : groupEntries after "clock_skew" = inner := by
    rw [groupEntries, isClock]
    rfl
  have statusesFail : Group.read (.named inner) "sensitive_status_codes" 0 (list word16)
      Clock.standard.sensitiveStatuses = .error (.shape found .list) := by
    rw [isInner] at isThere
    rw [Group.read, Group.get?, isThere]
    change (list word16 setting).mapError _ = _
    rw [fails]
    rfl
  have clockFails : Group.read (.named after) "clock_skew" 1 Clock.ofSetting Clock.standard =
      .error (.shape found .list) := by
    rw [Group.read, Group.get?, isClock]
    change (Clock.ofSetting (.table origin inner)).mapError _ = _
    simp only [Clock.ofSetting, Group.ofSetting, bind, Except.bind, statusesFail]
    rfl
  simp only [ofEntries, bind, Except.bind, backoff, clockFails]

/-! ## Files -/

/-- What a document gives for the choices for wrong clocks. -/
def clockSetting? (text : String) : Option Setting := do
  let values ← Toml.read? text
  let tree ← Setting.emptyTable.putAll? (Setting.entriesOfToml none values)
  Entries.get? tree.asTable.2 "clock_skew"

/-- The setting is a list. -/
def Setting.isList : Setting → Bool
  | .list _ _ => true
  | _ => false

/-- The document gives the choices for wrong clocks as a list, in order and without names. -/
def ListsClock (text : String) : Prop := (clockSetting? text).any Setting.isList = true

instance (text : String) : Decidable (ListsClock text) := inferInstanceAs (Decidable (_ = true))

theorem Setting.isList_withoutOrigin (setting : Setting) :
    setting.withoutOrigin.isList = setting.isList := by
  cases setting <;> rfl

theorem listsClock_iff {text : String} {values : Entries Toml.Value}
    (isDocument : Toml.read? text = some values)
    (isTree : Setting.emptyTable.putAll? (Setting.entriesOfToml none values) =
      some (.table none (Setting.entriesWithoutOrigin before))) :
    ListsClock text ↔
      ∃ origin items, Entries.get? before "clock_skew" = some (.list origin items) := by
  have bare : clockSetting? text =
      (Entries.get? before "clock_skew").map Setting.withoutOrigin := by
    rw [← Entries.get?_mapValues, ← Setting.entriesWithoutOrigin_eq_mapValues]
    simp only [clockSetting?, isDocument, isTree, Option.bind_eq_bind, Option.bind_some]
    rfl
  rw [ListsClock, bare, Option.any_map]
  cases Entries.get? before "clock_skew" with
  | none => simp
  | some group =>
      rw [Option.any_some, Setting.isList_withoutOrigin]
      cases group <;> simp [Setting.isList]

/-- A group of choices that was read is missing, a table or a list. -/
theorem isNamedGroup_or_list {clock : Clock}
    (wasRead : Group.read (.named before) "clock_skew" 1 Clock.ofSetting Clock.standard =
      .ok clock) :
    IsNamedGroup before "clock_skew" ∨
      ∃ origin items, Entries.get? before "clock_skew" = some (.list origin items) := by
  cases isThere : Entries.get? before "clock_skew" with
  | none => exact .inl (.inl isThere)
  | some group =>
      cases group with
      | table origin inner => exact .inl (.inr ⟨origin, inner, isThere⟩)
      | list origin items => exact .inr ⟨origin, items, rfl⟩
      | scalar origin value =>
          have impossible := (Group.read_eq_ok_iff isThere).mp wasRead
          contradiction

/-- A group that is a list has no entries with names. -/
theorem readFrom_of_list
    (isList : ∃ origin items, Entries.get? before "clock_skew" = some (.list origin items)) :
    Clock.ReadFrom (.named (groupEntries before "clock_skew")) Clock.standard := by
  obtain ⟨origin, items, isThere⟩ := isList
  rw [groupEntries, isThere]
  constructor <;> rfl

theorem checked_sensitiveStatuses {clock : Clock} (valid : file.fault? = none)
    (nonneg : 0 ≤ clock.thresholdSeconds) (statuses : List UInt16) :
    checked ⟨file.backoff, { clock with sensitiveStatuses := statuses }⟩ =
      .ok ⟨file.backoff, { clock with sensitiveStatuses := statuses }⟩ := by
  obtain ⟨attempts, delays, jitter, -⟩ := fault?_eq_none_iff.mp valid
  exact checked_eq_ok_iff.mpr ⟨rfl, fault?_eq_none_iff.mpr ⟨attempts, delays, jitter, nonneg⟩⟩

/-- A file that is loaded on its own is loaded with the statuses of a variable in place of
its own when there are two and more.  Its other choices stay, but for the choices for wrong
clocks of a file that lists them without names, which are the standard ones then.  A file is
refused under a variable that holds a single status.  As the names of the file are apart,
the order in which the entries of its tables are taken makes no difference to any of this. -/
theorem listed_statuses_override_file_unless_single (lookUp : String → Target) (word : String)
    (environment : List Variable) (path : List UInt8) (pathText name text : String)
    (file : Config) (statuses : List UInt16) (isText : textOfBytes? path = some pathText)
    (isFile : lookUp pathText = .file name text) (apart : HasNamesApart text)
    (loads : loadBytes lookUp word [] path = .ok file)
    (sets : SetsStatuses word environment statuses) :
    (2 ≤ statuses.length → ¬ ListsClock text →
      loadBytes lookUp word environment path =
        .ok ⟨file.backoff, { file.clock with sensitiveStatuses := statuses }⟩) ∧
    (2 ≤ statuses.length → ListsClock text →
      loadBytes lookUp word environment path =
        .ok ⟨file.backoff, { Clock.standard with sensitiveStatuses := statuses }⟩) ∧
    (∀ status, statuses = [status] →
      loadBytes lookUp word environment path =
        .error (.unreadable (.shape (.integer status.toNat) .list))) ∧
    ∀ result, InSomeOrder (some (.file name)) text (overrides word environment) result →
      result = loadBytes lookUp word environment path := by
  have textLoads := ofText_of_loadBytes isText isFile loads
  have valid := fault?_of_ofText textLoads
  obtain ⟨values, before, isDocument, isTree, wasRead, isBare⟩ :=
    exists_fileTree (decodedText_of_ofText textLoads) name
  have clockRead := (ofEntries_eq_ok_iff.mp wasRead).2
  have leaves : ∀ key value,
      onlyStatuses (Variable.setting Variable.listKey (commaText statuses)) key = some value →
        value.IsLeaf :=
    fun _ _ => isLeaf_of_onlyStatuses (Variable.isLeaf_setting _ _)
  obtain ⟨after, isPut, overridden⟩ := sets.setsChoices.exists_putAll? leaves before
  have keeps := sets.setsChoices.keepsAlike leaves
  have onlyResult := apart.eq_of_inSomeOrder keeps (inSomeOrder_ofFile word environment name text)
  rw [← loadBytes_eq_ofFile isText isFile] at onlyResult
  have isLoaded := loadBytes_eq isText isFile isDocument isTree isPut
  have lists_iff := listsClock_iff isDocument isBare
  refine ⟨?named, ?listed, ?single, ?anyOrder⟩
  case named =>
    intro several notListed
    have isNamed := (isNamedGroup_or_list clockRead).resolve_right (mt lists_iff.mpr notListed)
    rw [isLoaded, ofEntries_of_onlyStatuses overridden (list_word16_setting several) wasRead
      ((Clock.read_iff isNamed).mp clockRead)]
    exact checked_sensitiveStatuses valid (fault?_eq_none_iff.mp valid).2.2.2 statuses
  case listed =>
    intro several isListed
    rw [isLoaded, ofEntries_of_onlyStatuses overridden (list_word16_setting several) wasRead
      (readFrom_of_list (lists_iff.mp isListed))]
    exact checked_sensitiveStatuses valid (by decide) statuses
  case single =>
    rintro status rfl
    rw [isLoaded, ofEntries_of_shape overridden (list_word16_single status) wasRead]
    rfl
  case anyOrder =>
    intro result inOrder
    rw [onlyResult]
    exact apart.eq_of_inSomeOrder keeps inOrder

/-- A folder with one file, which lists its choices for wrong clocks without names. -/
def listingFolder : Folder := ⟨[("retry.toml", "clock_skew = [[401], 600, true]\n")]⟩

/-- A variable for two statuses, and one that overrides nothing. -/
def twoStatuses : List Variable :=
  [⟨"SVC_RETRY__CLOCK_SKEW__SENSITIVE_STATUS_CODES", "400,403"⟩, ⟨"PATH", "/bin"⟩]

theorem listed_statuses_override_file_unless_single_unnamed :
    loadBytes listingFolder.lookUp standardWord [] ("retry.toml".toList.map Char.toUInt8) =
        .ok ⟨Backoff.standard, ⟨[401], 600, true⟩⟩ ∧
      loadBytes listingFolder.lookUp standardWord twoStatuses
          ("retry.toml".toList.map Char.toUInt8) =
        .ok ⟨Backoff.standard, { Clock.standard with sensitiveStatuses := [400, 403] }⟩ := by
  have loads : loadBytes listingFolder.lookUp standardWord []
      ("retry.toml".toList.map Char.toUInt8) = .ok ⟨Backoff.standard, ⟨[401], 600, true⟩⟩ := by
    decide +kernel
  have sets : SetsStatuses standardWord twoStatuses [400, 403] := by
    constructor
    · decide
    · decide
  have listed : ListsClock "clock_skew = [[401], 600, true]\n" := by decide +kernel
  have overrides := listed_statuses_override_file_unless_single listingFolder.lookUp standardWord
    twoStatuses ("retry.toml".toList.map Char.toUInt8) "retry.toml" "retry.toml"
    "clock_skew = [[401], 600, true]\n" _ [400, 403] (by decide) (by decide)
    (by decide +kernel) loads sets
  exact ⟨loads, overrides.2.1 (by decide) listed⟩

/-- An empty file is loaded, and is refused under a variable for a single status. -/
theorem single_status_is_refused :
    loadBytes emptyFile.lookUp standardWord [] ("retry.toml".toList.map Char.toUInt8) =
        .ok standard ∧
      loadBytes emptyFile.lookUp standardWord
          [⟨"SVC_RETRY__CLOCK_SKEW__SENSITIVE_STATUS_CODES", "403"⟩]
          ("retry.toml".toList.map Char.toUInt8) =
        .error (.unreadable (.shape (.integer 403) .list)) :=
  ⟨by decide +kernel, by decide +kernel⟩

end Triage.Config

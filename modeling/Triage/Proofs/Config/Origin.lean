import Triage.Config.Load
import Triage.Proofs.Config.Decode

/-!
# Settings without their origins

Nothing depends on where a setting was found but the words of a mismatch.  Forgetting the
origins goes through every change of a tree and through every reading of a setting.
-/

namespace Triage.Config

open Triage.Text

/-! ## Trees -/

namespace Setting

mutual

/-- The setting without its origin and the origins of what it holds. -/
def withoutOrigin : Setting → Setting
  | .scalar _ value => .scalar none value
  | .list _ items => .list none (itemsWithoutOrigin items)
  | .table _ entries => .table none (entriesWithoutOrigin entries)

/-- The items of a list without their origins. -/
def itemsWithoutOrigin : List Setting → List Setting
  | [] => []
  | item :: later => item.withoutOrigin :: itemsWithoutOrigin later

/-- The entries of a table without their origins. -/
def entriesWithoutOrigin : List (String × Setting) → Entries Setting
  | [] => []
  | (name, value) :: later => (name, value.withoutOrigin) :: entriesWithoutOrigin later

end

theorem itemsWithoutOrigin_eq_map (items : List Setting) :
    itemsWithoutOrigin items = items.map withoutOrigin := by
  induction items with
  | nil => rfl
  | cons item later ih => rw [itemsWithoutOrigin, ih, List.map_cons]

theorem entriesWithoutOrigin_eq_mapValues (entries : Entries Setting) :
    entriesWithoutOrigin entries = Entries.mapValues withoutOrigin entries := by
  induction entries with
  | nil => rfl
  | cons entry later ih =>
      rw [entriesWithoutOrigin, ih]
      rfl

mutual

/-- Values of a document are the same settings wherever the document was found. -/
theorem withoutOrigin_ofToml (origin : Option Origin) :
    ∀ value, (ofToml origin value).withoutOrigin = ofToml none value
  | .text _ => rfl
  | .integer _ => rfl
  | .real _ => rfl
  | .boolean _ => rfl
  | .moment _ => rfl
  | .array items => by rw [ofToml, withoutOrigin, withoutOrigin_itemsOfToml, ofToml]
  | .table entries => by rw [ofToml, withoutOrigin, withoutOrigin_entriesOfToml, ofToml]

theorem withoutOrigin_itemsOfToml (origin : Option Origin) :
    ∀ items, itemsWithoutOrigin (itemsOfToml origin items) = itemsOfToml none items
  | [] => rfl
  | item :: later => by
      rw [itemsOfToml, itemsWithoutOrigin, withoutOrigin_ofToml, withoutOrigin_itemsOfToml,
        itemsOfToml]

theorem withoutOrigin_entriesOfToml (origin : Option Origin) :
    ∀ entries, entriesWithoutOrigin (entriesOfToml origin entries) = entriesOfToml none entries
  | [] => rfl
  | (name, value) :: later => by
      rw [entriesOfToml, entriesWithoutOrigin, withoutOrigin_ofToml,
        withoutOrigin_entriesOfToml, entriesOfToml]

end

theorem asTable_withoutOrigin (setting : Setting) :
    setting.withoutOrigin.asTable = (none, Entries.mapValues withoutOrigin setting.asTable.2) := by
  cases setting with
  | scalar origin value => rfl
  | list origin items => rfl
  | table origin entries =>
      rw [withoutOrigin, entriesWithoutOrigin_eq_mapValues]
      rfl

theorem asList_withoutOrigin (setting : Setting) :
    setting.withoutOrigin.asList = (none, setting.asList.2.map withoutOrigin) := by
  cases setting with
  | scalar origin value => rfl
  | list origin items =>
      rw [withoutOrigin, itemsWithoutOrigin_eq_map]
      rfl
  | table origin entries => rfl

theorem withoutOrigin_changeEntry (setting : Setting) (name : String)
    {change bare : Option Setting → Setting}
    (commutes : ∀ previous, (change previous).withoutOrigin = bare (previous.map withoutOrigin)) :
    (setting.changeEntry name change).withoutOrigin =
      setting.withoutOrigin.changeEntry name bare := by
  rw [changeEntry, changeEntry, asTable_withoutOrigin]
  simp only [withoutOrigin, entriesWithoutOrigin_eq_mapValues, Entries.get?_mapValues, ← commutes,
    Entries.put_mapValues]

mutual

/-- What is laid over a setting does not depend on origins. -/
theorem withoutOrigin_laidOver :
    ∀ (value : Setting) (previous : Option Setting),
      (laidOver value previous).withoutOrigin =
        laidOver value.withoutOrigin (previous.map withoutOrigin)
  | .scalar _ _, _ => rfl
  | .list _ _, _ => rfl
  | .table _ entries, previous => by
      rw [laidOver, withoutOrigin_entriesLaidOver, withoutOrigin, laidOver]
      cases previous <;> rfl

theorem withoutOrigin_entriesLaidOver :
    ∀ (entries : List (String × Setting)) (setting : Setting),
      (entriesLaidOver entries setting).withoutOrigin =
        entriesLaidOver (entriesWithoutOrigin entries) setting.withoutOrigin
  | [], _ => rfl
  | (name, value) :: later, setting => by
      rw [entriesLaidOver, withoutOrigin_entriesLaidOver later, entriesWithoutOrigin,
        entriesLaidOver, withoutOrigin_changeEntry setting name (withoutOrigin_laidOver value)]

end

theorem extended_map_withoutOrigin (items : List Setting) (place : Nat) :
    extended (items.map withoutOrigin) place = (extended items place).map withoutOrigin := by
  simp only [extended, List.map_append, List.map_replicate, List.length_map]
  rfl

theorem getD_map_withoutOrigin (previous : Option Setting) :
    (previous.map withoutOrigin).getD nothing = (previous.getD nothing).withoutOrigin := by
  cases previous <;> rfl

/-- Whether there is a place for a value does not depend on origins. -/
theorem placed?_withoutOrigin (value : Setting) (steps : List Step) (previous : Option Setting) :
    placed? value.withoutOrigin steps (previous.map withoutOrigin) =
      (placed? value steps previous).map withoutOrigin := by
  induction steps generalizing previous with
  | nil => rw [placed?, placed?, Option.map_some, withoutOrigin_laidOver]
  | cons step later ih =>
      cases step with
      | name name =>
          rw [placed?, placed?, getD_map_withoutOrigin, asTable_withoutOrigin]
          simp only [Entries.get?_mapValues, ih, Option.map_map]
          congr 1
          funext inner
          simp only [Function.comp_apply, Entries.put_mapValues, withoutOrigin,
            entriesWithoutOrigin_eq_mapValues]
      | item index =>
          rw [placed?, placed?, getD_map_withoutOrigin, asList_withoutOrigin]
          simp only [List.length_map, Option.map_bind]
          congr 1
          funext place
          simp only [extended_map_withoutOrigin, List.getElem?_map, ih, Function.comp_apply]
          split
          · simp [withoutOrigin, itemsWithoutOrigin_eq_map, List.map_set]
          · rw [Option.map_map, Option.map_map]
            congr 1
            funext inner
            simp [withoutOrigin, itemsWithoutOrigin_eq_map, List.map_set]

theorem putAll?_withoutOrigin (setting : Setting) (settings : List (String × Setting)) :
    setting.withoutOrigin.putAll? (Entries.mapValues withoutOrigin settings) =
      (setting.putAll? settings).map withoutOrigin := by
  induction settings generalizing setting with
  | nil => rfl
  | cons entry later ih =>
      rcases entry with ⟨key, value⟩
      have put : setting.withoutOrigin.put? (KeyPath.ofKey key) value.withoutOrigin =
          (setting.put? (KeyPath.ofKey key) value).map withoutOrigin :=
        placed?_withoutOrigin value _ (some setting)
      change ((setting.withoutOrigin.put? (KeyPath.ofKey key) value.withoutOrigin).bind fun inner =>
        inner.putAll? (Entries.mapValues withoutOrigin later)) = _
      rw [put, putAll?]
      cases setting.put? (KeyPath.ofKey key) value with
      | none => rfl
      | some inner => exact ih inner

end Setting

/-! ## Mismatches -/

/-- The mismatch without the origin that its words name. -/
def Mismatch.withoutOrigin : Mismatch → Mismatch
  | value found expected trail _ => value found expected trail none
  | shape found expected => shape found expected

theorem Mismatch.withoutOrigin_within (step : Step) (problem : Mismatch) :
    (problem.within step).withoutOrigin = problem.withoutOrigin.within step := by
  cases problem <;> rfl

theorem Setting.found_withoutOrigin (setting : Setting) :
    setting.withoutOrigin.found = setting.found := by
  cases setting with
  | scalar origin value => cases value <;> rfl
  | list origin items => rfl
  | table origin entries => rfl

/-- What a reading gives for a setting and for the setting without its origins differs in
the origin of a mismatch only. -/
def IgnoresOrigin {α : Type} (read : Setting → Decoded α) : Prop :=
  ∀ setting, read setting.withoutOrigin = (read setting).mapError Mismatch.withoutOrigin

/-! ## Readings -/

section

variable {α β : Type} {read : Setting → Decoded α}

theorem IgnoresOrigin.map (ignores : IgnoresOrigin read) (result : α → β) :
    IgnoresOrigin fun setting => result <$> read setting := by
  intro setting
  rw [mapError_map, ← ignores setting]

theorem ignoresOrigin_natural : IgnoresOrigin natural := by
  intro setting
  cases setting with
  | list origin items => rfl
  | table origin entries => rfl
  | scalar origin value =>
      cases value with
      | unit => rfl
      | boolean value => rfl
      | integer value =>
          simp only [Setting.withoutOrigin, natural]
          split <;> rfl
      | real value => rfl
      | text text =>
          simp only [Setting.withoutOrigin, natural]
          split <;> rfl

theorem ignoresOrigin_word (bits : Nat) : IgnoresOrigin (word bits) := by
  intro setting
  rw [word, word, mapError_bind, ignoresOrigin_natural setting]
  congr 1
  funext value
  split <;> rfl

theorem ignoresOrigin_signed : IgnoresOrigin signed := by
  intro setting
  cases setting with
  | list origin items => rfl
  | table origin entries => rfl
  | scalar origin value =>
      cases value with
      | unit => rfl
      | boolean value => rfl
      | integer value => rfl
      | real value => rfl
      | text text =>
          simp only [Setting.withoutOrigin, signed]
          split <;> rfl

theorem ignoresOrigin_boolean : IgnoresOrigin boolean := by
  intro setting
  cases setting with
  | list origin items => rfl
  | table origin entries => rfl
  | scalar origin value =>
      cases value with
      | unit => rfl
      | boolean value => rfl
      | integer value => rfl
      | real value => rfl
      | text text =>
          simp only [Setting.withoutOrigin, boolean]
          split
          · rfl
          · split
            · rfl
            · split <;> rfl

theorem mapError_within_withoutOrigin (result : Decoded α) (step : Step) :
    (result.mapError (Mismatch.within step)).mapError Mismatch.withoutOrigin =
      (result.mapError Mismatch.withoutOrigin).mapError (Mismatch.within step) := by
  rw [mapError_mapError, mapError_mapError]
  congr 1
  funext problem
  exact problem.withoutOrigin_within step

theorem items_withoutOrigin (ignores : IgnoresOrigin read) (index : Nat)
    (settings : List Setting) :
    items read index (Setting.itemsWithoutOrigin settings) =
      (items read index settings).mapError Mismatch.withoutOrigin := by
  induction settings generalizing index with
  | nil => rfl
  | cons setting later ih =>
      rw [Setting.itemsWithoutOrigin, items, items, ih, ignores setting, mapError_bind,
        mapError_within_withoutOrigin]
      congr 1
      funext value
      rw [mapError_bind]
      rfl

theorem ignoresOrigin_list (ignores : IgnoresOrigin read) : IgnoresOrigin (list read) := by
  intro setting
  cases setting with
  | scalar origin value =>
      simp only [list, ← Setting.found_withoutOrigin (.scalar origin value)]
      rfl
  | list origin settings => exact items_withoutOrigin ignores 0 settings
  | table origin entries => rfl

/-! ## Groups -/

/-- The group with its settings without their origins. -/
def Group.withoutOrigin : Group → Group
  | named entries => named (Setting.entriesWithoutOrigin entries)
  | ordered settings => ordered (Setting.itemsWithoutOrigin settings)

theorem Group.ofSetting_withoutOrigin (shape : Shape) (setting : Setting) :
    Group.ofSetting shape setting.withoutOrigin =
      Group.withoutOrigin <$> (Group.ofSetting shape setting).mapError Mismatch.withoutOrigin := by
  cases setting with
  | scalar origin value =>
      simp only [Group.ofSetting, ← Setting.found_withoutOrigin (.scalar origin value)]
      rfl
  | list origin settings => rfl
  | table origin entries => rfl

theorem Group.read_withoutOrigin (ignores : IgnoresOrigin read) (group : Group) (name : String)
    (place : Nat) (standard : α) :
    group.withoutOrigin.read name place read standard =
      (group.read name place read standard).mapError Mismatch.withoutOrigin := by
  have found : group.withoutOrigin.get? name place =
      (group.get? name place).map (Prod.map id Setting.withoutOrigin) := by
    cases group with
    | named entries =>
        rw [withoutOrigin, get?, get?, Setting.entriesWithoutOrigin_eq_mapValues,
          Entries.get?_mapValues, Option.map_map, Option.map_map]
        rfl
    | ordered settings =>
        rw [withoutOrigin, get?, get?, Setting.itemsWithoutOrigin_eq_map, List.getElem?_map,
          Option.map_map, Option.map_map]
        rfl
  rw [Group.read, Group.read, found]
  cases group.get? name place with
  | none => rfl
  | some there =>
      rcases there with ⟨step, setting⟩
      rw [mapError_within_withoutOrigin, ← ignores setting]
      rfl

end

/-- A reading of a group ignores origins when the rest of the reading does. -/
theorem ignoresOrigin_group {α : Type} {shape : Shape} {rest : Group → Decoded α}
    (ignores : ∀ group : Group,
      rest group.withoutOrigin = (rest group).mapError Mismatch.withoutOrigin) :
    IgnoresOrigin fun setting => Group.ofSetting shape setting >>= rest := by
  intro setting
  simp only [Group.ofSetting_withoutOrigin, mapError_bind]
  cases Group.ofSetting shape setting with
  | error problem => rfl
  | ok group => exact ignores group

theorem ignoresOrigin_backoff : IgnoresOrigin Backoff.ofSetting := by
  have word64 : IgnoresOrigin word64 := ignoresOrigin_natural.map UInt64.ofNat
  have word32 : IgnoresOrigin word32 := (ignoresOrigin_word 32).map UInt32.ofNat
  have word8 : IgnoresOrigin word8 := (ignoresOrigin_word 8).map UInt8.ofNat
  apply ignoresOrigin_group
  intro group
  simp only [Group.read_withoutOrigin word64, Group.read_withoutOrigin word32,
    Group.read_withoutOrigin word8, mapError_bind]
  rfl

theorem ignoresOrigin_clock : IgnoresOrigin Clock.ofSetting := by
  have statuses : IgnoresOrigin (list word16) :=
    ignoresOrigin_list ((ignoresOrigin_word 16).map UInt16.ofNat)
  have threshold : IgnoresOrigin integer := ignoresOrigin_signed.map Int64.ofInt
  apply ignoresOrigin_group
  intro group
  simp only [Group.read_withoutOrigin statuses, Group.read_withoutOrigin threshold,
    Group.read_withoutOrigin ignoresOrigin_boolean, mapError_bind]
  rfl

theorem ofEntries_withoutOrigin (entries : Entries Setting) :
    ofEntries (Setting.entriesWithoutOrigin entries) =
      (ofEntries entries).mapError Mismatch.withoutOrigin := by
  have backoff := Group.read_withoutOrigin ignoresOrigin_backoff (.named entries) "strategy" 0
    Backoff.standard
  have clock := Group.read_withoutOrigin ignoresOrigin_clock (.named entries) "clock_skew" 1
    Clock.standard
  simp only [Group.withoutOrigin] at backoff clock
  simp only [ofEntries, backoff, clock, mapError_bind]
  rfl

/-! ## Loading -/

/-- The error without the origin that its words name. -/
def LoadError.withoutOrigin : LoadError → LoadError
  | unreadable problem => unreadable problem.withoutOrigin
  | error => error

/-- Settings make the same configuration wherever they were found, or are refused for the
same reason. -/
theorem ofSettings_withoutOrigin (settings : List (String × Setting)) :
    ofSettings (Setting.entriesWithoutOrigin settings) =
      (ofSettings settings).mapError LoadError.withoutOrigin := by
  have putAll : Setting.emptyTable.putAll? (Setting.entriesWithoutOrigin settings) =
      (Setting.emptyTable.putAll? settings).map Setting.withoutOrigin := by
    rw [Setting.entriesWithoutOrigin_eq_mapValues]
    exact Setting.putAll?_withoutOrigin Setting.emptyTable settings
  rw [ofSettings, ofSettings, putAll]
  cases Setting.emptyTable.putAll? settings with
  | none => rfl
  | some tree =>
      simp only [Option.map_some, Setting.asTable_withoutOrigin,
        ← Setting.entriesWithoutOrigin_eq_mapValues, ofEntries_withoutOrigin]
      cases ofEntries tree.asTable.2 with
      | error problem => rfl
      | ok config =>
          change checked config = (checked config).mapError LoadError.withoutOrigin
          unfold checked
          split <;> rfl

end Triage.Config

import Mathlib.Data.List.Forall2
import Triage.Proofs.Config.Tree
import Triage.Proofs.Config.Usability

/-!
# The order of names

The entries of a table have no order of their own, and whoever goes through them may take
them in any.  Where two names of a document lead to the same place, the one that is taken
last wins.  Where no two names do, the order makes no difference: the trees of two orders
are alike in all that is read of them, which are the entries of a group in the outermost
table, and whether such an entry is itself a table.
-/

namespace Triage.Config

open Triage.Text

variable {origin : Option Origin} {entries others settings taken : Entries Setting}
  {values : Entries Toml.Value} {text : String}

/-! ## Orders -/

/-- The same entry, but for the order of entries in the tables that names lead to.  Tables
in lists hold nothing that is read. -/
inductive SameEntry : String × Setting → String × Setting → Prop
  | refl (entry : String × Setting) : SameEntry entry entry
  | table {name : String} {origin : Option Origin} {entries matching others : Entries Setting}
      (matched : List.Forall₂ SameEntry entries matching) (moved : matching.Perm others) :
      SameEntry (name, .table origin entries) (name, .table origin others)

/-- The same entries in another order, in every table that names lead to. -/
def Reordered (entries others : Entries Setting) : Prop :=
  ∃ matching, List.Forall₂ SameEntry entries matching ∧ matching.Perm others

theorem exists_of_forall₂_of_mem {α β : Type} {related : α → β → Prop} {items : List α}
    {matching : List β} (matched : List.Forall₂ related items matching) {item : α}
    (isIn : item ∈ items) : ∃ other ∈ matching, related item other := by
  induction matched with
  | nil => contradiction
  | cons same _ ih =>
      rcases List.mem_cons.mp isIn with rfl | isLater
      · exact ⟨_, List.mem_cons_self, same⟩
      · obtain ⟨other, isMatch, same⟩ := ih isLater
        exact ⟨other, List.mem_cons_of_mem _ isMatch, same⟩

theorem SameEntry.name_eq {entry other : String × Setting} (same : SameEntry entry other) :
    entry.1 = other.1 := by
  cases same <;> rfl

namespace Reordered

/-- Only the order changes. -/
theorem of_perm (moved : entries.Perm others) : Reordered entries others :=
  ⟨entries, List.forall₂_same.mpr fun entry _ => .refl entry, moved⟩

theorem refl (entries : Entries Setting) : Reordered entries entries := of_perm (.refl entries)

/-- Tables with the same entries in another order are the same entry of a table. -/
theorem sameEntry (reordered : Reordered entries others) (name : String)
    (origin : Option Origin) :
    SameEntry (name, .table origin entries) (name, .table origin others) := by
  obtain ⟨matching, matched, moved⟩ := reordered
  exact .table matched moved

/-- Every entry is among the others. -/
theorem exists_of_mem {entry : String × Setting} (reordered : Reordered entries others)
    (isIn : entry ∈ entries) : ∃ other ∈ others, SameEntry entry other := by
  obtain ⟨matching, matched, moved⟩ := reordered
  obtain ⟨other, isMatch, same⟩ := exists_of_forall₂_of_mem matched isIn
  exact ⟨other, moved.mem_iff.mp isMatch, same⟩

/-- There are no others. -/
theorem exists_of_mem_others {other : String × Setting} (reordered : Reordered entries others)
    (isIn : other ∈ others) : ∃ entry ∈ entries, SameEntry entry other := by
  obtain ⟨matching, matched, moved⟩ := reordered
  exact exists_of_forall₂_of_mem (List.Forall₂.flip matched) (moved.mem_iff.mpr isIn)

/-- What only depends on the names of entries is the same up to the order. -/
theorem perm_map {α : Type} (reordered : Reordered entries others) (make : String → α) :
    (entries.map fun entry => make entry.1).Perm (others.map fun entry => make entry.1) := by
  obtain ⟨matching, matched, moved⟩ := reordered
  have same : (entries.map fun entry => make entry.1) =
      matching.map fun entry => make entry.1 := by
    clear moved
    induction matched with
    | nil => rfl
    | cons same _ ih => rw [List.map_cons, List.map_cons, ih, same.name_eq]
  rw [same]
  exact moved.map _

end Reordered

/-- What a document with more settings laid over it is loaded as when the entries of its
tables are taken in some order. -/
inductive InSomeOrder (origin : Option Origin) (text : String) (upper : List (String × Setting)) :
    Loaded Config → Prop
  | refused {error : LoadError} (isRefused : documentSettings origin text = .error error) :
      InSomeOrder origin text upper (.error error)
  | taken {settings taken : Entries Setting}
      (isDocument : documentSettings origin text = .ok settings)
      (reordered : Reordered settings taken) :
      InSomeOrder origin text upper (ofSettings (taken ++ upper))

/-- One of these orders is the one of the document. -/
theorem inSomeOrder_ofFile (word : String) (environment : List Variable) (name text : String) :
    InSomeOrder (some (.file name)) text (overrides word environment)
      (ofFile word environment name text) := by
  unfold ofFile
  cases isDocument : documentSettings (some (.file name)) text with
  | error error => exact .refused isDocument
  | ok settings => exact .taken isDocument (.refl settings)

theorem inSomeOrder_ofText (text : String) : InSomeOrder none text [] (ofText text) := by
  unfold ofText
  cases isDocument : documentSettings none text with
  | error error => exact .refused isDocument
  | ok settings =>
      have taken : InSomeOrder none text [] (ofSettings (settings ++ [])) :=
        .taken isDocument (.refl settings)
      rwa [List.append_nil] at taken

/-! ## Names that do not meet -/

/-- The step leads to an entry of a table. -/
def Step.isName : Step → Bool
  | .name _ => true
  | .item _ => false

/-- No two keys lead to the same entry of the outermost table, none leads into a list, and
no two names of a table in the outermost one have the same lower case.  Tables further down
hold nothing that is read. -/
structure NamesApart (settings : Entries Setting) : Prop where
  firsts : (settings.map fun setting => (KeyPath.ofKey setting.1).first).Nodup
  noIndex : ∀ setting ∈ settings, ∀ step ∈ (KeyPath.ofKey setting.1).steps, step.isName = true
  names : ∀ setting ∈ settings, (setting.2.asTable.2.map fun entry => lowercase entry.1).Nodup

theorem namesApart_iff : NamesApart settings ↔
    (settings.map fun setting => (KeyPath.ofKey setting.1).first).Nodup ∧
      (∀ setting ∈ settings, ∀ step ∈ (KeyPath.ofKey setting.1).steps, step.isName = true) ∧
      ∀ setting ∈ settings, (setting.2.asTable.2.map fun entry => lowercase entry.1).Nodup :=
  ⟨fun apart => ⟨apart.firsts, apart.noIndex, apart.names⟩,
    fun ⟨firsts, noIndex, names⟩ => ⟨firsts, noIndex, names⟩⟩

instance (settings : Entries Setting) : Decidable (NamesApart settings) :=
  decidable_of_iff' _ namesApart_iff

/-- The names of the document do not meet; a text that is no document has none. -/
def HasNamesApart (text : String) : Prop :=
  ∀ values ∈ Toml.read? text, NamesApart (Setting.entriesOfToml none values)

instance (text : String) : Decidable (HasNamesApart text) :=
  inferInstanceAs (Decidable (∀ values ∈ Toml.read? text, _))

/-- Names do not depend on where the document was found. -/
theorem NamesApart.of_origin (apart : NamesApart (Setting.entriesOfToml none values))
    (origin : Option Origin) : NamesApart (Setting.entriesOfToml origin values) := by
  have sameNames (value : Toml.Value) :
      ((Setting.ofToml origin value).asTable.2.map fun entry => lowercase entry.1) =
        (Setting.ofToml none value).asTable.2.map fun entry => lowercase entry.1 := by
    cases value with
    | table inner =>
        simp only [Setting.ofToml, Setting.asTable, Setting.entriesOfToml_eq_map, List.map_map]
        rfl
    | _ => rfl
  rw [namesApart_iff, Setting.entriesOfToml_eq_map, List.map_map] at apart ⊢
  simp only [List.forall_mem_map, sameNames] at apart ⊢
  exact apart

/-- Names stay apart in any order. -/
theorem NamesApart.of_reordered (apart : NamesApart settings)
    (reordered : Reordered settings taken) : NamesApart taken := by
  refine ⟨(reordered.perm_map fun key => (KeyPath.ofKey key).first).nodup_iff.mp apart.firsts,
    fun other isIn => ?_, fun other isIn => ?_⟩
  all_goals obtain ⟨setting, isSetting, same⟩ := reordered.exists_of_mem_others isIn
  · rw [← same.name_eq]
    exact apart.noIndex setting isSetting
  · cases same with
    | refl => exact apart.names _ isSetting
    | table matched moved =>
        have inner : Reordered _ _ := ⟨_, matched, moved⟩
        exact (inner.perm_map lowercase).nodup_iff.mp (apart.names _ isSetting)

/-! ## Settings that are read alike -/

/-- The same setting, or two tables whose entries have something in common. -/
inductive SameOrTables (common : Entries Setting → Entries Setting → Prop) :
    Setting → Setting → Prop
  | same (setting : Setting) : SameOrTables common setting setting
  | tables {origin : Option Origin} {entries others : Entries Setting}
      (inCommon : common entries others) :
      SameOrTables common (.table origin entries) (.table origin others)

/-- Settings that cannot be told apart by names up to some depth, below which only tables
differ. -/
def Alike : Nat → Setting → Setting → Prop
  | 0 => SameOrTables fun _ _ => True
  | depth + 1 => SameOrTables fun entries others =>
      ∀ name, Option.Rel (Alike depth) (Entries.get? entries name) (Entries.get? others name)

/-- Entries that cannot be told apart by names up to some depth. -/
def AlikeEntries (depth : Nat) (entries others : Entries Setting) : Prop :=
  ∀ name, Option.Rel (Alike depth) (Entries.get? entries name) (Entries.get? others name)

theorem Alike.refl (depth : Nat) (setting : Setting) : Alike depth setting setting := by
  cases depth <;> exact .same setting

theorem AlikeEntries.refl (depth : Nat) (entries : Entries Setting) :
    AlikeEntries depth entries entries := by
  intro name
  cases Entries.get? entries name with
  | none => exact .none
  | some setting => exact .some (Alike.refl depth setting)

theorem Alike.zero_of_succ {depth : Nat} {first second : Setting}
    (alike : Alike (depth + 1) first second) : Alike 0 first second := by
  cases alike with
  | same => exact .same _
  | tables _ => exact .tables trivial

/-- Entries of two orders under new names are alike when they are alike one by one. -/
theorem Reordered.alikeEntries_map {depth : Nat} (newName : String → String)
    (make : String → Setting → Setting) (reordered : Reordered entries others)
    (distinct : (entries.map fun entry => newName entry.1).Nodup)
    (alike : ∀ entry ∈ entries, ∀ other, SameEntry entry other →
      Alike depth (make entry.1 entry.2) (make other.1 other.2)) :
    AlikeEntries depth (entries.map fun (name, value) => (newName name, make name value))
      (others.map fun (name, value) => (newName name, make name value)) := by
  have names := reordered.perm_map newName
  have isNamed (list : Entries Setting) :
      (list.map fun (name, value) => (newName name, make name value)).map Prod.fst =
        list.map fun entry => newName entry.1 := by
    rw [List.map_map]
    rfl
  have found {list : Entries Setting} {entry : String × Setting} (isIn : entry ∈ list)
      (distinct : (list.map fun entry => newName entry.1).Nodup) :
      Entries.get? (list.map fun (name, value) => (newName name, make name value))
        (newName entry.1) = some (make entry.1 entry.2) :=
    Entries.get?_of_mem (isNamed list ▸ distinct) (List.mem_map.mpr ⟨entry, isIn, rfl⟩)
  intro name
  by_cases isIn : name ∈ entries.map fun entry => newName entry.1
  · obtain ⟨entry, isEntry, rfl⟩ := List.mem_map.mp isIn
    obtain ⟨other, isOther, same⟩ := reordered.exists_of_mem isEntry
    have isAlike := alike entry isEntry other same
    rw [found isEntry distinct, same.name_eq, found isOther (names.nodup_iff.mp distinct)]
    exact .some (same.name_eq ▸ isAlike)
  · have isNotOther := fun isOther => isIn (names.mem_iff.mpr isOther)
    rw [Entries.get?_eq_none_iff.mpr (isNamed entries ▸ isIn),
      Entries.get?_eq_none_iff.mpr (isNamed others ▸ isNotOther)]
    exact .none

/-! ## Trees -/

theorem SameEntry.alike_laidOver {entry other : String × Setting} (same : SameEntry entry other) :
    Alike 0 (Setting.laidOver entry.2 none) (Setting.laidOver other.2 none) := by
  cases same with
  | refl => exact .same _
  | @table _ _ entries matching others _ _ =>
      obtain ⟨before, isBefore⟩ := Setting.exists_table_of_entriesLaidOver entries none []
      obtain ⟨after, isAfter⟩ := Setting.exists_table_of_entriesLaidOver others none []
      rw [Setting.laidOver, Setting.laidOver, Option.getD_none, Setting.emptyTable, isBefore,
        isAfter]
      exact .tables trivial

/-- A table whose names are apart has the same entries in any order. -/
theorem SameEntry.alike_laidOver_of_nodup {entry other : String × Setting}
    (same : SameEntry entry other)
    (distinct : (entry.2.asTable.2.map fun entry => lowercase entry.1).Nodup) :
    Alike 1 (Setting.laidOver entry.2 none) (Setting.laidOver other.2 none) := by
  cases same with
  | refl => exact .same _
  | @table _ _ entries matching others matched moved =>
      have reordered : Reordered entries others := ⟨matching, matched, moved⟩
      simp only [Setting.asTable] at distinct ⊢
      rw [Setting.laidOver_table_none distinct,
        Setting.laidOver_table_none ((reordered.perm_map lowercase).nodup_iff.mp distinct)]
      exact .tables (reordered.alikeEntries_map lowercase
        (fun _ value => Setting.laidOver value none) distinct
        fun _ _ _ same => same.alike_laidOver)

/-- A path of names makes tables of one entry each. -/
theorem exists_alike_placed? {first second : Setting}
    (alike : Alike 1 (Setting.laidOver first none) (Setting.laidOver second none))
    {steps : List Step} (areNames : ∀ step ∈ steps, step.isName = true) :
    ∃ made other, Setting.placed? first steps none = some made ∧
      Setting.placed? second steps none = some other ∧ Alike 1 made other := by
  induction steps with
  | nil => exact ⟨_, _, rfl, rfl, alike⟩
  | cons step later ih =>
      obtain ⟨isName, areNamesLater⟩ := List.forall_mem_cons.mp areNames
      obtain ⟨made, other, isMade, isOther, alikeInside⟩ := ih areNamesLater
      cases step with
      | item index => contradiction
      | name name =>
          refine ⟨.table none [(name, made)], .table none [(name, other)], ?_, ?_, ?_⟩
          · rw [Setting.placed?]
            exact congrArg (Option.map _) isMade
          · rw [Setting.placed?]
            exact congrArg (Option.map _) isOther
          · refine .tables fun sought => ?_
            simp only [Entries.get?]
            split
            · exact .some alikeInside.zero_of_succ
            · exact .none

/-- What a setting makes of nothing at the end of the path of its key. -/
def madeUnder (key : String) (value : Setting) : Setting :=
  (Setting.placed? value (KeyPath.ofKey key).steps none).getD Setting.nothing

/-- Two orders of settings whose names are apart make trees that are alike. -/
theorem NamesApart.exists_alike_trees (apart : NamesApart settings)
    (reordered : Reordered settings taken) :
    ∃ before after, Setting.emptyTable.putAll? settings = some (.table none before) ∧
      Setting.emptyTable.putAll? taken = some (.table none after) ∧
      AlikeEntries 1 before after := by
  have isTree {settings : Entries Setting} (apart : NamesApart settings) :
      Setting.emptyTable.putAll? settings = some (.table none
        (settings.map fun (key, value) => ((KeyPath.ofKey key).first, madeUnder key value))) := by
    apply Setting.putAll?_of_new madeUnder
    · intro setting isIn
      obtain ⟨made, -, isMade, -, -⟩ :=
        exists_alike_placed? (Alike.refl 1 _) (apart.noIndex setting isIn)
      rw [madeUnder, isMade, Option.getD_some]
    · exact apart.firsts
  refine ⟨_, _, isTree apart, isTree (apart.of_reordered reordered), ?_⟩
  apply reordered.alikeEntries_map (fun key => (KeyPath.ofKey key).first) madeUnder apart.firsts
  intro setting isIn other same
  obtain ⟨made, another, isMade, isAnother, alike⟩ := exists_alike_placed?
    (same.alike_laidOver_of_nodup (apart.names setting isIn)) (apart.noIndex setting isIn)
  rw [madeUnder, madeUnder, ← same.name_eq, isMade, isAnother]
  exact alike

/-! ## Reading -/

section

variable {α : Type} {depth : Nat} {read : Setting → Decoded α}

/-- A reading does not tell settings apart that are alike up to some depth. -/
def ReadsAlike (depth : Nat) (read : Setting → Decoded α) : Prop :=
  ∀ first second, Alike depth first second → read first = read second

/-- A reading that refuses tables reads them alike. -/
theorem readsAlike_zero (refuses : ∀ (origin : Option Origin) (entries others : Entries Setting),
    read (.table origin entries) = read (.table origin others)) : ReadsAlike 0 read := by
  intro first second alike
  cases alike with
  | same => rfl
  | tables _ => exact refuses _ _ _

theorem Group.read_of_alikeEntries (readsAlike : ReadsAlike depth read)
    (alike : AlikeEntries depth entries others) (name : String) (place : Nat) (standard : α) :
    Group.read (.named entries) name place read standard =
      Group.read (.named others) name place read standard := by
  have found := alike name
  rw [Group.read, Group.read, Group.get?, Group.get?]
  generalize Entries.get? entries name = first at found ⊢
  generalize Entries.get? others name = second at found ⊢
  cases found with
  | none => rfl
  | some alike =>
      simp only [Option.map_some, readsAlike _ _ alike]

end

theorem readsAlike_backoff : ReadsAlike 1 Backoff.ofSetting := by
  intro first second alike
  cases alike with
  | same => rfl
  | tables alike =>
      have word64 : ReadsAlike 0 word64 := readsAlike_zero fun _ _ _ => rfl
      have word32 : ReadsAlike 0 word32 := readsAlike_zero fun _ _ _ => rfl
      have word8 : ReadsAlike 0 word8 := readsAlike_zero fun _ _ _ => rfl
      simp only [Backoff.ofSetting, Group.ofSetting, bind, Except.bind,
        Group.read_of_alikeEntries word64 alike, Group.read_of_alikeEntries word32 alike,
        Group.read_of_alikeEntries word8 alike]

theorem readsAlike_clock : ReadsAlike 1 Clock.ofSetting := by
  intro first second alike
  cases alike with
  | same => rfl
  | tables alike =>
      have statuses : ReadsAlike 0 (list word16) := readsAlike_zero fun _ _ _ => rfl
      have threshold : ReadsAlike 0 integer := readsAlike_zero fun _ _ _ => rfl
      have onAnyStatus : ReadsAlike 0 boolean := readsAlike_zero fun _ _ _ => rfl
      simp only [Clock.ofSetting, Group.ofSetting, bind, Except.bind,
        Group.read_of_alikeEntries statuses alike, Group.read_of_alikeEntries threshold alike,
        Group.read_of_alikeEntries onAnyStatus alike]

/-- Trees that are alike hold the same configuration. -/
theorem ofEntries_of_alikeEntries (alike : AlikeEntries 1 entries others) :
    ofEntries entries = ofEntries others := by
  simp only [ofEntries, Group.read_of_alikeEntries readsAlike_backoff alike,
    Group.read_of_alikeEntries readsAlike_clock alike]

/-- More settings come into trees that are alike so that they stay alike. -/
def KeepsAlike (upper : List (String × Setting)) : Prop :=
  ∀ entries others, AlikeEntries 1 entries others →
    ∃ before after, (Setting.table none entries).putAll? upper = some (.table none before) ∧
      (Setting.table none others).putAll? upper = some (.table none after) ∧
      AlikeEntries 1 before after

theorem keepsAlike_nil : KeepsAlike [] :=
  fun entries others alike => ⟨entries, others, rfl, rfl, alike⟩

/-- Settings whose names are apart make the same configuration in any order. -/
theorem NamesApart.ofSettings_append_eq (apart : NamesApart settings)
    (reordered : Reordered settings taken) {upper : List (String × Setting)}
    (keeps : KeepsAlike upper) : ofSettings (taken ++ upper) = ofSettings (settings ++ upper) := by
  obtain ⟨entries, others, isTree, isOtherTree, alike⟩ := apart.exists_alike_trees reordered
  obtain ⟨before, after, isBefore, isAfter, alike⟩ := keeps entries others alike
  have same := ofEntries_of_alikeEntries alike
  rw [ofSettings, ofSettings, Setting.putAll?_append, Setting.putAll?_append, isTree, isOtherTree,
    Option.bind_some, Option.bind_some, isBefore, isAfter]
  simp only [Setting.asTable, same]

/-- Only a setting without a place stops the loading. -/
theorem putAll?_eq_none_of_noPlace (stops : ofSettings settings = .error .noPlace) :
    Setting.emptyTable.putAll? settings = none := by
  rw [ofSettings] at stops
  cases isTree : Setting.emptyTable.putAll? settings with
  | none => rfl
  | some tree =>
      rw [isTree] at stops
      cases wasRead : ofEntries tree.asTable.2 with
      | error problem =>
          simp only [wasRead] at stops
          cases stops
      | ok config =>
          simp only [wasRead] at stops
          change checked config = _ at stops
          unfold checked at stops
          split at stops <;> cases stops

/-! ## Documents -/

/-- A document whose names are apart has settings whose names are apart, wherever it was
found. -/
theorem HasNamesApart.namesApart (apart : HasNamesApart text)
    (isDocument : documentSettings origin text = .ok settings) : NamesApart settings := by
  obtain ⟨values, isRead, rfl⟩ := exists_entries_of_documentSettings isDocument
  exact (apart values isRead).of_origin origin

/-- A document whose names are apart is loaded in the same way in every order. -/
theorem HasNamesApart.eq_of_inSomeOrder (apart : HasNamesApart text)
    {upper : List (String × Setting)} (keeps : KeepsAlike upper) {result : Loaded Config}
    (inOrder : InSomeOrder origin text upper result) :
    result = documentSettings origin text >>= fun settings => ofSettings (settings ++ upper) := by
  cases inOrder with
  | refused isRefused =>
      rw [isRefused]
      rfl
  | taken isDocument reordered =>
      rw [isDocument, (apart.namesApart isDocument).ofSettings_append_eq reordered keeps]
      rfl

/-- Every setting of a document whose names are apart has a place. -/
theorem HasNamesApart.ofText_ne_noPlace (apart : HasNamesApart text) :
    ofText text ≠ .error .noPlace := by
  intro stops
  rw [ofText] at stops
  cases isDocument : documentSettings none text with
  | error error =>
      rw [isDocument] at stops
      cases stops
      unfold documentSettings at isDocument
      split at isDocument <;> cases isDocument
  | ok settings =>
      obtain ⟨before, -, isBefore, -, -⟩ :=
        (apart.namesApart isDocument).exists_alike_trees (.refl settings)
      rw [isDocument] at stops
      have missing := putAll?_eq_none_of_noPlace stops
      rw [isBefore] at missing
      contradiction

end Triage.Config

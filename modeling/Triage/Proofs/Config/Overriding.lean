import Triage.Proofs.Config.Tree
import Triage.Proofs.Config.Variables

/-!
# Choices laid over a tree

A leaf at the path of a choice comes into the group of the choice, which becomes a table if
it is none, and leaves every other choice and every other group as they were.  When leaves
are laid over a tree one after the other, the last one for a choice counts.
-/

namespace Triage.Config

variable {origin : Option Origin} {entries before middle after : Entries Setting}
  {value : Setting} {key : ChoiceKey} {chosen later : ChoiceKey → Option Setting}

/-! ## Groups of a tree -/

/-- The entries of a group, of which there are none unless the group is a table. -/
def groupEntries (entries : Entries Setting) (group : String) : Entries Setting :=
  ((Entries.get? entries group).getD Setting.nothing).asTable.2

/-- The group is there, and it is a table. -/
def HasTable (entries : Entries Setting) (group : String) : Prop :=
  ∃ origin inner, Entries.get? entries group = some (.table origin inner)

/-! ## One choice -/

/-- Entries with a value for one choice. -/
def putChoice (entries : Entries Setting) (key : ChoiceKey) (value : Setting) :
    Entries Setting :=
  Entries.put entries key.group
    (.table ((Entries.get? entries key.group).getD Setting.nothing).asTable.1
      (Entries.put (groupEntries entries key.group) key.name value))

theorem put?_path (leaf : value.IsLeaf) :
    (Setting.table origin entries).put? (KeyPath.ofKey key.path) value =
      some (.table origin (putChoice entries key value)) := by
  rw [key.ofKey_path, Setting.put?]
  simp only [Setting.placed?, Setting.laidOver_of_isLeaf leaf, Option.map_some]
  rfl

theorem get?_putChoice_self (entries : Entries Setting) (key : ChoiceKey) (value : Setting) :
    Entries.get? (putChoice entries key value) key.group =
      some (.table ((Entries.get? entries key.group).getD Setting.nothing).asTable.1
        (Entries.put (groupEntries entries key.group) key.name value)) :=
  Entries.get?_put_self _ _ _

theorem get?_putChoice_of_ne {group : String} (different : key.group ≠ group)
    (entries : Entries Setting) (value : Setting) :
    Entries.get? (putChoice entries key value) group = Entries.get? entries group :=
  Entries.get?_put_of_ne different _ _

theorem get?_groupEntries_putChoice (entries : Entries Setting) (key other : ChoiceKey)
    (value : Setting) :
    Entries.get? (groupEntries (putChoice entries key value) other.group) other.name =
      if key = other then some value
      else Entries.get? (groupEntries entries other.group) other.name := by
  by_cases sameGroup : key.group = other.group
  · have isGroup : groupEntries (putChoice entries key value) other.group =
        Entries.put (groupEntries entries other.group) key.name value := by
      rw [groupEntries, ← sameGroup, get?_putChoice_self]
      rfl
    rw [isGroup]
    by_cases sameName : key.name = other.name
    · rw [if_pos (ChoiceKey.name_injective sameGroup sameName), sameName, Entries.get?_put_self]
    · rw [if_neg fun same => sameName (congrArg ChoiceKey.name same),
        Entries.get?_put_of_ne sameName]
  · rw [if_neg fun same => sameGroup (congrArg ChoiceKey.group same), groupEntries,
      get?_putChoice_of_ne sameGroup, groupEntries]

/-! ## Several choices -/

/-- One tree has the chosen settings, and what the other one has where nothing is chosen.
Groups with a choice are tables. -/
structure Overridden (chosen : ChoiceKey → Option Setting) (before after : Entries Setting) :
    Prop where
  value : ∀ key : ChoiceKey, Entries.get? (groupEntries after key.group) key.name =
    (chosen key).or (Entries.get? (groupEntries before key.group) key.name)
  hasTable : ∀ key : ChoiceKey, (chosen key).isSome → HasTable after key.group
  untouched : ∀ group, (∀ key : ChoiceKey, key.group = group → chosen key = none) →
    Entries.get? after group = Entries.get? before group

namespace Overridden

/-- Nothing is chosen. -/
theorem refl (entries : Entries Setting) : Overridden (fun _ => none) entries entries where
  value _ := rfl
  hasTable _ impossible := by contradiction
  untouched _ _ := rfl

/-- One choice is made. -/
theorem putChoice (entries : Entries Setting) (key : ChoiceKey) (value : Setting) :
    Overridden (fun other => if key = other then some value else none) entries
      (putChoice entries key value) where
  value other := by
    rw [get?_groupEntries_putChoice]
    split <;> rfl
  hasTable other isChosen := by
    by_cases same : key = other
    · exact same ▸ ⟨_, _, get?_putChoice_self entries key value⟩
    · rw [if_neg same] at isChosen
      contradiction
  untouched group unchosen := by
    apply get?_putChoice_of_ne
    intro sameGroup
    have impossible := unchosen key sameGroup
    rw [if_pos rfl] at impossible
    contradiction

/-- Later choices take the place of earlier ones. -/
theorem trans (first : Overridden chosen before middle) (second : Overridden later middle after) :
    Overridden (fun key => (later key).or (chosen key)) before after where
  value key := by rw [second.value, first.value, Option.or_assoc]
  hasTable key isChosen := by
    by_cases again : ∃ other : ChoiceKey, other.group = key.group ∧ (later other).isSome
    · obtain ⟨other, sameGroup, isLater⟩ := again
      exact sameGroup ▸ second.hasTable other isLater
    · have unchosen : ∀ other : ChoiceKey, other.group = key.group → later other = none :=
        fun other sameGroup => Option.not_isSome_iff_eq_none.mp
          fun isLater => again ⟨other, sameGroup, isLater⟩
      rw [unchosen key rfl, Option.none_or] at isChosen
      obtain ⟨origin, inner, isTable⟩ := first.hasTable key isChosen
      exact ⟨origin, inner, (second.untouched key.group unchosen).trans isTable⟩
  untouched group unchosen := by
    have both (key : ChoiceKey) (isGroup : key.group = group) :=
      Option.or_eq_none_iff.mp (unchosen key isGroup)
    rw [second.untouched group fun key isGroup => (both key isGroup).1,
      first.untouched group fun key isGroup => (both key isGroup).2]

end Overridden

/-- The last setting for a choice. -/
def lastChoice : List (ChoiceKey × Setting) → ChoiceKey → Option Setting
  | [], _ => none
  | (first, value) :: later, key =>
      (lastChoice later key).or (if first = key then some value else none)

theorem mem_of_lastChoice {settings : List (ChoiceKey × Setting)}
    (isLast : lastChoice settings key = some value) : (key, value) ∈ settings := by
  induction settings with
  | nil => contradiction
  | cons setting later ih =>
      rcases setting with ⟨first, firstValue⟩
      rcases Option.or_eq_some_iff.mp isLast with isLater | ⟨-, isFirst⟩
      · exact List.mem_cons_of_mem _ (ih isLater)
      · split at isFirst
        · cases isFirst
          rename_i same
          exact same ▸ List.mem_cons_self
        · contradiction

theorem lastChoice_ne_none {settings : List (ChoiceKey × Setting)}
    (isIn : key ∈ settings.map Prod.fst) : lastChoice settings key ≠ none := by
  induction settings with
  | nil => contradiction
  | cons setting later ih =>
      rcases setting with ⟨first, firstValue⟩
      intro missing
      obtain ⟨missingLater, missingFirst⟩ := Option.or_eq_none_iff.mp missing
      rcases List.mem_cons.mp isIn with rfl | isLater
      · simp at missingFirst
      · exact ih isLater missingLater

/-- Leaves at the paths of choices come into a tree one after the other. -/
theorem exists_putAll?_paths (before : Entries Setting) (settings : List (ChoiceKey × Setting))
    (leaves : ∀ setting ∈ settings, setting.2.IsLeaf) :
    ∃ after, (Setting.table origin before).putAll?
        (settings.map fun (key, value) => (key.path, value)) = some (.table origin after) ∧
      Overridden (lastChoice settings) before after := by
  induction settings generalizing before with
  | nil => exact ⟨before, rfl, .refl before⟩
  | cons setting later ih =>
      rcases setting with ⟨key, value⟩
      obtain ⟨leaf, leavesLater⟩ := List.forall_mem_cons.mp leaves
      obtain ⟨after, isPut, overridden⟩ := ih (putChoice before key value) leavesLater
      refine ⟨after, ?_, (Overridden.putChoice before key value).trans overridden⟩
      rw [List.map_cons, Setting.putAll?, put?_path leaf]
      exact isPut

/-! ## Environments -/

/-- The value of a variable has no entries. -/
theorem Variable.isLeaf_setting (key value : String) : (Variable.setting key value).IsLeaf := by
  unfold Variable.setting
  repeat' split
  all_goals trivial

/-- The variables that override a setting are those of the choices that are made, each with
the value that is chosen. -/
structure SetsChoices (word : String) (environment : List Variable)
    (chosen : ChoiceKey → Option Setting) : Prop where
  isSet : ∀ key value, chosen key = some value →
    ∃ entry ∈ environment, entry.name = key.variableName word
  onlySet : ∀ entry ∈ environment, entry.Overrides word →
    ∃ key, entry.name = key.variableName word ∧
      chosen key = some (Variable.setting key.path entry.value)

/-- The overriding settings are those of the choices. -/
theorem exists_overrides {word : String} {environment : List Variable}
    (onlySet : ∀ entry ∈ environment, entry.Overrides word →
      ∃ key, entry.name = key.variableName word ∧
        chosen key = some (Variable.setting key.path entry.value)) :
    ∃ settings : List (ChoiceKey × Setting),
      overrides word environment = settings.map (fun (key, value) => (key.path, value)) ∧
      (∀ setting ∈ settings, chosen setting.1 = some setting.2) ∧
      ∀ entry ∈ environment, ∀ key : ChoiceKey, entry.name = key.variableName word →
        key ∈ settings.map Prod.fst := by
  induction environment with
  | nil => exact ⟨[], rfl, by simp, by simp⟩
  | cons entry environment ih =>
      obtain ⟨only, onlyLater⟩ := List.forall_mem_cons.mp onlySet
      obtain ⟨settings, isOverrides, functional, complete⟩ := ih onlyLater
      by_cases overriding : entry.Overrides word
      · obtain ⟨key, isNamed, isChosen⟩ := only overriding
        have isPath := Variable.key?_variableName isNamed
        refine ⟨(key, Variable.setting key.path entry.value) :: settings, ?_, ?_, ?_⟩
        · rw [overrides, List.filterMap_cons, isPath, Option.map_some, ← overrides, isOverrides]
          rfl
        · exact List.forall_mem_cons.mpr ⟨isChosen, functional⟩
        · refine List.forall_mem_cons.mpr ⟨fun other isOther => ?_, fun later isIn other isOther =>
            List.mem_cons_of_mem _ (complete later isIn other isOther)⟩
          have samePath := Option.some.inj (isPath.symm.trans (Variable.key?_variableName isOther))
          rw [ChoiceKey.path_injective samePath]
          exact List.mem_cons_self
      · have free := (Variable.key?_eq_none_iff word entry).mpr overriding
        refine ⟨settings, ?_, functional, ?_⟩
        · rw [overrides, List.filterMap_cons, free, Option.map_none, ← overrides, isOverrides]
        · refine List.forall_mem_cons.mpr ⟨fun key isNamed => ?_, complete⟩
          exact absurd (Variable.overrides_of_isNamed isNamed) overriding

/-- An environment that sets choices lays them over a tree. -/
theorem SetsChoices.exists_putAll? {word : String} {environment : List Variable}
    (sets : SetsChoices word environment chosen)
    (leaves : ∀ key value, chosen key = some value → value.IsLeaf) (before : Entries Setting) :
    ∃ after, (Setting.table origin before).putAll? (overrides word environment) =
        some (.table origin after) ∧ Overridden chosen before after := by
  obtain ⟨settings, isOverrides, functional, complete⟩ := exists_overrides sets.onlySet
  have isChosen : lastChoice settings = chosen := by
    funext key
    cases isLast : lastChoice settings key with
    | some value => exact (functional _ (mem_of_lastChoice isLast)).symm
    | none =>
        symm
        by_contra someChoice
        obtain ⟨value, isValue⟩ := Option.ne_none_iff_exists'.mp someChoice
        obtain ⟨entry, isIn, isNamed⟩ := sets.isSet key value isValue
        exact lastChoice_ne_none (complete entry isIn key isNamed) isLast
  rw [isOverrides, ← isChosen]
  exact exists_putAll?_paths before settings
    fun setting isIn => leaves _ _ (functional setting isIn)

/-! ## Order -/

/-- Groups of trees that are alike have entries that are alike. -/
theorem AlikeEntries.groupEntries {depth : Nat} (alike : AlikeEntries (depth + 1) before after)
    (group : String) :
    ((Entries.get? before group).getD Setting.nothing).asTable.1 =
        ((Entries.get? after group).getD Setting.nothing).asTable.1 ∧
      AlikeEntries depth (groupEntries before group) (groupEntries after group) := by
  have found := alike group
  unfold Config.groupEntries
  generalize Entries.get? before group = first at found ⊢
  generalize Entries.get? after group = second at found ⊢
  cases found with
  | none => exact ⟨rfl, fun _ => .none⟩
  | some isAlike =>
      cases isAlike with
      | same => exact ⟨rfl, .refl depth _⟩
      | tables inCommon => exact ⟨rfl, inCommon⟩

theorem AlikeEntries.putChoice (alike : AlikeEntries 1 before after) (key : ChoiceKey)
    (value : Setting) :
    AlikeEntries 1 (putChoice before key value) (putChoice after key value) := by
  intro group
  by_cases same : key.group = group
  · subst same
    obtain ⟨sameOrigin, alikeInside⟩ := alike.groupEntries key.group
    rw [get?_putChoice_self, get?_putChoice_self, sameOrigin]
    refine .some (.tables fun name => ?_)
    by_cases sameName : key.name = name
    · subst sameName
      rw [Entries.get?_put_self, Entries.get?_put_self]
      exact .some (.refl 0 value)
    · rw [Entries.get?_put_of_ne sameName, Entries.get?_put_of_ne sameName]
      exact alikeInside name
  · rw [get?_putChoice_of_ne same, get?_putChoice_of_ne same]
    exact alike group

theorem keepsAlike_paths {settings : List (ChoiceKey × Setting)}
    (leaves : ∀ setting ∈ settings, setting.2.IsLeaf) :
    KeepsAlike (settings.map fun (key, value) => (key.path, value)) := by
  induction settings with
  | nil => exact keepsAlike_nil
  | cons setting later ih =>
      obtain ⟨leaf, leavesLater⟩ := List.forall_mem_cons.mp leaves
      intro first second alike
      obtain ⟨before, after, isBefore, isAfter, alikeLater⟩ :=
        ih leavesLater _ _ (alike.putChoice setting.1 setting.2)
      refine ⟨before, after, ?_, ?_, alikeLater⟩
      all_goals rw [List.map_cons, Setting.putAll?, put?_path leaf]
      · exact isBefore
      · exact isAfter

/-- Variables that set choices do so in trees that are alike. -/
theorem SetsChoices.keepsAlike {word : String} {environment : List Variable}
    (sets : SetsChoices word environment chosen)
    (leaves : ∀ key value, chosen key = some value → value.IsLeaf) :
    KeepsAlike (overrides word environment) := by
  obtain ⟨settings, isOverrides, functional, -⟩ := exists_overrides sets.onlySet
  rw [isOverrides]
  exact keepsAlike_paths fun setting isIn => leaves _ _ (functional setting isIn)

end Triage.Config

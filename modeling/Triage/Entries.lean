/-!
# Named entries

Values under names, in the order in which the names first came.  A name has one
value: putting another one there replaces it at its place.
-/

namespace Triage

universe u v

/-- Values under names. -/
abbrev Entries (α : Type u) := List (String × α)

namespace Entries

variable {α : Type u}

/-- The value under a name. -/
def get? : Entries α → String → Option α
  | [], _ => none
  | (known, value) :: later, name => if known = name then some value else get? later name

/-- Put a value under a name. -/
def put : Entries α → String → α → Entries α
  | [], name, value => [(name, value)]
  | (known, old) :: later, name, value =>
      if known = name then (known, value) :: later
      else (known, old) :: put later name value

/-- The other entries. -/
def erase (entries : Entries α) (name : String) : Entries α :=
  entries.filter fun entry => entry.1 ≠ name

/-- The entries with their values changed. -/
def mapValues {β : Type v} (change : α → β) (entries : Entries α) : Entries β :=
  entries.map (Prod.map id change)

@[simp]
theorem get?_put_self (entries : Entries α) (name : String) (value : α) :
    get? (put entries name value) name = some value := by
  induction entries with
  | nil => simp [put, get?]
  | cons entry later ih =>
      obtain ⟨known, old⟩ := entry
      by_cases same : known = name <;> simp [put, get?, same, ih]

theorem get?_put_of_ne {name other : String} (different : name ≠ other)
    (entries : Entries α) (value : α) :
    get? (put entries name value) other = get? entries other := by
  induction entries with
  | nil => simp [put, get?, different]
  | cons entry later ih =>
      obtain ⟨known, old⟩ := entry
      by_cases same : known = name
      · subst same
        simp [put, get?, different]
      · simp only [put, same, if_false, get?, ih]

@[simp]
theorem get?_erase_self (entries : Entries α) (name : String) :
    get? (erase entries name) name = none := by
  induction entries with
  | nil => rfl
  | cons entry later ih =>
      obtain ⟨known, old⟩ := entry
      by_cases same : known = name
      · simpa [erase, same] using ih
      · simpa [erase, same, get?] using ih

theorem get?_eq_none_iff {entries : Entries α} {name : String} :
    get? entries name = none ↔ name ∉ entries.map Prod.fst := by
  induction entries with
  | nil => simp [get?]
  | cons entry later ih =>
      obtain ⟨known, value⟩ := entry
      by_cases same : known = name
      · simp [get?, same]
      · simp [get?, same, ih, Ne.symm same]

/-- When names are put one behind the other, the next one is new, and what comes after it
is distinct from it and from the ones before. -/
theorem new_of_nodup {done : Entries α} {name : String} {later : List String}
    (distinct : (done.map Prod.fst ++ name :: later).Nodup) (value : α) :
    name ∉ done.map Prod.fst ∧ ((done ++ [(name, value)]).map Prod.fst ++ later).Nodup := by
  constructor
  · intro known
    exact (List.nodup_append.mp distinct).2.2 _ known _ List.mem_cons_self rfl
  · simpa using distinct

/-- A new name comes last. -/
theorem put_of_get?_eq_none {entries : Entries α} {name : String} (value : α)
    (new : get? entries name = none) : put entries name value = entries ++ [(name, value)] := by
  induction entries with
  | nil => rfl
  | cons entry later ih =>
      obtain ⟨known, old⟩ := entry
      by_cases same : known = name
      · simp [get?, same] at new
      · simp only [get?, same, if_false] at new
        simp [put, same, ih new]

theorem erase_of_get?_eq_none {entries : Entries α} {name : String}
    (new : get? entries name = none) : erase entries name = entries := by
  rw [get?_eq_none_iff] at new
  apply List.filter_eq_self.mpr
  intro entry isIn
  apply decide_eq_true
  rintro rfl
  exact new (List.mem_map_of_mem isIn)

/-- Of entries with distinct names, each one is found under its name. -/
theorem get?_of_mem {entries : Entries α} {name : String} {value : α}
    (distinct : (entries.map Prod.fst).Nodup) (isIn : (name, value) ∈ entries) :
    get? entries name = some value := by
  induction entries with
  | nil => contradiction
  | cons entry later ih =>
      obtain ⟨known, first⟩ := entry
      rw [List.map_cons, List.nodup_cons] at distinct
      rcases List.mem_cons.mp isIn with same | isLater
      · cases same
        simp [get?]
      · have different : known ≠ name := by
          rintro rfl
          exact distinct.1 (List.mem_map.mpr ⟨_, isLater, rfl⟩)
        rw [get?, if_neg different]
        exact ih distinct.2 isLater

/-- Entries for some keys hold what their keys stand for. -/
theorem get?_map {Key : Type} [DecidableEq Key] {name : Key → String}
    (injective : ∀ first second, name first = name second → first = second)
    (value : Key → α) (keys : List Key) (key : Key) :
    get? (keys.map fun key => (name key, value key)) (name key) =
      if key ∈ keys then some (value key) else none := by
  induction keys with
  | nil => rfl
  | cons first later ih =>
      by_cases same : first = key
      · simp [get?, same]
      · have different : name first ≠ name key := fun sameName => same (injective _ _ sameName)
        simp [get?, different, ih, Ne.symm same]

@[simp]
theorem get?_mapValues {β : Type v} (change : α → β) (entries : Entries α) (name : String) :
    get? (entries.mapValues change) name = (get? entries name).map change := by
  induction entries with
  | nil => rfl
  | cons entry later ih =>
      obtain ⟨known, value⟩ := entry
      by_cases same : known = name
      · simp [mapValues, get?, same]
      · simpa [mapValues, get?, same] using ih

@[simp]
theorem put_mapValues {β : Type v} (change : α → β) (entries : Entries α) (name : String)
    (value : α) :
    put (entries.mapValues change) name (change value) =
      (put entries name value).mapValues change := by
  induction entries with
  | nil => rfl
  | cons entry later ih =>
      obtain ⟨known, old⟩ := entry
      by_cases same : known = name
      · simp [mapValues, put, same]
      · simpa [mapValues, put, same] using ih

end Entries

end Triage

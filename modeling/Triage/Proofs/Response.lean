import Mathlib.Data.List.Forall2
import Triage.Proofs.LastSet
import Triage.ServiceFailure

/-!
# Responses and the steps that built them

Building a response forgets the headers whose name a later step puts again, and keeps all
others in the order of the steps.  So the values of a name are the ones that were set from
the last step on that put it, whatever happened to other names in between.  Names differ when
they differ in anything but the case of ASCII letters.
-/

namespace Triage

open Triage.Time

/-! ## Names -/

namespace Header

variable {name other : String}

/-- The first letter is an ASCII capital and the second one is its small letter. -/
def IsCapitalOf (capital small : Char) : Prop :=
  'A'.toNat ≤ capital.toNat ∧ capital.toNat ≤ 'Z'.toNat ∧ small.toNat = capital.toNat + 32

/-- The letters are the same, or the two cases of one ASCII letter. -/
def SameLetter (first second : Char) : Prop :=
  first = second ∨ IsCapitalOf first second ∨ IsCapitalOf second first

/-- ASCII capitals become small, and all other characters stay as they are. -/
theorem toNat_toLower (c : Char) :
    c.toLower.toNat =
      if 'A'.toNat ≤ c.toNat ∧ c.toNat ≤ 'Z'.toNat then c.toNat + 32 else c.toNat := by
  by_cases capital : 'A'.toNat ≤ c.toNat ∧ c.toNat ≤ 'Z'.toNat
  · have bound : c.toNat ≤ 90 := capital.2
    have lowered : c.toLower.val = c.val + ('a'.val - 'A'.val) :=
      congrArg Char.val (dif_pos capital)
    have difference : ('a'.val - 'A'.val).toNat = 32 := rfl
    rw [if_pos capital, Char.toNat, lowered, UInt32.toNat_add, difference]
    change (c.toNat + 32) % 2 ^ 32 = c.toNat + 32
    omega
  · have kept : c.toLower = c := dif_neg capital
    rw [if_neg capital, kept]

theorem toLower_eq_iff {first second : Char} :
    first.toLower = second.toLower ↔ SameLetter first second := by
  have firstCapital : 'A'.toNat = 65 := rfl
  have lastCapital : 'Z'.toNat = 90 := rfl
  rw [← Char.toNat_inj, toNat_toLower, toNat_toLower, SameLetter, IsCapitalOf, IsCapitalOf,
    ← Char.toNat_inj]
  split <;> split <;> omega

/-- Names are the same when their letters are, one by one. -/
theorem sameName_iff :
    SameName name other ↔ List.Forall₂ SameLetter name.toList other.toList := by
  rw [SameName, foldName, foldName, ← List.forall₂_eq_eq_eq, List.forall₂_map_left_iff,
    List.forall₂_map_right_iff]
  simp only [toLower_eq_iff]

theorem sameName_comm : SameName name other ↔ SameName other name := eq_comm

theorem sameName_congr_right (same : SameName name other) (third : String) :
    SameName third name ↔ SameName third other := by
  rw [SameName, SameName, show foldName name = foldName other from same]

theorem sameName_congr_left (same : SameName name other) (third : String) :
    SameName name third ↔ SameName other third := by
  rw [SameName, SameName, show foldName name = foldName other from same]

/-- The values that headers give to a name. -/
def valuesOf (name : String) (headers : List Header) : List String :=
  (headers.filter fun header => SameName header.name name).map value

theorem valuesOf_singleton (name : String) (header : Header) :
    valuesOf name [header] = if SameName header.name name then [header.value] else [] := by
  by_cases same : SameName header.name name <;> simp [valuesOf, same]

theorem valuesOf_append (name : String) (headers later : List Header) :
    valuesOf name (headers ++ later) = valuesOf name headers ++ valuesOf name later := by
  rw [valuesOf, List.filter_append, List.map_append]
  rfl

/-- The same name has the same values. -/
theorem valuesOf_congr (same : SameName name other) (headers : List Header) :
    valuesOf name headers = valuesOf other headers := by
  simp only [valuesOf, sameName_congr_right same]

end Header

namespace Response

open Header

/-- The first value is the head of all values. -/
theorem value?_eq_head?_values (response : Response) (name : String) :
    response.value? name = (response.values name).head? := by
  rw [value?, values, List.head?_map, List.head?_filter]

namespace Draft

/-! ## Steps -/

namespace Step

/-- The header that a step sets. -/
def header? : Step → Option Header
  | .status _ => none
  | .put header => some header
  | .append header => some header

/-- The status that a step sets. -/
def code? : Step → Option UInt16
  | .status code => some code
  | .put _ => none
  | .append _ => none

/-- The step puts a header in place of all earlier ones of a name. -/
def Replaces (name : String) : Step → Prop
  | .status _ => False
  | .put header => SameName name header.name
  | .append _ => False

instance (name : String) : (step : Step) → Decidable (step.Replaces name)
  | .status _ => inferInstanceAs (Decidable False)
  | .put header => inferInstanceAs (Decidable (SameName name header.name))
  | .append _ => inferInstanceAs (Decidable False)

theorem replaces_congr {name other : String} (same : SameName name other) (step : Step) :
    step.Replaces name ↔ step.Replaces other := by
  cases step with
  | status code => exact Iff.rfl
  | put header => exact sameName_congr_left same header.name
  | append header => exact Iff.rfl

end Step

variable {name other : String} {header : Header} {step : Step} {earlier later steps : List Step}

/-- Some step puts a header in place of all earlier ones of a name. -/
def Replaced (name : String) (steps : List Step) : Prop := ∃ step ∈ steps, step.Replaces name

instance (name : String) (steps : List Step) : Decidable (Replaced name steps) :=
  inferInstanceAs (Decidable (∃ step ∈ steps, step.Replaces name))

theorem not_replaced_nil (name : String) : ¬ Replaced name [] := by
  rintro ⟨step, isIn, -⟩
  contradiction

theorem replaced_cons : Replaced name (step :: later) ↔ step.Replaces name ∨ Replaced name later :=
  List.exists_mem_cons_iff _ _ _

theorem replaced_append :
    Replaced name (earlier ++ later) ↔ Replaced name earlier ∨ Replaced name later := by
  simp only [Replaced, List.mem_append, or_and_right, exists_or]

theorem replaced_congr (same : SameName name other) (steps : List Step) :
    Replaced name steps ↔ Replaced other steps := by
  simp only [Replaced, Step.replaces_congr same]

/-- A name that is put is put for the last time at some step. -/
theorem exists_last_put (replaced : Replaced name steps) :
    ∃ earlier header later, steps = earlier ++ .put header :: later ∧
      SameName name header.name ∧ ¬ Replaced name later := by
  induction steps with
  | nil => exact absurd replaced (not_replaced_nil name)
  | cons step steps ih =>
      by_cases again : Replaced name steps
      · rcases ih again with ⟨earlier, header, later, rfl, same, isLast⟩
        exact ⟨step :: earlier, header, later, rfl, same, isLast⟩
      · cases step with
        | put header =>
            have same : SameName name header.name :=
              (replaced_cons.mp replaced).resolve_right again
            exact ⟨[], header, steps, rfl, same, again⟩
        | _ => exact absurd ((replaced_cons.mp replaced).resolve_left id) again

/-- The headers that are still there after all steps, in the order of the steps. -/
def lasting : List Step → List Header
  | [] => []
  | step :: later =>
      (step.header?.filter fun header => ¬ Replaced header.name later).toList ++ lasting later

/-- The values that steps set for a name. -/
def written (name : String) (steps : List Step) : List String :=
  valuesOf name (steps.filterMap Step.header?)

/-- Building keeps the order of the steps. -/
theorem lasting_sublist (steps : List Step) :
    (lasting steps).Sublist (steps.filterMap Step.header?) := by
  induction steps with
  | nil => exact List.Sublist.refl []
  | cons step later ih =>
      rw [lasting, Option.toList_filter, ← List.singleton_append, List.filterMap_append,
        List.filterMap_cons]
      apply List.Sublist.append _ ih
      cases step.header? with
      | none => exact List.Sublist.refl []
      | some header => exact List.filter_sublist

/-! ## What is built -/

/-- A step removes the headers that it replaces and adds its own one at the end. -/
theorem headers_apply (draft : Draft) (step : Step) :
    (draft.apply step).headers =
      (draft.headers.filter fun header => ¬ step.Replaces header.name) ++
        step.header?.toList := by
  cases step with
  | status code => simp [apply, setStatus, Step.Replaces, Step.header?]
  | put header => rfl
  | append header => simp [apply, append, Step.Replaces, Step.header?]

/-- Steps remove the headers that one of them replaces and add the lasting ones. -/
theorem headers_foldl_apply (draft : Draft) (steps : List Step) :
    (steps.foldl apply draft).headers =
      (draft.headers.filter fun header => ¬ Replaced header.name steps) ++ lasting steps := by
  induction steps generalizing draft with
  | nil => simp [lasting, not_replaced_nil]
  | cons step later ih =>
      rw [List.foldl_cons, ih, headers_apply, List.filter_append, List.filter_filter, lasting,
        Option.toList_filter, List.append_assoc]
      simp only [replaced_cons, not_or, Bool.decide_and, Bool.and_comm]

/-- The last status that was set counts. -/
theorem status_ofSteps (steps : List Step) :
    (ofSteps steps).status = lastSet? Step.code? steps := by
  have sets (draft : Draft) (step : Step) :
      (draft.apply step).status = (step.code?.map some).getD draft.status := by
    cases step <;> rfl
  rw [ofSteps, field_foldl sets, lastSet?_map, empty]
  cases lastSet? Step.code? steps <;> rfl

/-- The lasting headers are there. -/
theorem headers_ofSteps (steps : List Step) : (ofSteps steps).headers = lasting steps := by
  rw [ofSteps, headers_foldl_apply, empty, List.filter_nil, List.nil_append]

theorem build_eq_ok_iff {draft : Draft} {response : Response} :
    draft.build = .ok response ↔
      draft.status = some response.status ∧ draft.headers = response.headers := by
  obtain ⟨status, headers⟩ := draft
  obtain ⟨code, built⟩ := response
  cases status <;> simp [build]

/-- A response is built as soon as a status was set, from the last one and the lasting
headers. -/
theorem build_ofSteps_eq_ok_iff {response : Response} :
    (ofSteps steps).build = .ok response ↔
      lastSet? Step.code? steps = some response.status ∧ response.headers = lasting steps := by
  rw [build_eq_ok_iff, status_ofSteps, headers_ofSteps, eq_comm (b := response.headers)]

theorem exists_build_error_iff {draft : Draft} :
    (∃ missing, draft.build = .error missing) ↔ draft.status = none := by
  obtain ⟨status, headers⟩ := draft
  cases status <;> simp [build]

/-- Without a put the same status is set. -/
theorem exists_build_without_put {response : Response}
    (built : (ofSteps (earlier ++ .put header :: later)).build = .ok response) :
    ∃ without, (ofSteps (earlier ++ later)).build = .ok without := by
  obtain ⟨status, -⟩ := build_ofSteps_eq_ok_iff.mp built
  refine ⟨⟨response.status, lasting (earlier ++ later)⟩, build_ofSteps_eq_ok_iff.mpr ⟨?_, rfl⟩⟩
  rw [← status, lastSet?, lastSet?, List.filterMap_append, List.filterMap_append,
    List.filterMap_cons]
  rfl

/-- No response is built as long as no status was set. -/
theorem exists_build_ofSteps_error_iff (steps : List Step) :
    (∃ missing, (ofSteps steps).build = .error missing) ↔ ∀ code, Step.status code ∉ steps := by
  rw [exists_build_error_iff, status_ofSteps, lastSet?_eq_none_iff]
  constructor
  · intro unset code isIn
    exact absurd (unset _ isIn) (by simp [Step.code?])
  · rintro unset (code | header | header) isIn
    · exact absurd isIn (unset code)
    · rfl
    · rfl

/-! ## The values of a name -/

/-- Later steps take all values of a name away, or none of them. -/
theorem valuesOf_filter_not_replaced (name : String) (headers : List Header)
    (later : List Step) :
    valuesOf name (headers.filter fun header => ¬ Replaced header.name later) =
      if Replaced name later then [] else valuesOf name headers := by
  rw [valuesOf, List.filter_filter]
  split
  · rename_i replaced
    rw [List.map_eq_nil_iff, List.filter_eq_nil_iff]
    intro header isIn kept
    simp only [Bool.and_eq_true, decide_eq_true_iff] at kept
    exact kept.2 ((replaced_congr kept.1 later).mpr replaced)
  · rename_i notReplaced
    rw [valuesOf]
    congr 1
    apply List.filter_congr
    intro header isIn
    by_cases same : SameName header.name name
    · simp [same, replaced_congr same, notReplaced]
    · simp [same]

theorem valuesOf_lasting_cons (name : String) (step : Step) (later : List Step) :
    valuesOf name (lasting (step :: later)) =
      (if Replaced name later then [] else written name [step]) ++
        valuesOf name (lasting later) := by
  have isWritten : written name [step] = valuesOf name step.header?.toList := by
    rw [written]
    cases step <;> rfl
  rw [lasting, valuesOf_append, Option.toList_filter, valuesOf_filter_not_replaced, isWritten]

theorem written_cons (name : String) (step : Step) (later : List Step) :
    written name (step :: later) = written name [step] ++ written name later := by
  rw [written, ← List.singleton_append, List.filterMap_append, valuesOf_append]
  rfl

/-- A step that puts a header sets its value for every spelling of its name. -/
theorem written_put (name : String) (header : Header) :
    written name [.put header] = if SameName name header.name then [header.value] else [] := by
  simp only [@sameName_comm name]
  exact valuesOf_singleton name header

/-- A name that is never put has all values that were set for it. -/
theorem valuesOf_lasting_of_not_replaced (notReplaced : ¬ Replaced name steps) :
    valuesOf name (lasting steps) = written name steps := by
  induction steps with
  | nil => rfl
  | cons step later ih =>
      rw [replaced_cons, not_or] at notReplaced
      rw [valuesOf_lasting_cons, if_neg notReplaced.2, ih notReplaced.2,
        written_cons name step later]

/-- Nothing set before a name is put is a value of it. -/
theorem valuesOf_lasting_append_of_replaced (replaced : Replaced name later) :
    valuesOf name (lasting (earlier ++ later)) = valuesOf name (lasting later) := by
  induction earlier with
  | nil => rfl
  | cons step earlier ih =>
      rw [List.cons_append, valuesOf_lasting_cons, if_pos (replaced_append.mpr (.inr replaced)), ih,
        List.nil_append]

/-- A name has the values that were set from the last step on that put it. -/
theorem valuesOf_lasting_of_put (same : SameName name header.name)
    (isLast : ¬ Replaced name later) :
    valuesOf name (lasting (earlier ++ .put header :: later)) =
      header.value :: written name later := by
  have replaced : Replaced name (.put header :: later) := replaced_cons.mpr (.inl same)
  rw [valuesOf_lasting_append_of_replaced replaced, valuesOf_lasting_cons, if_neg isLast,
    written_put, if_pos same, valuesOf_lasting_of_not_replaced isLast, List.singleton_append]

/-- A name keeps its values when another name is put, whenever that happens. -/
theorem valuesOf_lasting_insert_put (different : ¬ SameName name header.name) :
    valuesOf name (lasting (earlier ++ .put header :: later)) =
      valuesOf name (lasting (earlier ++ later)) := by
  have replaced : Replaced name (.put header :: later) ↔ Replaced name later := by
    rw [replaced_cons, Step.Replaces]
    exact or_iff_right different
  induction earlier with
  | nil =>
      rw [List.nil_append, valuesOf_lasting_cons, written_put, if_neg different, ite_self]
      rfl
  | cons step earlier ih =>
      rw [List.cons_append, valuesOf_lasting_cons, ih, List.cons_append, valuesOf_lasting_cons]
      simp only [replaced_append, replaced]

/-! ## The time of the service -/

/-- The service's time is read from the first `Date` header alone. -/
theorem serverTime?_of_response {failure : ServiceFailure} {response : Response}
    (answered : failure.details.response = some response) :
    failure.serverTime? = (response.values dateName).head?.bind HttpDate.read? := by
  rw [ServiceFailure.serverTime?, ServiceFailure.dateHeader?, answered, Option.bind_some,
    value?_eq_head?_values]

/-! ## What a response shows -/

/-- What a response shows of the steps that built it. -/
structure Shows (steps : List Step) (response : Response) : Prop where
  status : some response.status = lastSet? Step.code? steps
  headers : response.headers = lasting steps
  /-- No step comes out of its turn. -/
  inOrder : response.headers.Sublist (steps.filterMap Step.header?)
  /-- A name that is never put has all its values. -/
  values_of_not_replaced : ∀ name, ¬ Replaced name steps →
    response.values name = written name steps
  /-- A name that is put has the values from the last step on that puts it. -/
  values_of_put : ∀ name earlier header later, steps = earlier ++ .put header :: later →
    SameName name header.name → ¬ Replaced name later →
    response.values name = header.value :: written name later
  value? : ∀ name, response.value? name = (response.values name).head?
  /-- The case of ASCII letters makes no difference. -/
  sameName : ∀ name other, SameName name other →
    response.values name = response.values other ∧ response.value? name = response.value? other
  /-- Without a step that puts another name, a name has the same values. -/
  otherName : ∀ earlier header later, steps = earlier ++ .put header :: later →
    ∃ without, (ofSteps (earlier ++ later)).build = .ok without ∧
      ∀ name, ¬ SameName name header.name →
        response.values name = without.values name ∧ response.value? name = without.value? name
  /-- The service's time is the one in the first `Date` header, or missing with it. -/
  serverTime? : ∀ failure : ServiceFailure, failure.details.response = some response →
    failure.serverTime? = (response.values dateName).head?.bind HttpDate.read?

theorem shows_of_build {response : Response} (built : (ofSteps steps).build = .ok response) :
    Shows steps response := by
  obtain ⟨status, headers⟩ := build_ofSteps_eq_ok_iff.mp built
  have values (name : String) : response.values name = valuesOf name (lasting steps) :=
    congrArg (valuesOf name) headers
  constructor
  case status => exact status.symm
  case headers => exact headers
  case inOrder =>
    rw [headers]
    exact lasting_sublist steps
  case values_of_not_replaced =>
    intro name notReplaced
    rw [values, valuesOf_lasting_of_not_replaced notReplaced]
  case values_of_put =>
    rintro name earlier header later rfl same isLast
    rw [values, valuesOf_lasting_of_put same isLast]
  case value? => exact value?_eq_head?_values response
  case sameName =>
    intro name other same
    rw [value?_eq_head?_values, value?_eq_head?_values, values, values, valuesOf_congr same]
    exact ⟨rfl, rfl⟩
  case otherName =>
    rintro earlier header later rfl
    obtain ⟨without, builtWithout⟩ := exists_build_without_put built
    refine ⟨without, builtWithout, ?_⟩
    intro name different
    have same : response.values name = without.values name := by
      rw [values, valuesOf_lasting_insert_put different,
        ← (build_ofSteps_eq_ok_iff.mp builtWithout).2]
      rfl
    rw [value?_eq_head?_values, value?_eq_head?_values, same]
    exact ⟨rfl, rfl⟩
  case serverTime? => exact fun failure answered => serverTime?_of_response answered

/-- No response is built exactly when no status was set, and every response shows the steps
that built it: the last status, the lasting headers in the order of the steps, and under each
name the values that were set from the last step on that put it, or from the beginning if none
did.  Names are the same when they differ in the case of ASCII letters only, and a name that
is put somewhere is put for the last time somewhere. -/
theorem response_shows_steps (steps : List Step) :
    ((∃ missing, (ofSteps steps).build = .error missing) ↔ ∀ code, .status code ∉ steps) ∧
    (∀ response, (ofSteps steps).build = .ok response → Shows steps response) ∧
    (∀ name, Replaced name steps →
      ∃ earlier header later, steps = earlier ++ .put header :: later ∧
        SameName name header.name ∧ ¬ Replaced name later) ∧
    ∀ name other, SameName name other ↔ List.Forall₂ SameLetter name.toList other.toList := by
  refine ⟨exists_build_ofSteps_error_iff steps, ?_, ?_, ?_⟩
  · exact fun response => shows_of_build
  · exact fun name => exists_last_put
  · exact fun name other => sameName_iff

/-- A service that puts its time in words, names a better one later, and traces its calls. -/
def tracedSteps : List Step :=
  [.append ⟨"date", "Sat, 09 Mar 2024 16:20:00 GMT"⟩, .status 200, .append ⟨"X-Trace", "a"⟩,
    .append ⟨"x-trace", "b"⟩, .put ⟨"DATE", "at tea time"⟩, .put ⟨"X-TRACE", "c"⟩,
    .append ⟨"Date", "Sat, 09 Mar 2024 16:20:00 GMT"⟩, .append ⟨"x-Trace", "d"⟩, .status 403]

/-- The traces of the last step that put one count, and the time in words is no time although
a later header has one. -/
theorem response_shows_steps_traced :
    ∃ response, (ofSteps tracedSteps).build = .ok response ∧ response.status = 403 ∧
      response.values "x-tracE" = ["c", "d"] ∧
      response.value? "date" = some "at tea time" ∧
      ∀ failure : ServiceFailure, failure.details.response = some response →
        failure.serverTime? = none := by
  have built : (ofSteps tracedSteps).build = .ok ⟨403, lasting tracedSteps⟩ := by decide
  obtain ⟨-, shown, -, -⟩ := response_shows_steps tracedSteps
  have shows := shown _ built
  have traces := shows.values_of_put "x-tracE" (tracedSteps.take 5) ⟨"X-TRACE", "c"⟩
    (tracedSteps.drop 6) rfl (by decide) (by decide)
  have moreTraces : written "x-tracE" (tracedSteps.drop 6) = ["d"] := by decide +kernel
  have dates := shows.values_of_put "date" (tracedSteps.take 4) ⟨"DATE", "at tea time"⟩
    (tracedSteps.drop 5) rfl (by decide) (by decide)
  refine ⟨_, built, rfl, ?_, ?_, ?_⟩
  · rw [traces, moreTraces]
  · rw [shows.value?, dates, List.head?_cons]
  · intro failure answered
    rw [shows.serverTime? failure answered, ← (shows.sameName "date" dateName (by decide)).1,
      dates, List.head?_cons]
    decide +kernel

end Draft

end Response

end Triage

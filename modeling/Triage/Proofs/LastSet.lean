/-!
# What a list of steps sets last

Drafts and policies are made step by step, and a step either sets a field or leaves it alone.
After all steps the field has the value that was set last, or else the one from before.
-/

namespace Triage

variable {σ α β γ : Type} {steps : List α}

/-- The value that is set last. -/
def lastSet? (set? : α → Option β) (steps : List α) : Option β :=
  (steps.filterMap set?).getLast?

theorem lastSet?_cons (set? : α → Option β) (step : α) (later : List α) :
    lastSet? set? (step :: later) = (lastSet? set? later).or (set? step) := by
  rw [lastSet?, List.filterMap_cons]
  cases set? step with
  | none => exact Option.or_none.symm
  | some value =>
      dsimp only
      rw [List.getLast?_cons, lastSet?]
      cases (later.filterMap set?).getLast? <;> rfl

/-- Nothing is set exactly when no step sets anything. -/
theorem lastSet?_eq_none_iff {set? : α → Option β} :
    lastSet? set? steps = none ↔ ∀ step ∈ steps, set? step = none := by
  rw [lastSet?, List.getLast?_eq_none_iff, List.filterMap_eq_nil_iff]

theorem lastSet?_map (set? : α → Option β) (f : β → γ) (steps : List α) :
    lastSet? (fun step => (set? step).map f) steps = (lastSet? set? steps).map f := by
  rw [lastSet?, lastSet?, ← List.map_filterMap, List.getLast?_map]

/-- A field that every step sets or leaves alone has the last value in the end. -/
theorem field_foldl {next : σ → α → σ} {field : σ → β} {set? : α → Option β}
    (sets : ∀ state step, field (next state step) = (set? step).getD (field state))
    (state : σ) (steps : List α) :
    field (steps.foldl next state) = (lastSet? set? steps).getD (field state) := by
  induction steps generalizing state with
  | nil => rfl
  | cons step later ih =>
      rw [List.foldl_cons, ih, sets, lastSet?_cons]
      cases lastSet? set? later <;> rfl

end Triage

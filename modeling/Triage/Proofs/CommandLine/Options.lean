import Triage.CommandLine.Arguments

/-!
# Changes to a command line

What an argument holds does not depend on the arguments behind it, unless it is the word
or the two dashes that end the options.  So arguments behind a word can be changed without
any effect in front of it, and an option can be taken away, or take the place of another
one, without any effect on the rest.
-/

namespace Triage.CommandLine

variable {specs : List Spec} {name text word : String} {given : List Given} {spec : Spec}
  {kind : ValueKind} {arguments later : List String} {piece : Piece}

/-! ## Pieces -/

namespace Piece

/-- The piece is neither a word nor the end of the arguments, so that it says nothing about
what comes behind it. -/
def IsClosed : Piece → Prop
  | .ended _ .nothing => False
  | .ended _ (.word _ _) => False
  | _ => True

/-- The piece holds no option of a name. -/
def Avoids (name : String) : Piece → Prop
  | .options given => ∀ option ∈ given, option.name ≠ name
  | .awaiting given spec _ => (∀ option ∈ given, option.name ≠ name) ∧ spec.name ≠ name
  | .ended _ _ => True

theorem IsClosed.after (closed : piece.IsClosed) (first : Given) :
    (piece.after first).IsClosed := by
  cases piece with
  | options given => trivial
  | awaiting given spec kind => trivial
  | ended given ending => cases ending <;> exact closed

theorem Avoids.after {first : Given} (avoids : piece.Avoids name) (other : first.name ≠ name) :
    (piece.after first).Avoids name := by
  cases piece with
  | options given => exact List.forall_mem_cons.mpr ⟨other, avoids⟩
  | awaiting given spec kind => exact ⟨List.forall_mem_cons.mpr ⟨other, avoids.1⟩, avoids.2⟩
  | ended given ending => trivial

end Piece

/-! ## Single arguments -/

namespace Given

/-- The options with one in place of those that have its name. -/
def replace (option : Given) (given : List Given) : List Given :=
  option :: given.filter (·.name ≠ option.name)

end Given

end Triage.CommandLine

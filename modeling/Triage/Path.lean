/-!
# File paths

Paths keep the text in which they were written but are compared by components:
repeated and trailing slashes do not count, and neither does `.` except as the
very first component of a relative path.  `..` is kept.
-/

namespace Triage

/-- A component of a path. -/
inductive Component where
  | root
  | current
  | parent
  | normal (name : String)
deriving DecidableEq, Hashable, Repr

/-- A file path. -/
structure Path where
  text : String
deriving Repr

namespace Path

/-- The components that a path has after its first piece. -/
def laterComponent? (piece : List Char) : Option Component :=
  if piece = [] ∨ piece = ['.'] then none
  else if piece = ['.', '.'] then some .parent
  else some (.normal (String.ofList piece))

/-- The component that the first piece of a path stands for: an empty one before a
slash is the root, and `.` is kept. -/
def firstComponent? (piece : List Char) (isOnly : Bool) : Option Component :=
  if piece = [] then
    if isOnly then none else some .root
  else if piece = ['.'] then
    some .current
  else
    laterComponent? piece

/-- The components of a path. -/
def components (path : Path) : List Component :=
  match path.text.toList.splitOnP (· = '/') with
  | [] => []
  | first :: later =>
      (firstComponent? first later.isEmpty).toList ++ later.filterMap laterComponent?

instance : BEq Path := ⟨fun first second => first.components == second.components⟩

instance : Hashable Path := ⟨fun path => hash path.components⟩

/-- A component as it is written. -/
def componentText : Component → String
  | .root => ""
  | .current => "."
  | .parent => ".."
  | .normal name => name

/-- The components of a path that is taken from a folder. -/
def componentsFrom (folder path : Path) : List Component :=
  if path.components.head? = some .root then path.components
  else folder.components ++ path.components.filter (· ≠ .current)

/-- What is left of two lists without what they have in common at the front. -/
def withoutCommon [DecidableEq α] : List α → List α → List α × List α
  | first :: firsts, second :: seconds =>
      if first = second then withoutCommon firsts seconds
      else (first :: firsts, second :: seconds)
  | firsts, seconds => (firsts, seconds)

/-- The way to a path from a folder. -/
def wayFrom (folder path : Path) : String :=
  let (up, down) := withoutCommon folder.components (componentsFrom folder path)
  "/".intercalate (up.map (fun _ => "..") ++ down.map componentText)

theorem beq_iff {first second : Path} :
    (first == second) = true ↔ first.components = second.components := by
  change (first.components == second.components) = true ↔ _
  exact beq_iff_eq

end Path

end Triage

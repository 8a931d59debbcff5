import Triage.MissingField

/-!
# Responses of a service

A response has a status and a list of headers in the order in which they were
set.  Header names are compared without regard to the case of ASCII letters, and
a name may occur several times.  Putting a header replaces every earlier one of
its name; appending keeps them.
-/

namespace Triage

/-- One header line. -/
structure Header where
  name : String
  value : String
deriving DecidableEq, Hashable, Repr

namespace Header

/-- A header name in lower case, ASCII letters only. -/
def foldName (name : String) : List Char := name.toList.map Char.toLower

/-- Two header names are the same up to the case of ASCII letters. -/
def SameName (first second : String) : Prop := foldName first = foldName second

instance (first second : String) : Decidable (SameName first second) :=
  inferInstanceAs (Decidable (foldName first = foldName second))

/-- The name of the header that carries the service's clock. -/
def dateName : String := "Date"

end Header

/-- The response of a service. -/
structure Response where
  status : UInt16
  headers : List Header
deriving DecidableEq, Hashable, Repr

namespace Response

/-- All values of a header, in order. -/
def values (response : Response) (name : String) : List String :=
  (response.headers.filter fun header => Header.SameName header.name name).map Header.value

/-- The first value of a header. -/
def value? (response : Response) (name : String) : Option String :=
  (response.headers.find? fun header => Header.SameName header.name name).map Header.value

/-- Statuses `200 … 299` report success. -/
def isSuccessful (response : Response) : Bool :=
  200 ≤ response.status && response.status < 300

/-- A response under construction. -/
structure Draft where
  status : Option UInt16
  headers : List Header

namespace Draft

/-- Nothing is set. -/
def empty : Draft := ⟨none, []⟩

/-- Set the status. -/
def setStatus (draft : Draft) (status : UInt16) : Draft :=
  { draft with status := some status }

/-- Set a header in place of all earlier ones of its name. -/
def put (draft : Draft) (header : Header) : Draft :=
  { draft with
    headers :=
      (draft.headers.filter fun earlier => ¬ Header.SameName earlier.name header.name) ++
        [header] }

/-- Add a header after all others. -/
def append (draft : Draft) (header : Header) : Draft :=
  { draft with headers := draft.headers ++ [header] }

/-- The finished response. -/
def build (draft : Draft) : Except MissingField Response :=
  match draft.status with
  | some status => .ok ⟨status, draft.headers⟩
  | none => .error .statusCode

/-- One step of building a response. -/
inductive Step where
  | status (code : UInt16)
  | put (header : Header)
  | append (header : Header)
deriving DecidableEq, Repr

/-- Take one step. -/
def apply (draft : Draft) : Step → Draft
  | .status code => draft.setStatus code
  | .put header => draft.put header
  | .append header => draft.append header

/-- Take steps in order, starting from nothing. -/
def ofSteps (steps : List Step) : Draft := steps.foldl apply empty

end Draft

end Response

end Triage

import Triage.Config.Tree
import Triage.Number.Decimal

/-!
# Settings in the environment

A variable whose name starts with a given word and two underscores overrides a
setting.  Further pairs of underscores separate the names on the way to it.  A
value that reads as a boolean or a number is one; the list of sensitive statuses
may be written with commas; all else is text.
-/

namespace Triage.Config

open Triage.Number Triage.Text

/-- A variable of the environment. -/
structure Variable where
  name : String
  value : String
deriving DecidableEq, Repr

namespace Variable

/-- A text in which every pair of underscores is a dot. -/
def dotted : List Char → List Char
  | '_' :: '_' :: rest => '.' :: dotted rest
  | c :: rest => c :: dotted rest
  | [] => []

/-- The rest of a text behind its start. -/
def behind? : (start text : List Char) → Option (List Char)
  | [], text => some text
  | _ :: _, [] => none
  | s :: start, c :: text => if s = c then behind? start text else none

/-- The key that a variable overrides, when its name starts with the word.  Case does
not matter. -/
def key? (word : String) (entry : Variable) : Option String :=
  (behind? (lowercase (word ++ "__")).toList (lowercase entry.name).toList).map fun rest =>
    String.ofList (dotted rest)

/-- The boolean that a value writes, in any case. -/
def boolean? (value : String) : Option Bool :=
  if lowercase value = "true" then some true
  else if lowercase value = "false" then some false
  else none

/-- The key whose value may be a list. -/
def listKey : String := "clock_skew.sensitive_status_codes"

/-- The value of a variable that overrides a key. -/
def setting (key : String) (value : String) : Setting :=
  let origin := some Origin.environment
  match boolean? value with
  | some boolean => .scalar origin (.boolean boolean)
  | none =>
      match integerWithin? (-9223372036854775808) 9223372036854775807 value.toList with
      | some integer => .scalar origin (.integer integer)
      | none =>
          match Binary64.read? value.toList with
          | some real => .scalar origin (.real real)
          | none =>
              if key = listKey then
                .list origin ((value.toList.splitOnP (· = ',')).map fun item =>
                  .scalar origin (.text (String.ofList item)))
              else
                .scalar origin (.text value)

end Variable

/-- The settings that the variables of an environment override. -/
def overrides (word : String) (environment : List Variable) : List (String × Setting) :=
  environment.filterMap fun entry =>
    (entry.key? word).map fun key => (key, Variable.setting key entry.value)

end Triage.Config

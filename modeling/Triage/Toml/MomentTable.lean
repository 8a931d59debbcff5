import Triage.Toml.Moment
import Triage.Toml.Value

/-!
# Tables that stand for moments

A moment can also be given as a table whose first key is a mark that is kept for it.
The text under that key writes the moment, and no other entry of the table counts.
A mark behind another key is a key like all others.
-/

namespace Triage.Toml

/-- The key that marks the table of a moment. -/
def momentKey : String := "$__toml_private_datetime"

/-- The value under the mark of a moment, when that is the first key. -/
def markedValue? : List (String × Value) → Option Value
  | [] => none
  | (key, value) :: _ => if key = momentKey then some value else none

/-- The moment that a text writes. -/
def Value.writtenMoment? : Value → Option Value
  | .text value => (moment? value.toList).map fun normal => .moment (String.ofList normal)
  | _ => none

mutual

/-- The value with moments in place of the tables that stand for them; none when one of
these tables writes no moment. -/
def Value.withMoments? : Value → Option Value
  | .text value => some (.text value)
  | .integer value => some (.integer value)
  | .real value => some (.real value)
  | .boolean value => some (.boolean value)
  | .moment value => some (.moment value)
  | .array items => (itemsWithMoments? items).map .array
  | .table entries =>
      match markedValue? entries with
      | some value => value.writtenMoment?
      | none => (entriesWithMoments? entries).map .table

/-- The items of an array, each with its moments. -/
def itemsWithMoments? : List Value → Option (List Value)
  | [] => some []
  | item :: later => do
      let item ← item.withMoments?
      let items ← itemsWithMoments? later
      some (item :: items)

/-- The entries of a table, each with its moments. -/
def entriesWithMoments? : List (String × Value) → Option (List (String × Value))
  | [] => some []
  | (key, value) :: later => do
      let value ← value.withMoments?
      let entries ← entriesWithMoments? later
      some ((key, value) :: entries)

end

end Triage.Toml

import Triage.Config.Basic
import Triage.Config.KeyPath
import Triage.Number.Decimal
import Triage.Text.Quoted

/-!
# Reading configurations from trees of settings

Numbers and booleans may be written in several ways.  The settings of a group
have names when the group is a table and an order when it is a list; what is
missing keeps its standard value, and what is unknown does not matter.
-/

namespace Triage.Config

open Triage.Number Triage.Text

/-- What stands where something else was expected. -/
inductive Found where
  | nothing
  | boolean (value : Bool)
  | integer (value : Int)
  | word (value : Nat)
  | real (value : Binary64)
  | text (value : String)
  | list
  | table
deriving DecidableEq

/-- What was found, in messages; some of them name the width of integers. -/
def Found.message (withWidth : Bool) : Found → String
  | nothing => "unit value"
  | boolean value => "boolean `" ++ toString value ++ "`"
  | integer value => (if withWidth then "64-bit " else "") ++ "integer `" ++ toString value ++ "`"
  | word value =>
      (if withWidth then "64-bit unsigned " else "") ++ "integer `" ++ toString value ++ "`"
  | real value => "floating point `" ++ value.text ++ "`"
  | text value => "string " ++ quote value
  | list => "sequence"
  | table => "map"

/-- What a setting is. -/
def Setting.found : Setting → Found
  | .scalar _ .unit => .nothing
  | .scalar _ (.boolean value) => .boolean value
  | .scalar _ (.integer value) => .integer value
  | .scalar _ (.real value) => .real value
  | .scalar _ (.text value) => .text value
  | .list _ _ => .list
  | .table _ _ => .table

/-- Where a setting was found. -/
def Setting.origin : Setting → Option Origin
  | .scalar origin _ => origin
  | .list origin _ => origin
  | .table origin _ => origin

/-- The kinds of values of settings. -/
inductive Expected where
  | integer
  | natural
  | word (bits : Nat)
  | boolean
deriving DecidableEq, Repr

/-- What was expected, in messages. -/
def Expected.message : Expected → String
  | integer => "an integer"
  | natural => "an unsigned 64 bit or less integer"
  | word bits => "an unsigned " ++ toString bits ++ " bit integer"
  | boolean => "a boolean"

/-- The shapes of settings that hold other settings. -/
inductive Shape where
  | backoff
  | clock
  | list
deriving DecidableEq, Repr

/-- The shape in messages. -/
def Shape.message : Shape → String
  | backoff => "struct StrategyConfig"
  | clock => "struct ClockSkewConfig"
  | list => "a sequence"

/-- The steps from the outermost table to a setting, in messages. -/
def trailText : List Step → String
  | [] => ""
  | step :: later =>
      let rest := trailText later
      let dot := match later with
        | .name _ :: _ => "."
        | _ => ""
      match step with
      | .name name => name ++ dot ++ rest
      | .item index => "[" ++ toString index ++ "]" ++ dot ++ rest

/-- Why a setting cannot be read. -/
inductive Mismatch where
  | value (found : Found) (expected : Expected) (trail : List Step) (origin : Option Origin)
  | shape (found : Found) (expected : Shape)
deriving DecidableEq

namespace Mismatch

/-- The mismatch in words. -/
def message : Mismatch → String
  | value found expected trail origin =>
      "invalid type: " ++ found.message true ++ ", expected " ++ expected.message ++
        (if trail.isEmpty then "" else " for key `" ++ trailText trail ++ "`") ++
        (match origin with
          | some origin => " in " ++ origin.text
          | none => "")
  | shape found expected =>
      "invalid type: " ++ found.message false ++ ", expected " ++ expected.message

/-- The mismatch as seen from one step further out. -/
def within (step : Step) : Mismatch → Mismatch
  | value found expected trail origin => value found expected (step :: trail) origin
  | shape found expected => shape found expected

end Mismatch

/-- What a setting is read as, or why it cannot be read. -/
abbrev Decoded := Except Mismatch

/-- A mismatch of the setting itself. -/
def mismatch (setting : Setting) (expected : Expected) : Mismatch :=
  .value setting.found expected [] setting.origin

/-- The boolean that a word stands for, in any case. -/
def booleanWord? (word : String) : Option Bool :=
  let word := lowercase word
  if word = "true" ∨ word = "on" ∨ word = "yes" then some true
  else if word = "false" ∨ word = "off" ∨ word = "no" then some false
  else none

/-- A number that is not negative and has 64 bits.  Real numbers are rounded into that
range. -/
def natural (setting : Setting) : Decoded Nat :=
  match setting with
  | .scalar _ (.boolean value) => .ok value.toNat
  | .scalar _ (.integer value) =>
      if 0 ≤ value then .ok value.toNat else .error (mismatch setting .natural)
  | .scalar _ (.real value) => .ok (value.roundWithin 0 18446744073709551615).toNat
  | .scalar _ (.text text) =>
      match (booleanWord? text).map Bool.toNat <|>
          (natural? text.toList).filter (· ≤ 18446744073709551615) with
      | some value => .ok value
      | none => .error (mismatch setting .integer)
  | setting => .error (mismatch setting .integer)

/-- A number that is not negative and has fewer bits. -/
def word (bits : Nat) (setting : Setting) : Decoded Nat := do
  let value ← natural setting
  if value < Nat.pow 2 bits then .ok value else .error (.value (.word value) (.word bits) [] none)

/-- A word of 8 bits. -/
def word8 (setting : Setting) : Decoded UInt8 := UInt8.ofNat <$> word 8 setting

/-- A word of 16 bits. -/
def word16 (setting : Setting) : Decoded UInt16 := UInt16.ofNat <$> word 16 setting

/-- A word of 32 bits. -/
def word32 (setting : Setting) : Decoded UInt32 := UInt32.ofNat <$> word 32 setting

/-- A word of 64 bits. -/
def word64 (setting : Setting) : Decoded UInt64 := UInt64.ofNat <$> natural setting

/-- An integer of 64 bits.  Real numbers are rounded into that range. -/
def signed (setting : Setting) : Decoded Int :=
  match setting with
  | .scalar _ (.boolean value) => .ok value.toNat
  | .scalar _ (.integer value) => .ok value
  | .scalar _ (.real value) =>
      .ok (value.roundWithin (-9223372036854775808) 9223372036854775807)
  | .scalar _ (.text text) =>
      match (booleanWord? text).map (fun value => (value.toNat : Int)) <|>
          integerWithin? (-9223372036854775808) 9223372036854775807 text.toList with
      | some value => .ok value
      | none => .error (mismatch setting .integer)
  | setting => .error (mismatch setting .integer)

/-- A signed word of 64 bits. -/
def integer (setting : Setting) : Decoded Int64 := Int64.ofInt <$> signed setting

/-- A truth value: any number but zero is true. -/
def boolean (setting : Setting) : Decoded Bool :=
  match setting with
  | .scalar _ (.boolean value) => .ok value
  | .scalar _ (.integer value) => .ok (value ≠ 0)
  | .scalar _ (.real value) => .ok (!value.isZero)
  | .scalar origin (.text text) =>
      if text = "1" then .ok true
      else if text = "0" then .ok false
      else
        match booleanWord? text with
        | some value => .ok value
        | none => .error (.value (.text (lowercase text)) .boolean [] origin)
  | setting => .error (mismatch setting .boolean)

/-- The items of a list, each read in the same way. -/
def items (read : Setting → Decoded α) : (index : Nat) → List Setting → Decoded (List α)
  | _, [] => .ok []
  | index, item :: later => do
      let value ← (read item).mapError (Mismatch.within (.item index))
      let values ← items read (index + 1) later
      .ok (value :: values)

/-- A list whose items are read in the same way. -/
def list (read : Setting → Decoded α) (setting : Setting) : Decoded (List α) :=
  match setting with
  | .list _ settings => items read 0 settings
  | setting => .error (.shape setting.found .list)

/-- The settings of a group, by name or in order. -/
inductive Group where
  | named (entries : Entries Setting)
  | ordered (items : List Setting)

namespace Group

/-- The group that a setting holds. -/
def ofSetting (shape : Shape) : Setting → Decoded Group
  | .table _ entries => .ok (.named entries)
  | .list _ items => .ok (.ordered items)
  | setting => .error (.shape setting.found shape)

/-- The setting of a name and place, with the step to it. -/
def get? (group : Group) (name : String) (place : Nat) : Option (Step × Setting) :=
  match group with
  | named entries => (Entries.get? entries name).map (Step.name name, ·)
  | ordered items => items[place]?.map (Step.item place, ·)

/-- Read the setting of a name and place, which keeps its standard value when it is
missing. -/
def read (group : Group) (name : String) (place : Nat) (read : Setting → Decoded α)
    (standard : α) : Decoded α :=
  match group.get? name place with
  | none => .ok standard
  | some (step, setting) => (read setting).mapError (Mismatch.within step)

end Group

/-- The choices for delays and attempts. -/
def Backoff.ofSetting (setting : Setting) : Decoded Backoff := do
  let group ← Group.ofSetting .backoff setting
  let base ← group.read "base_delay_ms" 0 word64 standard.baseMilliseconds
  let throttlingBase ←
    group.read "throttling_base_delay_ms" 1 word64 standard.throttlingBaseMilliseconds
  let maximum ← group.read "max_delay_ms" 2 word64 standard.maxMilliseconds
  let attempts ← group.read "max_attempts" 3 word32 standard.maxAttempts
  let jitter ← group.read "jitter_percent" 4 word8 standard.jitterPercent
  .ok ⟨base, throttlingBase, maximum, attempts, jitter⟩

/-- The choices for wrong clocks. -/
def Clock.ofSetting (setting : Setting) : Decoded Clock := do
  let group ← Group.ofSetting .clock setting
  let statuses ←
    group.read "sensitive_status_codes" 0 (list word16) standard.sensitiveStatuses
  let threshold ← group.read "threshold_secs" 1 integer standard.thresholdSeconds
  let onAnyStatus ← group.read "possible_skew_codes_on_any_status" 2 boolean
    standard.possibleCodesOnAnyStatus
  .ok ⟨statuses, threshold, onAnyStatus⟩

/-- The configuration in the entries of the outermost table.  Where several of them do not
fit, the first in this order is told; the table itself has no order and leaves open which. -/
def ofEntries (entries : Entries Setting) : Decoded Config := do
  let group := Group.named entries
  let backoff ← group.read "strategy" 0 Backoff.ofSetting Backoff.standard
  let clock ← group.read "clock_skew" 1 Clock.ofSetting Clock.standard
  .ok ⟨backoff, clock⟩

end Triage.Config

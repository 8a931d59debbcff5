import Std.Time.DateTime.Timestamp
import Triage.CommandLine.Run
import Triage.Path

/-!
# The program

The arguments, the clock, the environment and the file of the configuration are
read here; all else is decided by the request.
-/

namespace Triage.Program

open Triage.CommandLine Triage.Config Triage.Log Triage.Text Triage.Time

/-- A variable of the environment, when its bytes are text. -/
def variableOf? (bytes : List UInt8) : Option Variable := do
  let name ← textOfBytes? (bytes.takeWhile (· ≠ 61))
  let value ← textOfBytes? ((bytes.dropWhile (· ≠ 61)).drop 1)
  some ⟨name, value⟩

/-- The variables of the environment. -/
def environment : IO (List Variable) := do
  let bytes ← IO.FS.readBinFile "/proc/self/environ"
  return (bytes.toList.splitOnP (· = 0)).filterMap variableOf?

/-- The code of the error that a folder is no file. -/
def folderCode : UInt32 := 21

/-- The error says that there is no such file: no entry, or a file on the way to it. -/
def isMissing : IO.Error → Bool
  | .noFileOrDirectory _ _ _ => true
  | .inappropriateType _ code _ => code ≠ folderCode
  | _ => false

/-- What a path leads to. -/
def lookUp (path : String) : IO Target := do
  if path.isEmpty then
    return .missing
  match ← (IO.FS.readBinFile path).toBaseIO with
  | .ok bytes =>
      let folder ← IO.currentDir
      return .file (Path.wayFrom ⟨folder.toString⟩ ⟨path⟩)
        (textWithReplacements bytes.toList)
  | .error error => return if isMissing error then .missing else .noFile

/-- The time that the clock shows. -/
def now : IO Instant := do
  let nanoseconds := (← Std.Time.Timestamp.now).toNanosecondsSinceUnixEpoch.val
  match Instant.ofUnix? (nanoseconds / 1000000000) (nanoseconds % 1000000000).toNat with
  | some instant => return instant
  | none => throw (IO.userError "the clock shows no time of the calendar")

/-- Run the program with some arguments. -/
def run (arguments : List String) : IO UInt32 := do
  let request := Request.ofArguments arguments
  let target ←
    match request.configPath? with
    | some path => lookUp path
    | none => pure Target.missing
  match request.perform ⟨← now, ← environment, fun _ => target⟩ with
  | none =>
      IO.eprintln "a time or a threshold is out of range"
      return 101
  | some outcome =>
      for event in outcome.events do
        if request.logLevel.shows event.level then
          IO.eprintln event.text
      for error in outcome.errors do
        IO.eprintln error
      IO.print outcome.output
      return outcome.exitCode.toUInt32

end Triage.Program

/-- Run the program. -/
def main (arguments : List String) : IO UInt32 := Triage.Program.run arguments

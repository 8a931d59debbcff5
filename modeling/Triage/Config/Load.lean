import Triage.Config.Decode
import Triage.Config.Environment
import Triage.Text.Utf8
import Triage.Toml.Document

/-!
# Loading configurations

A configuration is read from the text of a TOML document, or from a file with the
environment laid over it.  Values that can be read but make no sense together are
refused.
-/

namespace Triage.Config

open Triage.Text

/-- What a path leads to; a file is named as seen from the working directory. -/
inductive Target where
  | missing
  | noFile
  | file (name : String) (text : String)
deriving DecidableEq, Repr

/-- Why there is no configuration.  A setting without a place stops the program that loads
it, so that its message is never shown. -/
inductive LoadError where
  | missing (path : String)
  | unreadablePath (path : List UInt8)
  | noFile (path : String)
  | noDocument
  | noPlace
  | unreadable (mismatch : Mismatch)
  | invalid (fault : Fault)
deriving DecidableEq

/-- A path in double quotes. -/
def quotePath (path : List UInt8) : String :=
  let quotePiece : Piece → List Char
    | .character c => quoteCharacter c
    | .stray byte => quoteByte byte
  String.ofList ('"' :: (pieces path).flatMap quotePiece ++ ['"'])

/-- The error in words. -/
def LoadError.message : LoadError → String
  | missing path => "Configuration file not found: " ++ path
  | unreadablePath path => "Invalid path: " ++ quotePath path
  | noFile path => "Configuration error: configuration file \"" ++ path ++ "\" not found"
  | noDocument => "Configuration error: TOML parse error"
  | noPlace => "Configuration error: index out of range"
  | unreadable mismatch => "Configuration error: " ++ mismatch.message
  | invalid fault => "Invalid configuration: " ++ fault.message

/-- What is loaded, or why nothing is. -/
abbrev Loaded := Except LoadError

/-- The configuration, unless it has a fault. -/
def checked (config : Config) : Loaded Config :=
  match config.fault? with
  | some fault => .error (.invalid fault)
  | none => .ok config

/-- The settings of a document. -/
def documentSettings (origin : Option Origin) (text : String) :
    Loaded (List (String × Setting)) :=
  match Toml.read? text with
  | some entries => .ok (Setting.entriesOfToml origin entries)
  | none => .error .noDocument

/-- The configuration that settings make when each is laid over the ones before it. -/
def ofSettings (settings : List (String × Setting)) : Loaded Config := do
  match Setting.emptyTable.putAll? settings with
  | none => .error .noPlace
  | some tree =>
      let config ← (ofEntries tree.asTable.2).mapError LoadError.unreadable
      checked config

/-- The configuration that a document holds. -/
def ofText (text : String) : Loaded Config := do
  let settings ← documentSettings none text
  ofSettings settings

/-- The word with which the names of variables start unless another one is chosen. -/
def standardWord : String := "SVC_RETRY"

/-- The configuration of a file, with the environment laid over it. -/
def ofFile (word : String) (environment : List Variable) (name text : String) :
    Loaded Config := do
  let settings ← documentSettings (some (.file name)) text
  ofSettings (settings ++ overrides word environment)

/-- The configuration at a path, with the environment laid over it. -/
def load (lookUp : String → Target) (word : String) (environment : List Variable)
    (path : String) : Loaded Config :=
  match lookUp path with
  | .missing => .error (.missing path)
  | .noFile => .error (.noFile path)
  | .file name text => ofFile word environment name text

/-- The configuration at a path that is given in bytes, which may be no text. -/
def loadBytes (lookUp : String → Target) (word : String) (environment : List Variable)
    (path : List UInt8) : Loaded Config :=
  match textOfBytes? path with
  | none => .error (.unreadablePath path)
  | some path => load lookUp word environment path

end Triage.Config

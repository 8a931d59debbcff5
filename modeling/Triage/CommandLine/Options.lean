import Triage.Text.Scan

/-!
# Options on a command line

Options have a long name and may have a letter.  Letters can be written together;
a value stands behind an equals sign, right behind a letter, or in the next
argument, which then must not look like an option.  Two dashes alone end the
options.  Only counted options may be given twice.
-/

namespace Triage.CommandLine

open Triage.Text

/-- The values that an option takes. -/
inductive ValueKind where
  | text
  | path
  | integer (low high : Int) (mayStandAlone : Bool)
deriving DecidableEq, Repr

/-- The value belongs to the kind: a path is not empty, an integer lies between bounds. -/
def ValueKind.accepts (kind : ValueKind) (value : String) : Bool :=
  match kind with
  | text => true
  | path => !value.isEmpty
  | integer low high _ => (integerWithin? low high value.toList).isSome

/-- What an option does. -/
inductive Action where
  | flag
  | counted
  | help
  | version
  | value (kind : ValueKind)
deriving DecidableEq, Repr

/-- An option. -/
structure Spec where
  name : String
  letter : Option Char
  action : Action
deriving DecidableEq, Repr

/-- An option as it was given; flags have an empty value. -/
structure Given where
  name : String
  value : String
deriving DecidableEq, Repr

/-- What comes behind the options. -/
inductive Ending where
  | nothing
  | word (word : String) (later : List String)
  | help
  | version
  | unknown
deriving DecidableEq, Repr

/-- What one argument holds: options, the last of which may still need its value, or
what ends the options. -/
inductive Piece where
  | options (given : List Given)
  | awaiting (given : List Given) (spec : Spec) (kind : ValueKind)
  | ended (given : List Given) (ending : Ending)
deriving DecidableEq, Repr

namespace Piece

/-- A piece with an option in front. -/
def after (first : Given) : Piece → Piece
  | options given => options (first :: given)
  | awaiting given spec kind => .awaiting (first :: given) spec kind
  | ended given ending => ended (first :: given) ending

end Piece

/-- The options that are written as letters behind one dash. -/
def letters (specs : List Spec) : List Char → Piece
  | [] => .options []
  | c :: rest =>
      match specs.find? fun spec => spec.letter = some c with
      | none => .ended [] .unknown
      | some spec =>
          match spec.action with
          | .flag => (letters specs rest).after ⟨spec.name, ""⟩
          | .counted => (letters specs rest).after ⟨spec.name, ""⟩
          | .help => .ended [] .help
          | .version => .ended [] .version
          | .value kind =>
              match rest with
              | [] => .awaiting [] spec kind
              | '=' :: value => .options [⟨spec.name, String.ofList value⟩]
              | value => .options [⟨spec.name, String.ofList value⟩]

/-- The option that is written with its long name behind two dashes, and the value
behind the equals sign when there is one. -/
def longOption (specs : List Spec) (name : String) (value : Option String) : Piece :=
  match specs.find? fun spec => spec.name = name with
  | none => .ended [] .unknown
  | some spec =>
      match spec.action, value with
      | .value kind, none => .awaiting [] spec kind
      | .value _, some value => .options [⟨spec.name, value⟩]
      | .flag, none => .options [⟨spec.name, ""⟩]
      | .counted, none => .options [⟨spec.name, ""⟩]
      | .help, none => .ended [] .help
      | .version, none => .ended [] .version
      | _, some _ => .ended [] .unknown

/-- What one argument holds, with the arguments behind it. -/
def argument (specs : List Spec) (text : String) (later : List String) : Piece :=
  match text.toList with
  | ['-', '-'] => .ended [] (if later.isEmpty then .nothing else .unknown)
  | '-' :: '-' :: rest =>
      let name := String.ofList (rest.takeWhile (· ≠ '='))
      match rest.dropWhile (· ≠ '=') with
      | [] => longOption specs name none
      | _ :: value => longOption specs name (some (String.ofList value))
  | ['-'] => .ended [] (.word text later)
  | '-' :: rest => letters specs rest
  | _ => .ended [] (.word text later)

/-- The argument can be the value of the option before it. -/
def canBeValue (kind : ValueKind) (text : String) : Bool :=
  match text.toList with
  | ['-'] => true
  | '-' :: _ =>
      match kind with
      | .integer low high true => (integerWithin? low high text.toList).isSome
      | _ => false
  | _ => true

/-- The options at the front of some arguments, and what comes behind them. -/
def options (specs : List Spec) : List String → List Given × Ending
  | [] => ([], .nothing)
  | text :: later =>
      match argument specs text later with
      | .options given =>
          let (more, ending) := options specs later
          (given ++ more, ending)
      | .ended given ending => (given, ending)
      | .awaiting given spec kind =>
          match later with
          | [] => (given, .unknown)
          | value :: later =>
              if canBeValue kind value then
                let (more, ending) := options specs later
                (given ++ ⟨spec.name, value⟩ :: more, ending)
              else
                (given, .unknown)

/-- An option that may be given again. -/
def mayRepeat (specs : List Spec) (name : String) : Bool :=
  specs.any fun spec => spec.name = name && spec.action = .counted

/-- The value is one that the option takes. -/
def isAccepted (specs : List Spec) (given : Given) : Bool :=
  specs.all fun spec =>
    spec.name ≠ given.name ||
      match spec.action with
      | .value kind => kind.accepts given.value
      | _ => true

/-- Every option has a value that it takes, and none is repeated without leave. -/
def areAccepted (specs : List Spec) : List Given → Bool
  | [] => true
  | given :: later =>
      isAccepted specs given &&
        (mayRepeat specs given.name || !later.any fun other => other.name = given.name) &&
        areAccepted specs later

namespace Given

/-- The value of an option. -/
def value? (given : List Given) (name : String) : Option String :=
  (given.find? fun option => option.name = name).map Given.value

/-- The integer that is the value of an option. -/
def integer? (given : List Given) (name : String) : Option Int :=
  (value? given name).bind fun value => Text.integer? value.toList

/-- The number of times that an option was given. -/
def count (given : List Given) (name : String) : Nat :=
  given.countP fun option => option.name = name

end Given

end Triage.CommandLine

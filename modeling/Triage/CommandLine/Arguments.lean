import Triage.CommandLine.Options

/-!
# The arguments of the program

The program has two commands: `classify` judges a failed call from its status and
code, `skew` compares a date with the clock.  How much is logged and which
configuration is used may be said before or behind the command; what is said
behind it counts.
-/

namespace Triage.CommandLine

/-- A failed call, as it is described on the command line. -/
structure Failure where
  status : UInt16
  code : String
  message : String
  service : String
  requestId : Option String
  extendedRequestId : Option String
  date : Option String
  skewSeconds : Int
  attempt : UInt32
deriving DecidableEq, Repr

/-- A command. -/
inductive Command where
  | classify (failure : Failure) (asJson : Bool)
  | skew (date : String)
deriving DecidableEq, Repr

/-- A command with the choices for all commands. -/
structure Invocation where
  verbosity : Nat
  configPath : Option String
  command : Command
deriving DecidableEq, Repr

/-- What the arguments ask for. -/
inductive Request where
  | run (invocation : Invocation)
  | help
  | version
  | nothing
  | unusable
deriving DecidableEq, Repr

/-- The options for all commands. -/
def sharedOptions : List Spec :=
  [⟨"verbose", some 'v', .counted⟩, ⟨"config", some 'c', .value .path⟩,
    ⟨"help", some 'h', .help⟩]

/-- The options in front of a command. -/
def leadingOptions : List Spec := ⟨"version", some 'V', .version⟩ :: sharedOptions

/-- The options of `classify`. -/
def classifyOptions : List Spec :=
  [⟨"status", some 's', .value (.integer 0 65535 false)⟩, ⟨"code", none, .value .text⟩,
    ⟨"message", none, .value .text⟩, ⟨"service", none, .value .text⟩,
    ⟨"request-id", none, .value .text⟩, ⟨"extended-request-id", none, .value .text⟩,
    ⟨"date", none, .value .text⟩,
    ⟨"skew-secs", none,
      .value (.integer (-9223372036854775808) 9223372036854775807 true)⟩,
    ⟨"attempt", none, .value (.integer 0 4294967295 false)⟩, ⟨"json", none, .flag⟩] ++
    sharedOptions

/-- The options of `skew`. -/
def skewOptions : List Spec := ⟨"date", none, .value .text⟩ :: sharedOptions

/-- The `classify` command, which needs a status. -/
def classify? (given : List Given) : Option Command :=
  (Given.integer? given "status").map fun status =>
    .classify
      { status := UInt16.ofNat status.toNat
        code := (Given.value? given "code").getD ""
        message := (Given.value? given "message").getD ""
        service := (Given.value? given "service").getD ""
        requestId := Given.value? given "request-id"
        extendedRequestId := Given.value? given "extended-request-id"
        date := Given.value? given "date"
        skewSeconds := (Given.integer? given "skew-secs").getD 0
        attempt := UInt32.ofNat ((Given.integer? given "attempt").getD 1).toNat }
      (Given.count given "json" ≠ 0)

/-- The `skew` command, which needs a date. -/
def skew? (given : List Given) : Option Command :=
  (Given.value? given "date").map Command.skew

/-- The request for a command whose options are given in front of it and behind it. -/
def invocation (specs : List Spec) (command? : List Given → Option Command)
    (leading : List Given) (arguments : List String) : Request :=
  let (given, ending) := options specs arguments
  if areAccepted specs given then
    match ending with
    | .nothing =>
        match command? given with
        | none => .unusable
        | some command =>
            let verbosity := Given.count given "verbose"
            .run
              { verbosity := if verbosity = 0 then Given.count leading "verbose" else verbosity
                configPath := (Given.value? given "config").or (Given.value? leading "config")
                command := command }
    | .help => .help
    | _ => .unusable
  else
    .unusable

/-- The request for help, which may name one command. -/
def helpRequest : List String → Request
  | [] => .help
  | [command] => if ["classify", "skew", "help"].contains command then .help else .unusable
  | _ => .unusable

/-- What some arguments ask for. -/
def Request.ofArguments (arguments : List String) : Request :=
  let (leading, ending) := options leadingOptions arguments
  if areAccepted leadingOptions leading then
    match ending with
    | .nothing => if leading.isEmpty then .nothing else .unusable
    | .help => .help
    | .version => .version
    | .unknown => .unusable
    | .word word later =>
        if word = "classify" then invocation classifyOptions classify? leading later
        else if word = "skew" then invocation skewOptions skew? leading later
        else if word = "help" then helpRequest later
        else .unusable
  else
    .unusable

end Triage.CommandLine

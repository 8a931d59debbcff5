import Triage.Log.Level

/-!
# What the log shows
-/

namespace Triage.Log

/-- The choices for the log. -/
structure Settings where
  level : Level
  timestamps : Bool
  target : Bool
deriving DecidableEq, Repr

namespace Settings

/-- Warnings with their time and place. -/
def standard : Settings := ⟨.warn, true, true⟩

/-- Choose the level. -/
def withLevel (settings : Settings) (level : Level) : Settings :=
  { settings with level := level }

/-- Choose whether messages show their time. -/
def withTimestamps (settings : Settings) (enabled : Bool) : Settings :=
  { settings with timestamps := enabled }

/-- Choose whether messages show their place. -/
def withTarget (settings : Settings) (enabled : Bool) : Settings :=
  { settings with target := enabled }

/-- The standard choices at the level that a verbosity asks for. -/
def ofVerbosity (verbosity : Nat) : Settings :=
  standard.withLevel (Level.ofVerbosity verbosity)

end Settings

end Triage.Log

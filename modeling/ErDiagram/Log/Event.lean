import ErDiagram.Text.Basic

/-!
Events: what a run has to tell about itself, before anything decides whether and how it is written.
-/

namespace ErDiagram.Log

/-- How serious an event is, the least serious first. -/
inductive Level where
  | trace
  | debug
  | info
  | warn
  | error
deriving DecidableEq

namespace Level

/-- Zero for the most serious level. -/
def verbosity : Level → Nat
  | .error => 0
  | .warn => 1
  | .info => 2
  | .debug => 3
  | .trace => 4

def name : Level → Text
  | .trace => "trace".toList
  | .debug => "debug".toList
  | .info => "info".toList
  | .warn => "warn".toList
  | .error => "error".toList

end Level

/-- The part of the program that an event comes from. -/
inductive Component where
  | classifier
  | normalizer
  | commandLine
deriving DecidableEq

namespace Component

/-- The short name of a component. -/
def name : Component → Text
  | .classifier => "classifier".toList
  | .normalizer => "normalizer".toList
  | .commandLine => "cli".toList

/-- The name that filters know a component by. -/
def target : Component → Text
  | .classifier => "ertidy::plugins::er::classifier".toList
  | .normalizer => "ertidy::plugins::er::normalizer".toList
  | .commandLine => "ertidy::cli".toList

end Component

/-- The value of a field. A text is written in quotes; a plain text is written as it is. -/
inductive Value where
  | text (value : Text)
  | number (value : Nat)
  | plain (value : Text)
deriving DecidableEq

/-- An event. A field can be there without a value; then it is not told, but rules can ask for it. -/
structure Event where
  level : Level
  component : Component
  message : Text
  fields : List (Text × Option Value)
deriving DecidableEq

/-- The names that rules know the fields of an event by. The message is one of them. -/
def Event.fieldNames (e : Event) : List Text :=
  "message".toList :: e.fields.map (·.1)

/-- A named stretch of a run, with the events inside it. Its fields are numbers. -/
structure Extent where
  level : Level
  component : Component
  name : Text
  fields : List (Text × Nat)
  events : List Event
deriving DecidableEq

end ErDiagram.Log

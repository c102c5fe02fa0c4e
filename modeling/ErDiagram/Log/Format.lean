import ErDiagram.Text.Search

/-!
The formats that a log can be asked for, and setting a log up. Only one log can be set up.
-/

namespace ErDiagram.Log

inductive Format where
  | compact
  | pretty
  | json
deriving DecidableEq

/-- A format that does not exist. -/
structure UnknownFormat where
  name : Text
deriving DecidableEq

namespace Format

def all : List Format := [.compact, .pretty, .json]

def name : Format → Text
  | .compact => "compact".toList
  | .pretty => "pretty".toList
  | .json => "json".toList

/-- The format with a name. The case of the letters A to Z does not matter. -/
def ofName (name : Text) : Except UnknownFormat Format :=
  match all.find? fun format => format.name == name.foldCase with
  | some format => .ok format
  | none => .error ⟨name⟩

end Format

namespace UnknownFormat

def message (e : UnknownFormat) : Text :=
  "Unknown log format: ".toList ++ e.name ++ " (expected one of: ".toList ++
    [',', ' '].intercalate (Format.all.map Format.name) ++ ")".toList

end UnknownFormat

/-- Why a log cannot be set up. -/
inductive SetupError where
  | unknownFormat (e : UnknownFormat)
  | alreadySet
deriving DecidableEq

namespace SetupError

def message : SetupError → Text
  | .unknownFormat e => "Invalid log format: ".toList ++ e.message
  | .alreadySet => "a global default trace dispatcher has already been set".toList

end SetupError

/-- Choose the format of the log. Without a name it is compact. A wrong name is reported first. -/
def setUp (isSet : Bool) (name? : Option Text) : Except SetupError Format :=
  match Format.ofName (name?.getD Format.compact.name) with
  | .error e => .error (.unknownFormat e)
  | .ok format => if isSet then .error .alreadySet else .ok format

end ErDiagram.Log

import ErDiagram.Log.Format
import ErDiagram.Text.Basic

/-!
The arguments of the command line. They are read from left to right, and the first fault, or the first
request for the version or for help, settles the matter. General options stand before the command, and
the options of a command behind it.
-/

namespace ErDiagram.Command

/-- When the difference is shown in colours. -/
inductive ColorChoice where
  | auto
  | always
  | never
deriving DecidableEq

/-- What to do. A path that is missing, or a single hyphen, stands for a standard stream. -/
inductive Action where
  | normalize (input? output? : Option Text) (keyModifiers : List Text)
  | check (input? : Option Text) (json : Bool) (color : ColorChoice) (keyModifiers : List Text)
  | detect (input? : Option Text)
deriving DecidableEq

structure Invocation where
  verbose : Bool
  logLevel? : Option Text
  logFormat? : Option Text
  action : Action
deriving DecidableEq

/-- What the arguments ask for. -/
inductive Request where
  | run (invocation : Invocation)
  | version
  | help
deriving DecidableEq

/-- A fault in the arguments. -/
inductive UsageError where
  | unknownOption (name : Text)
  | unexpectedArgument (argument : Text)
  | unexpectedValue (name : Text)
  | missingValue (name : Text)
  | invalidValue (name value : Text)
  | repeated (name : Text)
  | missingCommand
  | unknownCommand (name : Text)
deriving DecidableEq

namespace UsageError

def message : UsageError → Text
  | .unknownOption name => "unknown option ".toList ++ name
  | .unexpectedArgument argument => "unexpected argument ".toList ++ argument
  | .unexpectedValue name => "no value is allowed for ".toList ++ name
  | .missingValue name => "a value is required for ".toList ++ name
  | .invalidValue name value => "invalid value for ".toList ++ name ++ ": ".toList ++ value
  | .repeated name => "option given twice: ".toList ++ name
  | .missingCommand => "a command is required".toList
  | .unknownCommand name => "unknown command ".toList ++ name

end UsageError

inductive Flag where
  | verbose
  | logLevel
  | logFormat
  | version
  | help
  | input
  | output
  | keyModifier
  | json
  | color
deriving DecidableEq

namespace Flag

/-- The long name, without hyphens. -/
def name : Flag → Text
  | .verbose => "verbose".toList
  | .logLevel => "log-level".toList
  | .logFormat => "log-format".toList
  | .version => "version".toList
  | .help => "help".toList
  | .input => "input".toList
  | .output => "output".toList
  | .keyModifier => "key-modifier".toList
  | .json => "json".toList
  | .color => "color".toList

def short? : Flag → Option Char
  | .verbose => some 'v'
  | .version => some 'V'
  | .help => some 'h'
  | .input => some 'i'
  | .output => some 'o'
  | _ => none

def takesValue : Flag → Bool
  | .logLevel => true
  | .logFormat => true
  | .input => true
  | .output => true
  | .keyModifier => true
  | .color => true
  | _ => false

/-- Whether a value is allowed. A path is never empty; the names are exact. -/
def accepts : Flag → Text → Bool
  | .logLevel, value =>
    ["trace".toList, "debug".toList, "info".toList, "warn".toList, "error".toList,
      "off".toList].contains value
  | .logFormat, value => (Log.Format.all.map Log.Format.name).contains value
  | .input, value => !value.isEmpty
  | .output, value => !value.isEmpty
  | .color, value => ["auto".toList, "always".toList, "never".toList].contains value
  | _, _ => true

end Flag

/-- Options in the order in which they were given. An option without a value has an empty one. -/
abbrev Given := List (Flag × Text)

namespace Given

def has (given : Given) (flag : Flag) : Bool :=
  given.any (·.1 == flag)

def value? (given : Given) (flag : Flag) : Option Text :=
  given.lookup flag

def values (given : Given) (flag : Flag) : List Text :=
  given.filterMap fun entry => if entry.1 = flag then some entry.2 else none

end Given

/-- What ends the reading of arguments early. -/
inductive Stop where
  | fault (e : UsageError)
  | version
  | help

/-- Note an option. Only key modifiers may be given more than once. -/
def note (given : Given) (flag : Flag) (value : Text) : Except Stop Given :=
  if flag = .version then .error .version
  else if flag = .help then .error .help
  else if !flag.accepts value then .error (.fault (.invalidValue flag.name value))
  else if flag != .keyModifier && given.has flag then .error (.fault (.repeated flag.name))
  else .ok (given ++ [(flag, value)])

/-- Read the letters behind one hyphen. The rest behind an option with a value is the value, with or
without an equals sign; where nothing is left the next argument is the value. -/
def readCluster (flags : List Flag) : Given → Text → Except Stop (Given × Option Flag)
  | given, [] => .ok (given, none)
  | given, c :: rest =>
    match flags.find? fun flag => flag.short? == some c with
    | none => .error (.fault (.unknownOption ['-', c]))
    | some flag =>
      if flag.takesValue then
        match rest with
        | [] => .ok (given, some flag)
        | '=' :: value => (note given flag value).map fun given => (given, none)
        | value => (note given flag value).map fun given => (given, none)
      else
        match note given flag [] with
        | .error stop => .error stop
        | .ok given => readCluster flags given rest

/-- Read what stands behind two hyphens. -/
def readLong (flags : List Flag) (given : Given) (argument : Text) :
    Except Stop (Given × Option Flag) :=
  let name := argument.takeWhile (· != '=')
  let value? := if argument.contains '=' then some (argument.drop (name.length + 1)) else none
  match flags.find? fun flag => flag.name == name with
  | none => .error (.fault (.unknownOption ('-' :: '-' :: argument)))
  | some flag =>
    match flag.takesValue, value? with
    | true, some value => (note given flag value).map fun given => (given, none)
    | true, none => .ok (given, some flag)
    | false, some _ => .error (.fault (.unexpectedValue flag.name))
    | false, none => (note given flag []).map fun given => (given, none)

/-- Whether an argument can be an option. A single hyphen cannot. -/
def isOption (argument : Text) : Bool :=
  argument.head? == some '-' && 1 < argument.length

/-- Read options up to the first other argument, which is returned with those behind it. `pending` is
an option that still needs its value. Two hyphens end the options. -/
def readOptions (flags : List Flag) :
    Given → Option Flag → List Text → Except Stop (Given × List Text × Bool)
  | given, none, [] => .ok (given, [], false)
  | _, some flag, [] => .error (.fault (.missingValue flag.name))
  | given, some flag, argument :: rest =>
    if isOption argument then .error (.fault (.missingValue flag.name))
    else
      match note given flag argument with
      | .error stop => .error stop
      | .ok given => readOptions flags given none rest
  | given, none, argument :: rest =>
    if argument = ['-', '-'] then .ok (given, rest, true)
    else if isOption argument then
      let outcome :=
        match argument with
        | '-' :: '-' :: long => readLong flags given long
        | _ => readCluster flags given argument.tail
      match outcome with
      | .error stop => .error stop
      | .ok (given, pending) => readOptions flags given pending rest
    else .ok (given, argument :: rest, false)

def generalFlags : List Flag :=
  [.verbose, .logLevel, .logFormat, .version, .help]

inductive Verb where
  | normalize
  | check
  | detect
deriving DecidableEq

namespace Verb

def name : Verb → Text
  | .normalize => "normalize".toList
  | .check => "check".toList
  | .detect => "detect".toList

def all : List Verb := [.normalize, .check, .detect]

def flags : Verb → List Flag
  | .normalize => [.help, .input, .output, .keyModifier]
  | .check => [.help, .input, .json, .color, .keyModifier]
  | .detect => [.help, .input]

/-- The action that a command and its options stand for. -/
def action (given : Given) : Verb → Action
  | .normalize => .normalize (given.value? .input) (given.value? .output) (given.values .keyModifier)
  | .check =>
    let color := match given.value? .color with
      | some value =>
        if value = "always".toList then .always
        else if value = "never".toList then .never
        else .auto
      | none => .auto
    .check (given.value? .input) (given.has .json) color (given.values .keyModifier)
  | .detect => .detect (given.value? .input)

end Verb

/-- Read the arguments behind a command. -/
def readAction (verb : Verb) (arguments : List Text) : Except Stop Action :=
  match readOptions verb.flags [] none arguments with
  | .error stop => .error stop
  | .ok (given, [], _) => .ok (verb.action given)
  | .ok (_, argument :: _, _) => .error (.fault (.unexpectedArgument argument))

/-- The name of the command that asks for help. -/
def helpName : Text := "help".toList

/-- Read what is behind the request for help: nothing, or the name of a command. -/
def readHelp : List Text → Stop
  | [] => .help
  | [name] =>
    if name = helpName || (Verb.all.map Verb.name).contains name then .help
    else .fault (.unknownCommand name)
  | _ :: name :: _ => .fault (.unknownCommand name)

/-- Read the command and what is behind it. -/
def readVerb (arguments : List Text) : Except Stop Action :=
  match arguments with
  | [] => .error (.fault .missingCommand)
  | name :: rest =>
    match Verb.all.find? fun verb => verb.name == name with
    | some verb => readAction verb rest
    | none => .error (if name = helpName then readHelp rest else .fault (.unknownCommand name))

def readInvocation (arguments : List Text) : Except Stop Invocation :=
  match readOptions generalFlags [] none arguments with
  | .error stop => .error stop
  | .ok (_, _, true) => .error (.fault .missingCommand)
  | .ok (given, rest, false) =>
    (readVerb rest).map fun action =>
      { verbose := given.has .verbose
        logLevel? := given.value? .logLevel
        logFormat? := given.value? .logFormat
        action }

/-- Read all arguments. -/
def parse (arguments : List Text) : Except UsageError Request :=
  match readInvocation arguments with
  | .ok invocation => .ok (.run invocation)
  | .error .version => .ok .version
  | .error .help => .ok .help
  | .error (.fault e) => .error e

end ErDiagram.Command

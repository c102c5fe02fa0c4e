import ErDiagram.Command.Files
import ErDiagram.Command.Options
import ErDiagram.Detection
import ErDiagram.Difference
import ErDiagram.Grammar.Builder
import ErDiagram.Log.Record
import ErDiagram.Repair.Trace

/-!
What an invocation does to its surroundings. A plan asks for at most one reading and then at most one
writing, and it ends with what was written to the standard streams and with an exit status. Everything
it does besides is computed; no plan reads after it has written.
-/

namespace ErDiagram.Command

/-- A standard stream or a file. -/
inductive Channel where
  | standard
  | file (path : Text)
deriving DecidableEq

namespace Channel

/-- The channel that a path option names. -/
def ofPath? : Option Text → Channel
  | none => .standard
  | some path => if path = ['-'] then .standard else .file path

end Channel

/-- The settings that come from the surroundings. -/
structure Environment where
  logLevel? : Option Text := none
  commonLevel? : Option Text := none
  logFormat? : Option Text := none
  noColor? : Option Text := none
  isTerminal : Bool := false

namespace Environment

def logLevelName : String := "ERTIDY_LOG_LEVEL"

def commonLevelName : String := "RUST_LOG"

def logFormatName : String := "ERTIDY_LOG_FORMAT"

def noColorName : String := "NO_COLOR"

/-- The settings from named variables. -/
def ofVariables (value? : String → Option Text) (isTerminal : Bool) : Environment where
  logLevel? := value? logLevelName
  commonLevel? := value? commonLevelName
  logFormat? := value? logFormatName
  noColor? := value? noColorName
  isTerminal := isTerminal

end Environment

/-- What a run has written, and how it ended. -/
structure Outcome where
  stdout : Text := []
  stderr : Text := []
  status : Nat := 0
deriving DecidableEq

/-- Why a run fails. -/
inductive Failure where
  | keyModifier (e : GrammarError)
  | input (channel : Channel) (e : ReadError)
  | output (path : Text) (e : FileError)
  | needsRepair (lines : Nat)
  | detection (e : DetectionError)
deriving DecidableEq

namespace Failure

def message : Failure → Text
  | .keyModifier e => "Invalid --key-modifier: ".toList ++ e.message
  | .input .standard e => e.message
  | .input (.file path) e =>
    "Failed to read input file '".toList ++ path ++ "': ".toList ++ e.message
  | .output path e =>
    "Failed to write output file '".toList ++ path ++ "': ".toList ++ e.message
  | .needsRepair lines => Text.ofNat lines ++ " line(s) need normalization".toList
  | .detection e => e.message

end Failure

namespace Outcome

def print (o : Outcome) (text : Text) : Outcome :=
  { o with stdout := o.stdout ++ text }

def warn (o : Outcome) (text : Text) : Outcome :=
  { o with stderr := o.stderr ++ text }

def fail (o : Outcome) (f : Failure) : Outcome :=
  { o with stderr := o.stderr ++ "Error: ".toList ++ f.message ++ ['\n'], status := 1 }

end Outcome

/-- What a run still asks of its surroundings. -/
inductive Plan where
  | finish (outcome : Outcome)
  | read (channel : Channel) (next : Except ReadError Text → Plan)
  | write (path content : Text) (next : Except FileError Unit → Plan)

/-- Where log lines go: nowhere without a filter. -/
structure Logger where
  filter? : Option Log.Filter
  stamp : Text

namespace Logger

def event (l : Logger) (e : Log.Event) : Text :=
  (l.filter?.map fun filter => Log.Record.event filter l.stamp e).getD []

def extent (l : Logger) (x : Log.Extent) : Text :=
  (l.filter?.map fun filter => Log.Record.extent filter l.stamp x).getD []

end Logger

def programName : Text := "ertidy".toList

/-- A line that is only written on request. -/
def verboseLine (verbose : Bool) (text : Text) : Text :=
  if verbose then text ++ ['\n'] else []

def sizeLine (text : Text) : Text :=
  "Read ".toList ++ Text.ofNat text.size ++ " bytes of input".toList

/-- Set up the log, and say so if that fails; the run goes on without a log. An option wins over the
environment, and the program's own variable over the common one. -/
def startLog (env : Environment) (stamp : Text) (inv : Invocation) : Logger × Text :=
  match Log.setUp false (inv.logFormat?.or env.logFormat?) with
  | .ok _ =>
    (⟨some (Log.Filter.choose [inv.logLevel?, env.logLevel?, env.commonLevel?]), stamp⟩, [])
  | .error e =>
    (⟨none, stamp⟩,
      "Warning: Failed to initialize logging: ".toList ++ e.message ++ ['\n'])

/-- The grammar of Mermaid with further key modifiers. -/
def grammarWith (keyModifiers : List Text) : Except GrammarError Grammar :=
  (Grammar.mermaid.toBuilder.addAll (keyModifiers.map .keyModifier)).build

/-- The event for a text that does not look like a diagram. A blank text is let pass. -/
def doubtEvents (text : Text) : List Log.Event :=
  if !text.isAllBlank && !isErDiagram Grammar.mermaid text then
    [⟨.warn, .commandLine,
      "Input does not look like an ER diagram; unrecognized lines are passed through".toList,
      [("confidence".toList, some (.plain (confidence Grammar.mermaid text).text))]⟩]
  else []

def doneEvent (report : Report) : Log.Event :=
  ⟨.info, .commandLine, "Normalized diagram".toList,
    [("report".toList, some (.plain report.summary))]⟩

/-- Read the input and go on with its text. -/
def withInput (start : Outcome) (channel : Channel) (next : Text → Plan) : Plan :=
  .read channel fun
    | .error e => .finish (start.fail (.input channel e))
    | .ok text => next text

/-- Write the repaired text to its destination. -/
def deliver (o : Outcome) (content : Text) : Channel → Plan
  | .standard => .finish (o.print content)
  | .file path => .write path content fun
    | .error e => .finish (o.fail (.output path e))
    | .ok () => .finish o

def normalizePlan (logger : Logger) (start : Outcome) (verbose : Bool) (input output : Channel)
    (keyModifiers : List Text) : Plan :=
  match grammarWith keyModifiers with
  | .error e => .finish (start.fail (.keyModifier e))
  | .ok g =>
    withInput start input fun text =>
      let report := repairReport g text
      let o := start
        |>.warn (verboseLine verbose (sizeLine text))
        |>.warn ((doubtEvents text).flatMap logger.event)
        |>.warn (logger.extent (Repair.extent g text))
        |>.warn (logger.event (doneEvent report))
        |>.warn (verboseLine verbose report.summary)
      deliver o (normalize g text) output

/-- The colours for a choice. Surroundings that refuse colours win over the terminal, and they win over
the request for colours only if they say something. -/
def palette (env : Environment) : ColorChoice → Palette
  | .always => if env.noColor?.any (!·.isEmpty) then .colorless else .colored
  | .never => .plain
  | .auto => if env.noColor?.isSome || !env.isTerminal then .plain else .colored

def checkPlan (env : Environment) (logger : Logger) (start : Outcome) (verbose : Bool)
    (input : Channel) (json : Bool) (color : ColorChoice) (keyModifiers : List Text) : Plan :=
  match grammarWith keyModifiers with
  | .error e => .finish (start.fail (.keyModifier e))
  | .ok g =>
    withInput start input fun text =>
      let report := repairReport g text
      let shown :=
        if json then report.json ++ ['\n']
        else
          renderDifference (palette env color) text (normalize g text) report.changedLines ++
            report.summary ++ ['\n']
      let o := start
        |>.warn (verboseLine verbose (sizeLine text))
        |>.warn (logger.extent (Repair.extent g text))
        |>.print shown
      .finish (if report.isClean then o else o.fail (.needsRepair report.linesChanged))

def detectPlan (start : Outcome) (verbose : Bool) (input : Channel) : Plan :=
  withInput start input fun text =>
    let level := (confidence Grammar.mermaid text).text
    let o := start
      |>.warn (verboseLine verbose (sizeLine text))
      |>.warn (verboseLine verbose ("Confidence: ".toList ++ level))
    .finish <| match detect text with
      | .ok name => o.print (name ++ ['\n'])
      | .error e =>
        (o.warn ("Could not detect diagram type: ".toList ++ e.message ++ ['\n'])).fail
          (.detection e)

/-- The plan of an invocation. -/
def Invocation.plan (env : Environment) (stamp : Text) (inv : Invocation) : Plan :=
  let (logger, warning) := startLog env stamp inv
  let start : Outcome :=
    { stderr := warning ++
        verboseLine inv.verbose (programName ++ " v".toList ++ version) }
  match inv.action with
  | .normalize input? output? keyModifiers =>
    normalizePlan logger start inv.verbose (.ofPath? input?) (.ofPath? output?) keyModifiers
  | .check input? json color keyModifiers =>
    checkPlan env logger start inv.verbose (.ofPath? input?) json color keyModifiers
  | .detect input? => detectPlan start inv.verbose (.ofPath? input?)

def versionLine : Text :=
  programName ++ ' ' :: version ++ ['\n']

/-- How the program is called, one command a line. -/
def helpText : Text :=
  "Usage: ertidy [-v] [--log-level LEVEL] [--log-format FORMAT] COMMAND\n".toList ++
    "  normalize [-i FILE] [-o FILE] [--key-modifier TOKEN]...\n".toList ++
    "  check [-i FILE] [--json] [--color WHEN] [--key-modifier TOKEN]...\n".toList ++
    "  detect [-i FILE]\n".toList

/-- The plan for some arguments. -/
def plan (env : Environment) (stamp : Text) (arguments : List Text) : Plan :=
  match parse arguments with
  | .ok (.run invocation) => invocation.plan env stamp
  | .ok .version => .finish { stdout := versionLine }
  | .ok .help => .finish { stdout := helpText }
  | .error e =>
    .finish { stderr := "error: ".toList ++ e.message ++ ['\n'], status := 2 }

namespace Plan

/-- Read a channel of a model of the surroundings. -/
def input (stdin : ByteArray) (files : Files) : Channel → Except ReadError Text
  | .standard => decodeText stdin
  | .file path =>
    match files.read path with
    | .ok content => decodeText content
    | .error e => .error (.file e)

/-- Carry out a plan over files and a standard input. -/
def run (stdin : ByteArray) : Files → Plan → Outcome × Files
  | files, .finish outcome => (outcome, files)
  | files, .read channel next => run stdin files (next (input stdin files channel))
  | files, .write path content next =>
    match files.write path content.toUtf8 with
    | .ok changed => run stdin changed (next (.ok ()))
    | .error e => run stdin files (next (.error e))

end Plan

end ErDiagram.Command

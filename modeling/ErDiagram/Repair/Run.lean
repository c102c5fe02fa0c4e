import ErDiagram.Repair.Decision

/-!
A run over a whole text, line by line. Every line is read in the state that the lines before it leave,
and what is done to a line never depends on a later one. The run keeps for each line what was read and
decided, so that the repaired text, the report and the final state are all views of one list.
-/

namespace ErDiagram

/-- One line of a run: the state before it, what was read and decided, and its new body. -/
structure Step where
  before : BlockState
  line : Line
  reading : Reading
  decisions : List Decision
  body : Text
  after : BlockState
deriving DecidableEq

namespace Step

/-- Treat one line in a state. -/
def of (g : Grammar) (before : BlockState) (line : Line) : Step :=
  let content := (splitIndent line.body).2
  let reading := readLine g before content
  let decisions := Repair.decisions g content reading
  { before, line, reading, decisions
    body := Repair.newBody line.body reading decisions
    after := before.next (reading.code content) reading.kind }

/-- The line with its new body and the ending that it had. -/
def newLine (step : Step) : Line :=
  ⟨step.body, step.line.ending⟩

def isChanged (step : Step) : Bool :=
  step.body != step.line.body

def tally (step : Step) : Tally :=
  Tally.sum (step.decisions.map Decision.tally)

end Step

namespace Repair

/-- The steps of a run that starts in a state. -/
def steps (g : Grammar) : BlockState → List Line → List Step
  | _, [] => []
  | state, line :: rest =>
    let step := Step.of g state line
    step :: steps g step.after rest

/-- The state that lines leave. -/
def finalState (g : Grammar) : BlockState → List Line → BlockState
  | state, [] => state
  | state, line :: rest => finalState g (Step.of g state line).after rest

/-- The numbers of the changed lines, where the first step has the number `number`. -/
def changedFrom : Nat → List Step → List Nat
  | _, [] => []
  | number, step :: rest =>
    if step.isChanged then number :: changedFrom (number + 1) rest
    else changedFrom (number + 1) rest

def report (run : List Step) : Report where
  linesTotal := run.length
  changedLines := changedFrom 1 run
  tally := Tally.sum (run.map Step.tally)

/-- The text that a run leaves. -/
def output (run : List Step) : Text :=
  joinLines (run.map Step.newLine)

end Repair

/-- The run over a text. It starts outside of any block. -/
def repairRun (g : Grammar) (text : Text) : List Step :=
  Repair.steps g .outside (splitLines text)

/-- The repaired text. -/
def normalize (g : Grammar) (text : Text) : Text :=
  Repair.output (repairRun g text)

/-- What was repaired. -/
def repairReport (g : Grammar) (text : Text) : Report :=
  Repair.report (repairRun g text)

def version : Text := "0.1.0".toList

end ErDiagram

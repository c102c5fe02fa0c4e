import ErDiagram.Log.Event
import ErDiagram.Repair.Run

/-!
The trace of a run: a notice for every line, for every decision on it and for every block that was
left open. Which blocks were left open follows from the state before a line and from what the line is.
-/

namespace ErDiagram

/-- What shows that a block has no footer. -/
inductive Unclosed where
  | beforeRelationship
  | beforeEntity
  | atEnd
deriving DecidableEq

inductive Notice where
  | directive
  | classified (kind : LineKind) (entity? : Option Text)
  | unclosed (sign : Unclosed) (entity : Text)
  | decided (decision : Decision)
  | completed (report : Report)
deriving DecidableEq

namespace Notice

open Log

def unclosedMessage : Unclosed → Text
  | .beforeRelationship => "Entity block not closed before relationship line".toList
  | .beforeEntity => "Entity block not closed before next entity".toList
  | .atEnd => "Entity block not closed at end of input".toList

/-- The event for the decision on a line. -/
def decisionEvent : Decision → Event
  | .renameEntity _ old new =>
    ⟨.debug, .normalizer, "Repaired entity name".toList,
      [("from".toList, some (.text old)), ("to".toList, some (.text new))]⟩
  | .joinName _ old new =>
    ⟨.debug, .normalizer, "Joined split attribute name".toList,
      [("from".toList, some (.text old)), ("to".toList, some (.text new))]⟩
  | .camelCaseLabel _ old new =>
    ⟨.debug, .normalizer, "Camel-cased label".toList,
      [("from".toList, some (.text old)), ("to".toList, some (.text new))]⟩
  | .stripComment kind =>
    ⟨.debug, .normalizer, "Stripped trailing comment".toList,
      [("kind".toList, some (.text kind.name))]⟩
  | .keepName joined =>
    ⟨.warn, .normalizer, "Skipped joining attribute name".toList,
      [("name".toList, some (.text joined))]⟩
  | .keepLabel label =>
    ⟨.warn, .normalizer, "Skipped camel-casing label".toList,
      [("label".toList, some (.text label))]⟩

/-- The component that sees a sign of an open block: the end of the text is not a line. -/
def unclosedComponent : Unclosed → Component
  | .beforeRelationship => .classifier
  | .beforeEntity => .classifier
  | .atEnd => .normalizer

/-- The event for a notice. -/
def event : Notice → Event
  | .directive =>
    ⟨.trace, .classifier, "Mermaid directive".toList,
      [("kind".toList, some (.text LineKind.directive.name))]⟩
  | .classified kind entity? =>
    ⟨.trace, .classifier, "Classified line".toList,
      [("kind".toList, some (.text kind.name)), ("entity".toList, entity?.map Value.text)]⟩
  | .unclosed sign entity =>
    ⟨.warn, unclosedComponent sign, unclosedMessage sign,
      [("entity".toList, some (.text entity))]⟩
  | .decided decision => decisionEvent decision
  | .completed report =>
    ⟨.info, .normalizer, "Normalization completed".toList,
      [("lines".toList, some (.number report.linesTotal)),
        ("changed".toList, some (.number report.linesChanged)),
        ("repairs".toList, some (.number report.repairCount))]⟩

end Notice

namespace Step

/-- The sign, on a line, that the block around it has no footer. -/
def unclosed? (step : Step) : Option Notice :=
  match step.before, step.reading.kind with
  | .inside entity, .relationship _ => some (.unclosed .beforeRelationship entity)
  | .inside entity, .entityHeader _ => some (.unclosed .beforeEntity entity)
  | _, _ => none

/-- What was read. The entity is that of the state behind the line. -/
def readingNotice (step : Step) : Notice :=
  match step.reading.kind with
  | .directive => .directive
  | kind => .classified kind step.after.entity?

def notices (step : Step) : List Notice :=
  step.unclosed?.toList ++ step.readingNotice :: step.decisions.map Notice.decided

end Step

namespace Repair

/-- The notices of a run that ends in a state. -/
def notices (run : List Step) (final : BlockState) : List Notice :=
  run.flatMap Step.notices ++
    (final.entity?.map (Notice.unclosed .atEnd)).toList ++ [.completed (report run)]

/-- The trace of the run over a text. -/
def trace (g : Grammar) (text : Text) : List Notice :=
  notices (repairRun g text) (finalState g .outside (splitLines text))

/-- The run over a text as a stretch of the log. -/
def extent (g : Grammar) (text : Text) : Log.Extent where
  level := .info
  component := .normalizer
  name := "normalize_er".toList
  fields := [("input_len".toList, text.size)]
  events := (trace g text).map Notice.event

end Repair

end ErDiagram

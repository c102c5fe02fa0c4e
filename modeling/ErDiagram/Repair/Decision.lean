import ErDiagram.Edit
import ErDiagram.Label
import ErDiagram.Line
import ErDiagram.Name
import ErDiagram.Reading
import ErDiagram.Report

/-!
What is done to a line once it has been read. A decision either repairs the line or records why a
repair was held back: a repair must not make the line mean something else when it is read again.
-/

namespace ErDiagram

/-- A decision on one line. The first four repair the line; the others leave it alone. -/
inductive Decision where
  | renameEntity (span : Span) (old new : Text)
  | joinName (span : Span) (old new : Text)
  | camelCaseLabel (span : Span) (old new : Text)
  | stripComment (kind : LineKind)
  | keepName (joined : Text)
  | keepLabel (label : Text)
deriving DecidableEq

namespace Decision

/-- The replacement that a decision makes in the code of the line. A comment is outside the code. -/
def edit? : Decision → Option Edit
  | .renameEntity span _ new => some ⟨span, new⟩
  | .joinName span _ new => some ⟨span, new⟩
  | .camelCaseLabel span _ new => some ⟨span, new⟩
  | _ => none

def tally : Decision → Tally
  | .renameEntity .. => { entityNamesRepaired := 1 }
  | .joinName .. => { attributeNamesJoined := 1 }
  | .camelCaseLabel .. => { labelsCamelCased := 1 }
  | .stripComment _ => { commentsStripped := 1 }
  | .keepName _ => {}
  | .keepLabel _ => {}

end Decision

namespace Repair

/-- Whether a line would have a comment after some edits. Quotes anywhere on the line bear on this, so
the whole edited line is looked at. -/
def opensComment (g : Grammar) (code : Text) (edits : List Edit) : Bool :=
  (Comment.find? g.commentMarker (Edit.applyAll code edits)).isSome

/-- The decision on an entity name, if any is needed. -/
def entityDecisions (code : Text) (span : Span) : List Decision :=
  let name := code.slice span
  match EntityName.repair? name with
  | some new => [.renameEntity span name new]
  | none => []

/-- The decision on the name of an attribute. A name is joined unless the joined name would be read
as an operator or a key modifier, or would open a comment. -/
def nameDecisions (g : Grammar) (code : Text) (parts : AttributeParts) : List Decision :=
  match parts.name with
  | first :: second :: more =>
    let span := ⟨first.start, ((second :: more).getLast (by simp)).stop⟩
    let joined := AttributeName.join (parts.name.map code.slice)
    if g.hasOperator joined || g.isKeyModifier joined || opensComment g code [⟨span, joined⟩] then
      [.keepName joined]
    else [.joinName span (code.slice span) joined]
  | _ => []

/-- The decision on a label, after the decisions on both sides of the relationship. -/
def labelDecisions (g : Grammar) (code : Text) (sides : List Decision) (span : Span) :
    List Decision :=
  let label := code.slice span
  match Label.camelCase? label with
  | none => []
  | some new =>
    if opensComment g code (sides.filterMap Decision.edit? ++ [⟨span, new⟩]) then [.keepLabel label]
    else [.camelCaseLabel span label new]

/-- The decisions on the code of a line. -/
def codeDecisions (g : Grammar) (code : Text) : LineKind → List Decision
  | .entityHeader name => entityDecisions code name
  | .entityAttribute parts => nameDecisions g code parts
  | .relationship parts =>
    let sides := entityDecisions code parts.left ++ entityDecisions code parts.right
    match parts.label? with
    | some span => sides ++ labelDecisions g code sides span
    | none => sides
  | .entityFooter => []
  | .directive => []
  | .other => []

/-- The decisions on a line. Only a line that is never changed keeps a comment. -/
def decisions (g : Grammar) (content : Text) (reading : Reading) : List Decision :=
  codeDecisions g (reading.code content) reading.kind ++
    if reading.hasComment && !reading.kind.isPassThrough then [.stripComment reading.kind] else []

/-- The body of a line after decisions on it. Where a comment went, so do the blanks before it. -/
def newBody (body : Text) (reading : Reading) (chosen : List Decision) : Text :=
  if reading.kind.isPassThrough then body
  else
    let (indent, content) := splitIndent body
    let line :=
      indent ++ Edit.applyAll (reading.code content) (chosen.filterMap Decision.edit?)
    if reading.hasComment then Text.trimEnd line else line

end Repair

end ErDiagram

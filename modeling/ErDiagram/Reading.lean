import ErDiagram.Comment
import ErDiagram.Grammar.Basic
import ErDiagram.Text.Blank
import ErDiagram.Token

/-!
How one line of a diagram is read. What a line is depends on the line and on whether it stands inside
an entity block; the state behind the line depends on the state before it and on what the line is.
A line is read without its indentation, and all spans count from there.
-/

namespace ErDiagram

/-- Where a line stands. The entity is named as its header writes it. -/
inductive BlockState where
  | outside
  | inside (entity : Text)
deriving DecidableEq

namespace BlockState

def isInside : BlockState → Bool
  | .outside => false
  | .inside _ => true

def entity? : BlockState → Option Text
  | .outside => none
  | .inside entity => some entity

end BlockState

/-- The parts of an attribute: its type, the tokens of its name, its key modifiers and its remark in
double quotes. -/
structure AttributeParts where
  dataType? : Option Span := none
  name : List Span := []
  modifiers : List Span := []
  remark? : Option Span := none
deriving DecidableEq

/-- The parts of a relationship between two entities. -/
structure RelationshipParts where
  left : Span
  operator : Span
  right : Span
  label? : Option Span
deriving DecidableEq

inductive LineKind where
  | entityHeader (name : Span)
  | entityFooter
  | entityAttribute (parts : AttributeParts)
  | relationship (parts : RelationshipParts)
  | directive
  | other
deriving DecidableEq

namespace LineKind

/-- The name of a kind. Directives and lines that mean nothing share one. -/
def name : LineKind → Text
  | .entityHeader _ => "entity-header".toList
  | .entityFooter => "entity-footer".toList
  | .entityAttribute _ => "attribute".toList
  | .relationship _ => "relationship".toList
  | .directive => "pass-through".toList
  | .other => "pass-through".toList

/-- Whether lines of the kind are never changed. -/
def isPassThrough : LineKind → Bool
  | .directive => true
  | .other => true
  | _ => false

end LineKind

/-- What is known of a line. The first `codeSize` bytes are in front of its comment. -/
structure Reading where
  kind : LineKind
  codeSize : Nat
  hasComment : Bool
deriving DecidableEq

namespace Reading

/-- The span, unless nothing is in it. -/
def nonempty (span : Span) : Option Span :=
  if span.start < span.stop then some span else none

/-- The entity name of a header: the text in front of the brace at the end, up to an alias in
brackets. A text with an operator is no header. -/
def header? (g : Grammar) (code : Text) : Option Span :=
  let trimmed := code.trimEnd
  let head := Text.trimEnd trimmed.dropLast
  let name := Text.trimEnd (head.takeWhile (· != '['))
  if trimmed.getLast? = some '{' ∧ !g.hasOperator trimmed ∧ !name.isEmpty then some ⟨0, name.size⟩
  else none

/-- The position of the first colon behind an operator. -/
def colon? (code : Text) (operator : Span) : Option Nat :=
  (Text.find? [':'] (code.dropBytes operator.stop)).map (operator.stop + ·)

/-- The parts of a relationship: both sides of the leftmost operator, and the label behind a colon.
Neither side may be blank; a blank label is no label. -/
def relationship? (g : Grammar) (code : Text) : Option RelationshipParts := do
  let operator ← g.findOperator? code
  let colon? := colon? code operator
  let left ← nonempty (code.trimSpan ⟨0, operator.start⟩)
  let right ← nonempty (code.trimSpan ⟨operator.stop, colon?.getD code.size⟩)
  let label? := colon?.bind fun colon => nonempty (code.trimSpan ⟨colon + 1, code.size⟩)
  return ⟨left, operator, right, label?⟩

/-- Whether a token can be a piece of an attribute name. -/
def isNamePiece (g : Grammar) (token : Token) : Bool :=
  !token.isQuoted && !g.isKeyModifier token.text

/-- The parts of an attribute. The name ends at the first quoted token or key modifier; from there on
only modifiers and the first quoted token count. -/
def attributeParts (g : Grammar) (code : Text) : AttributeParts :=
  match tokenize code with
  | [] => {}
  | dataType :: rest =>
    let trailing := rest.dropWhile (isNamePiece g)
    { dataType? := some dataType.span
      name := (rest.takeWhile (isNamePiece g)).map Token.span
      modifiers :=
        (trailing.filter fun token => !token.isQuoted && g.isKeyModifier token.text).map Token.span
      remark? := (trailing.find? Token.isQuoted).map Token.span }

def outsideKind (g : Grammar) (code : Text) : LineKind :=
  match relationship? g code with
  | some parts => .relationship parts
  | none =>
    match header? g code with
    | some name => .entityHeader name
    | none => .other

/-- A relationship that can stand right behind a block whose footer is missing: its left side is one
word, unlike the type and name of an attribute. -/
def closingRelationship? (g : Grammar) (code : Text) : Option RelationshipParts :=
  (relationship? g code).filter fun parts => !(code.slice parts.left).hasBlank

/-- Inside a block everything is an attribute that is not the footer and that does not show that the
footer is missing. -/
def insideKind (g : Grammar) (code : Text) : LineKind :=
  if code.trim = ['}'] then .entityFooter
  else
    match closingRelationship? g code with
    | some parts => .relationship parts
    | none =>
      match header? g code with
      | some name => .entityHeader name
      | none => .entityAttribute (attributeParts g code)

end Reading

/-- Read a line without its indentation. -/
def readLine (g : Grammar) (state : BlockState) (content : Text) : Reading :=
  if g.isDirective content then ⟨.directive, content.size, false⟩
  else
    let code := Comment.strip g.commentMarker content
    let kind := if state.isInside then Reading.insideKind g code else Reading.outsideKind g code
    ⟨kind, code.size, code.size < content.size⟩

namespace Reading

/-- The line in front of its comment. -/
def code (reading : Reading) (content : Text) : Text :=
  content.takeBytes reading.codeSize

end Reading

namespace BlockState

/-- The state behind a line of a kind. -/
def next (state : BlockState) (code : Text) : LineKind → BlockState
  | .entityHeader name => .inside (code.slice name)
  | .entityFooter => .outside
  | .relationship _ => .outside
  | .entityAttribute _ => state
  | .directive => state
  | .other => state

/-- The state behind a line without its indentation. -/
def after (g : Grammar) (state : BlockState) (content : Text) : BlockState :=
  let reading := readLine g state content
  state.next (reading.code content) reading.kind

end BlockState

end ErDiagram

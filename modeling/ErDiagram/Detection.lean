import ErDiagram.Grammar.Basic
import ErDiagram.Line

/-!
Whether a text is an ER diagram. The keyword at the start settles it; without one, operators and
blocks count. Blank lines and directives in front of the keyword are passed over.
-/

namespace ErDiagram

/-- What speaks for an ER diagram. -/
inductive Confidence where
  | keyword
  | relationshipAndBlock
  | relationship
  | block
  | nothing
deriving DecidableEq

namespace Confidence

/-- The confidence as a number from 0 to 1 with one decimal place. -/
def text : Confidence → Text
  | .keyword => "1.0".toList
  | .relationshipAndBlock => "0.8".toList
  | .relationship => "0.7".toList
  | .block => "0.3".toList
  | .nothing => "0.0".toList

/-- Whether the confidence is more than one half. -/
def isConvincing : Confidence → Bool
  | .keyword => true
  | .relationshipAndBlock => true
  | .relationship => true
  | .block => false
  | .nothing => false

end Confidence

/-- Why a text has no diagram type: its first line that is not blank, if there is one. -/
structure DetectionError where
  firstLine? : Option Text
deriving DecidableEq

namespace DetectionError

def message (e : DetectionError) : Text :=
  "Unknown diagram type: ".toList ++ e.firstLine?.getD "<empty input>".toList

end DetectionError

namespace Detection

def keyword : Text := "erdiagram".toList

/-- The ways in which the keyword is usually written. -/
def patterns : List Text := ["erDiagram".toList]

def bodies (text : Text) : List Text :=
  (splitLines text).map Line.body

/-- The first line, trimmed, that is neither blank nor a directive. -/
def firstContent? (g : Grammar) (text : Text) : Option Text :=
  ((bodies text).map Text.trim).find? fun line => !line.isEmpty && !g.isDirective line

/-- Whether a line starts with the keyword. Case is ignored in ASCII only: no other character has a
lower-case form that begins with a letter of the keyword and fits into it. -/
def startsWithKeyword (line : Text) : Bool :=
  keyword.isPrefixOf line.foldCase

def hasRelationship (g : Grammar) (text : Text) : Bool :=
  (bodies text).any g.hasOperator

def hasBlock (text : Text) : Bool :=
  text.contains '{' && (bodies text).any fun line => line.trim == ['}']

end Detection

/-- What speaks for a text being an ER diagram. -/
def confidence (g : Grammar) (text : Text) : Confidence :=
  if (Detection.firstContent? g text).any Detection.startsWithKeyword then .keyword
  else
    match Detection.hasRelationship g text, Detection.hasBlock text with
    | true, true => .relationshipAndBlock
    | true, false => .relationship
    | false, true => .block
    | false, false => .nothing

def isErDiagram (g : Grammar) (text : Text) : Bool :=
  (confidence g text).isConvincing

/-- The name of the type. -/
def diagramType : Text := "er".toList

/-- The type of a diagram, with the grammar of Mermaid. -/
def detect (text : Text) : Except DetectionError Text :=
  if isErDiagram Grammar.mermaid text then .ok diagramType
  else .error ⟨((Detection.bodies text).map Text.trim).find? fun line => !line.isEmpty⟩

end ErDiagram

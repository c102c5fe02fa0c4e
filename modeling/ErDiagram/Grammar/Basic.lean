import ErDiagram.Text.Search

/-!
The tokens that an ER diagram is read with: cardinality operators, key modifiers, the comment marker
and the prefix of directives. A grammar only answers questions about a text. The leftmost operator is
found without regard to the order of the operators; the order decides between operators that start
at the same position.
-/

namespace ErDiagram

structure Grammar where
  operators : List Text
  keyModifiers : List Text
  commentMarker : Text
  directivePrefix : Text
deriving DecidableEq

namespace Grammar

/-- The markers left of a relationship line. -/
def leftMarkers : List Text :=
  ["|o".toList, "||".toList, "\x7do".toList, "\x7d|".toList]

/-- The relationship lines, identifying and not identifying. -/
def lineStyles : List Text :=
  ["--".toList, "..".toList]

/-- The markers right of a relationship line. -/
def rightMarkers : List Text :=
  ["o|".toList, "||".toList, "o\x7b".toList, "|\x7b".toList]

def standardModifiers : List Text :=
  ["PK".toList, "FK".toList, "UK".toList]

def standardMarker : Text := "//".toList

def standardPrefix : Text := "%%".toList

/-- Every left marker with every line and every right marker, by left marker first. -/
def standardOperators : List Text :=
  leftMarkers.flatMap fun left =>
    lineStyles.flatMap fun line =>
      rightMarkers.map fun right => left ++ line ++ right

/-- The grammar of Mermaid. -/
def mermaid : Grammar where
  operators := standardOperators
  keyModifiers := standardModifiers
  commentMarker := standardMarker
  directivePrefix := standardPrefix

/-- The first occurrence of one operator. -/
def occurrence? (content operator : Text) : Option Span :=
  (Text.find? operator content).map fun start => ⟨start, start + operator.size⟩

/-- The span with the smallest start; of several, the first. -/
def leftmost : List Span → Option Span
  | [] => none
  | span :: rest =>
    match leftmost rest with
    | none => some span
    | some other => if other.start < span.start then some other else some span

/-- The leftmost operator of a text. Of operators at the same position the grammar's first wins. -/
def findOperator? (g : Grammar) (content : Text) : Option Span :=
  leftmost (g.operators.filterMap (occurrence? content))

def hasOperator (g : Grammar) (content : Text) : Bool :=
  (g.findOperator? content).isSome

/-- Whether two texts agree up to the case of the letters A to Z. -/
def sameModifier (a b : Text) : Bool :=
  a.foldCase == b.foldCase

/-- A text without one comma at its end. -/
def dropComma (token : Text) : Text :=
  if token.getLast? = some ',' then token.dropLast else token

/-- Whether a token is a key modifier or a list of them between commas. One comma may follow the
list; an empty item is no modifier. -/
def isKeyModifier (g : Grammar) (token : Text) : Bool :=
  let list := dropComma token
  !list.isEmpty && (list.splitOn ',').all fun item => g.keyModifiers.any (sameModifier · item)

def isDirective (g : Grammar) (content : Text) : Bool :=
  g.directivePrefix.isPrefixOf content

end Grammar

end ErDiagram

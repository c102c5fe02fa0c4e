import ErDiagram.Text.Blank
import ErDiagram.Text.UpperCase

/-!
Labels of relationships. A label of several words becomes one camel-case word; a label of at most one
word stays as it is, blanks included.
-/

namespace ErDiagram.Label

/-- A word with its first character in upper case. -/
def capitalize : Text → Text
  | [] => []
  | c :: rest => upperCase c ++ rest

/-- The camel-case form of a label of at least two words. -/
def camelCase? (label : Text) : Option Text :=
  match label.words with
  | first :: second :: more => some (first ++ (second :: more).flatMap capitalize)
  | _ => none

def camelCase (label : Text) : Text :=
  (camelCase? label).getD label

end ErDiagram.Label

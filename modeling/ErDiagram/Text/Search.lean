import ErDiagram.Text.Basic

/-!
Where one text occurs in another. A position is found at the first occurrence, and it is always the
position of a character.
-/

namespace ErDiagram.Text

/-- The byte position of the first occurrence of `pattern`. -/
def find? (pattern : Text) : Text → Option Nat
  | [] => if pattern.isEmpty then some 0 else none
  | c :: rest =>
    if pattern.isPrefixOf (c :: rest) then some 0
    else (find? pattern rest).map (c.utf8Size + ·)

/-- Letters A to Z as their lower-case forms; every other character as it is. -/
def foldCase (t : Text) : Text :=
  t.map Char.toLower

end ErDiagram.Text

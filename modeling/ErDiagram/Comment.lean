import ErDiagram.Text.Blank

/-!
Comments at the end of a line. A marker opens a comment only outside double quotes and never at a
quote, so a marker that starts with a quote opens none.
-/

namespace ErDiagram.Comment

/-- The position of the first comment in a text; `quoted` says whether the text starts inside double
quotes. -/
def locate (marker : Text) : Bool → Text → Option Nat
  | _, [] => none
  | quoted, c :: rest =>
    if c = '"' then (locate marker (!quoted) rest).map (c.utf8Size + ·)
    else if !quoted && marker.isPrefixOf (c :: rest) then some 0
    else (locate marker quoted rest).map (c.utf8Size + ·)

/-- The position of the first comment in a line. -/
def find? (marker content : Text) : Option Nat :=
  locate marker false content

/-- A line without its comment and the blanks in front of the comment. -/
def strip (marker content : Text) : Text :=
  match find? marker content with
  | some position => (content.takeBytes position).trimEnd
  | none => content

end ErDiagram.Comment

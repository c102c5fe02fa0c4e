import ErDiagram.Line

/-!
The lines that a run changed, before and after. A number that is no line of both texts is passed over.
-/

namespace ErDiagram

/-- What is written around removed and added lines. -/
structure Palette where
  removed : Text := []
  added : Text := []
  reset : Text := []
deriving DecidableEq

namespace Palette

def escape (code : String) : Text :=
  '\x1b' :: '[' :: code.toList

/-- No colours at all. -/
def plain : Palette := {}

/-- Red for removed lines, green for added ones. -/
def colored : Palette where
  removed := escape "38;5;9m"
  added := escape "38;5;10m"
  reset := escape "39m"

/-- Escape sequences without a colour, for surroundings that refuse colours. -/
def colorless : Palette where
  removed := escape "m"
  added := escape "m"
  reset := escape "m"

end Palette

namespace Difference

/-- One line of a difference: a sign, the number of the line and its body. -/
def entry (sign : Char) (number : Nat) (body : Text) : Text :=
  sign :: Text.alignRight 4 (Text.ofNat number) ++ " | ".toList ++ body

/-- The line with a number, counted from one. -/
def lineAt? (lines : List Line) : Nat → Option Line
  | 0 => none
  | n + 1 => lines[n]?

/-- The removed and the added line for one number. -/
def pair (palette : Palette) (number : Nat) (old new : Line) : Text :=
  palette.removed ++ entry '-' number old.body ++ palette.reset ++ ['\n'] ++
    palette.added ++ entry '+' number new.body ++ palette.reset ++ ['\n']

end Difference

/-- The lines with the given numbers in two texts. -/
def renderDifference (palette : Palette) (before after : Text) (numbers : List Nat) : Text :=
  let oldLines := splitLines before
  let newLines := splitLines after
  numbers.flatMap fun number =>
    match Difference.lineAt? oldLines number, Difference.lineAt? newLines number with
    | some old, some new => Difference.pair palette number old new
    | _, _ => []

end ErDiagram

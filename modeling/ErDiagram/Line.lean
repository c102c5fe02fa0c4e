import ErDiagram.Text.Blank

/-!
Lines of a text. Splitting keeps every ending beside the body it ends, so that joining gives the text
back. A carriage return is part of an ending only right before a line feed.
-/

namespace ErDiagram

/-- How a line ends. Only the last line of a text can lack a line feed. -/
inductive Ending where
  | endOfText
  | lf
  | crlf
deriving DecidableEq

namespace Ending

def text : Ending → Text
  | .endOfText => []
  | .lf => ['\n']
  | .crlf => ['\r', '\n']

end Ending

structure Line where
  body : Text
  ending : Ending
deriving DecidableEq

namespace Line

def text (line : Line) : Text :=
  line.body ++ line.ending.text

/-- Put a character in front of a line. In front of a bare line feed a carriage return joins it. -/
def push (c : Char) (line : Line) : Line :=
  if c = '\r' ∧ line = ⟨[], .lf⟩ then ⟨[], .crlf⟩ else ⟨c :: line.body, line.ending⟩

end Line

/-- The lines of a text. A line feed at the end of the text starts no further line. -/
def splitLines : Text → List Line
  | [] => []
  | c :: rest =>
    if c = '\n' then ⟨[], .lf⟩ :: splitLines rest
    else
      match splitLines rest with
      | [] => [⟨[c], .endOfText⟩]
      | line :: more => line.push c :: more

def joinLines (lines : List Line) : Text :=
  lines.flatMap Line.text

theorem Line.text_push (c : Char) (line : Line) : (line.push c).text = c :: line.text := by
  unfold Line.push
  split
  next h =>
    obtain ⟨rfl, rfl⟩ := h
    rfl
  next => rfl

theorem joinLines_splitLines (t : Text) : joinLines (splitLines t) = t := by
  induction t with
  | nil => rfl
  | cons c rest ih =>
      unfold splitLines
      split
      next hc =>
        subst hc
        simpa [joinLines, Line.text, Ending.text] using ih
      next =>
        split
        next hNil =>
          rw [hNil] at ih
          simp only [joinLines, List.flatMap_nil] at ih
          simp [joinLines, Line.text, Ending.text, ← ih]
        next line more hCons =>
          rw [hCons] at ih
          simp only [joinLines, List.flatMap_cons] at ih ⊢
          rw [Line.text_push, List.cons_append, ih]

/-- The blanks in front of a line and the rest of it. -/
def splitIndent (t : Text) : Text × Text :=
  (t.takeWhile isBlank, t.dropWhile isBlank)

end ErDiagram

import ErDiagram.Text.Basic

/-!
Replacing spans of a text. Edits are applied in the order of their starts; an edit that does not lie
behind the edits before it, or not inside the text, is left out. Everything outside the spans of the
other edits is copied.
-/

namespace ErDiagram

structure Edit where
  span : Span
  replacement : Text
deriving DecidableEq

namespace Edit

/-- Insert an edit in front of the first edit that does not start before it. -/
def insert (edit : Edit) : List Edit → List Edit
  | [] => [edit]
  | other :: rest =>
    if edit.span.start ≤ other.span.start then edit :: other :: rest
    else other :: insert edit rest

/-- The edits by start. Edits with the same start keep their order. -/
def sort : List Edit → List Edit
  | [] => []
  | edit :: rest => insert edit (sort rest)

/-- Whether an edit can follow what has been copied or replaced up to `cursor` in a text of `size`
bytes. -/
def fits (cursor size : Nat) (edit : Edit) : Bool :=
  cursor ≤ edit.span.start && edit.span.stop ≤ size && edit.span.start ≤ edit.span.stop

/-- The edits, of a list ordered by start, that are applied to a text of `size` bytes. -/
def select (size : Nat) : Nat → List Edit → List Edit
  | _, [] => []
  | cursor, edit :: rest =>
    if edit.fits cursor size then edit :: select size edit.span.stop rest
    else select size cursor rest

/-- Replace the spans of edits that fit one behind the other, from `cursor` on. -/
def splice (t : Text) : Nat → List Edit → Text
  | cursor, [] => t.dropBytes cursor
  | cursor, edit :: rest =>
    t.slice ⟨cursor, edit.span.start⟩ ++ edit.replacement ++ splice t edit.span.stop rest

/-- Apply edits, given in any order. -/
def applyAll (t : Text) (edits : List Edit) : Text :=
  splice t 0 (select t.size 0 (sort edits))

/-- Apply edits, given in any order; fails when an edit that is applied starts or stops inside a
character. -/
def applyAll? (t : Text) (edits : List Edit) : Option Text :=
  let chosen := select t.size 0 (sort edits)
  if chosen.all fun edit => t.hasBoundary edit.span.start && t.hasBoundary edit.span.stop then
    some (splice t 0 chosen)
  else none

end Edit

end ErDiagram

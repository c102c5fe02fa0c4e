import ErDiagram.Text.Basic

/-!
Blank characters, and the texts without them: trimming and splitting into words. Blank means the
Unicode property White_Space, which holds of 25 characters and not of the zero-width spaces.
-/

namespace ErDiagram

/-- The Unicode property White_Space. -/
def isBlank (c : Char) : Bool :=
  let n := c.toNat
  (0x09 ≤ n && n ≤ 0x0D) || n == 0x20 || n == 0x85 || n == 0xA0 || n == 0x1680 ||
    (0x2000 ≤ n && n ≤ 0x200A) || n == 0x2028 || n == 0x2029 || n == 0x202F || n == 0x205F ||
    n == 0x3000

namespace Text

def hasBlank (t : Text) : Bool :=
  t.any isBlank

def isAllBlank (t : Text) : Bool :=
  t.all isBlank

def trimStart (t : Text) : Text :=
  t.dropWhile isBlank

def trimEnd (t : Text) : Text :=
  (t.reverse.dropWhile isBlank).reverse

def trim (t : Text) : Text :=
  trimEnd (trimStart t)

/-- The maximal runs of characters that are not blank, in order. -/
def words : Text → List Text
  | [] => []
  | c :: rest =>
    if isBlank c then words rest
    else
      match rest, words rest with
      | d :: _, w :: ws => if isBlank d then [c] :: w :: ws else (c :: w) :: ws
      | _, ws => [c] :: ws

/-- A span without the blanks at both ends of its text. A span of blanks alone shrinks to its end. -/
def trimSpan (t : Text) (span : Span) : Span :=
  let part := slice t span
  let start := span.start + (size part - size (trimStart part))
  ⟨start, max start (span.start + size (trimEnd part))⟩

end Text

end ErDiagram

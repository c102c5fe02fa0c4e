import ErDiagram.Text.Basic

/-!
Tokens of a line. Spaces and tabs separate tokens, except inside double quotes; a quote that is never
closed holds the rest of the line. No character but the separating ones is lost.
-/

namespace ErDiagram

/-- The characters that separate tokens. -/
def isGap (c : Char) : Bool :=
  c == ' ' || c == '\t'

structure Token where
  text : Text
  span : Span
deriving DecidableEq

namespace Token

/-- Whether the token starts with a double quote. -/
def isQuoted (token : Token) : Bool :=
  token.text.head? == some '"'

/-- The tokens of a text whose first character has the position `start`; `quoted` says whether that
character is inside double quotes. A character belongs to the token that follows it without a gap. -/
def scan (quoted : Bool) (start : Nat) : Text → List Token
  | [] => []
  | c :: rest =>
    let next := start + c.utf8Size
    if !quoted && isGap c then scan quoted next rest
    else
      match scan (quoted != (c == '"')) next rest with
      | [] => [⟨[c], ⟨start, next⟩⟩]
      | token :: more =>
        if token.span.start = next then ⟨c :: token.text, ⟨start, token.span.stop⟩⟩ :: more
        else ⟨[c], ⟨start, next⟩⟩ :: token :: more

end Token

/-- The tokens of a line. -/
def tokenize (t : Text) : List Token :=
  Token.scan false 0 t

/-- The token that a text starts with, and the rest of the text. -/
def leadingToken? (t : Text) : Option (Token × Text) :=
  match tokenize t with
  | token :: _ => if token.span.start = 0 then some (token, t.dropBytes token.span.stop) else none
  | [] => none

/-- The gap that a text starts with, and the rest of the text. -/
def leadingGap (t : Text) : Text × Text :=
  (t.takeWhile isGap, t.dropWhile isGap)

end ErDiagram

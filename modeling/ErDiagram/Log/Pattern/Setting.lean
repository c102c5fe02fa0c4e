import ErDiagram.Text.Blank

/-!
What holds at a place in a pattern, and the smallest parts of one. A setting says how what follows is
read. An atom is a character, an edge or a set of characters that is written without brackets. No table of
characters is at hand, so an atom whose meaning needs one is not allowed.
-/

namespace ErDiagram.Log.Pattern

/-- How the next part of a pattern is read. -/
structure Setting where
  /-- Small and capital letters are the same. -/
  ignoresCase : Bool := false
  /-- Sets hold characters, and not only bytes. -/
  hasCharacters : Bool := true
  /-- Blanks and comments do not count. -/
  isSpaced : Bool := false
deriving DecidableEq

/-- A part of a pattern that has no parts. -/
inductive Atom where
  /-- A character. It may have been written as the number of a byte. -/
  | character (c : Char) (isByte : Bool)
  | anyCharacter
  /-- The digits, the blanks or the characters of words, or all others. -/
  | commonSet (negated : Bool)
  | textEdge
  | wordEdge
deriving DecidableEq

/-- A text without blanks and comments in front. A comment ends with its line. -/
def dropSpace (inComment : Bool) : Text → Text
  | [] => []
  | c :: t =>
    if inComment then dropSpace (c != '\n') t
    else if c = '#' then dropSpace true t
    else if isBlank c then dropSpace false t
    else c :: t

namespace Setting

/-- A text from where the next part of the pattern begins. -/
def skip (s : Setting) (t : Text) : Text :=
  if s.isSpaced then dropSpace false t else t

/-- Whether an atom may stand outside of brackets. Bytes beyond ASCII are no characters. -/
def allows (s : Setting) : Atom → Bool
  | .character c isByte =>
    if s.hasCharacters then !s.ignoresCase else !isByte || c.toNat < 128
  | .anyCharacter => s.hasCharacters
  | .commonSet negated => !s.hasCharacters && !negated
  | .textEdge => true
  | .wordEdge => !s.hasCharacters

/-- Whether an atom may stand inside of brackets. -/
def allowsMember (s : Setting) : Atom → Bool
  | .character c _ => if s.hasCharacters then !s.ignoresCase else c.toNat < 128
  | .commonSet negated => !s.hasCharacters && !negated
  | _ => false

/-- Whether a set of ASCII characters may be named inside of brackets. -/
def allowsNamedSet (s : Setting) (negated : Bool) : Bool :=
  if s.hasCharacters then !s.ignoresCase else !negated

end Setting

/-- The value of a hexadecimal digit. -/
def hexDigit? (c : Char) : Option Nat :=
  if c.isDigit then some (c.toNat - '0'.toNat)
  else if 'a' ≤ c.toLower ∧ c.toLower ≤ 'f' then some (c.toLower.toNat - 'a'.toNat + 10)
  else none

/-- How many digits follow a letter that begins the number of a character. -/
def codeDigits? (c : Char) : Option Nat :=
  if c = 'x' then some 2 else if c = 'u' then some 4 else if c = 'U' then some 8 else none

/-- Read some more digits of a number. -/
def readCode (s : Setting) : Nat → Nat → Text → Option (Nat × Text)
  | 0, value, t => some (value, t)
  | left + 1, value, t =>
    match s.skip t with
    | [] => none
    | c :: rest => (hexDigit? c).bind fun digit => readCode s left (16 * value + digit) rest

/-- The character that a letter behind a backslash stands for. -/
def letter? : Char → Option Char
  | 'a' => some '\x07'
  | 'f' => some '\x0c'
  | 'n' => some '\n'
  | 'r' => some '\r'
  | 't' => some '\t'
  | 'v' => some '\x0b'
  | _ => none

/-- The atom that a backslash makes of a character. Apart from letters and digits most ASCII characters
stand for themselves. -/
def escaped? (c : Char) : Option Atom :=
  if c.toNat < 128 && !c.isAlphanum && c != '<' && c != '>' then some (.character c false)
  else if ['d', 's', 'w'].contains c then some (.commonSet false)
  else if ['D', 'S', 'W'].contains c then some (.commonSet true)
  else if ['A', 'z'].contains c then some .textEdge
  else if ['b', 'B', '<', '>'].contains c then some .wordEdge
  else (letter? c).map fun d => .character d false

/-- Read what stands behind a backslash. A number must be that of a character. -/
def readEscaped (s : Setting) : Text → Option (Atom × Text)
  | [] => none
  | c :: rest =>
    match codeDigits? c with
    | some digits =>
      (readCode s digits 0 rest).bind fun (code, rest) =>
        if code.isValidChar then some (.character (Char.ofNat code) (digits == 2), rest) else none
    | none => (escaped? c).map fun atom => (atom, rest)

/-- Read a character, or what a backslash makes of it. -/
def readMember (s : Setting) : Text → Option (Atom × Text)
  | [] => none
  | '\\' :: rest => readEscaped s rest
  | c :: rest => some (.character c false, rest)

/-- Read an atom outside of brackets. -/
def readAtom (s : Setting) : Text → Option (Atom × Text)
  | '.' :: rest => some (.anyCharacter, rest)
  | '^' :: rest => some (.textEdge, rest)
  | '$' :: rest => some (.textEdge, rest)
  | t => readMember s t

/-- How many parts of parts a part has: one more than the highest of several parts in a row, and as many
as a part that is alone. -/
def heightOfRow (heights : List Nat) : Nat :=
  heights.foldl max 0 + if heights.length ≤ 1 then 0 else 1

end ErDiagram.Log.Pattern

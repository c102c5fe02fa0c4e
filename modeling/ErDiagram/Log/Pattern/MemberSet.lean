import ErDiagram.Log.Pattern.Setting

/-!
Sets of characters between brackets. A set has members, ranges, sets with names, and further sets in
brackets, and two sets can be combined by a doubled sign. What is read of a set is only its height: how
deep sets and combinations are nested in it.
-/

namespace ErDiagram.Log.Pattern

/-- The names of the sets of ASCII characters. -/
def setNames : List Text :=
  ["alnum", "alpha", "ascii", "blank", "cntrl", "digit", "graph", "lower", "print", "punct", "space",
    "upper", "word", "xdigit"].map String.toList

/-- Read a name between colons and its closing bracket, behind an opening bracket. A circumflex in front
of the name negates the set. -/
def readSetName? : Text → Option (Bool × Text)
  | ':' :: t =>
    let negated := t.head? == some '^'
    let named := if negated then t.tail else t
    let name := named.takeWhile (· != ':')
    match named.drop name.length with
    | ':' :: ']' :: rest => if setNames.contains name then some (negated, rest) else none
    | _ => none
  | _ => none

/-- What follows a hyphen, for the choice whether the hyphen makes a range. Blanks do not count where the
setting says so, and of a comment only the sign at its start. -/
def afterHyphen (s : Setting) (t : Text) : Text :=
  if s.isSpaced then
    match t.dropWhile isBlank with
    | '#' :: rest => rest.dropWhile isBlank
    | rest => rest
  else t

/-- Read a member, or a range with a hyphen between two characters. In front of a closing bracket and of
another hyphen a hyphen makes no range. -/
def readRange (s : Setting) (t : Text) : Option Text := do
  let (first, rest) ← readMember s t
  if !s.allowsMember first then none
  else
    match s.skip rest with
    | '-' :: tail =>
      let next? := (afterHyphen s tail).head?
      if next? == some ']' || next? == some '-' then some ('-' :: tail)
      else
        let (last, rest) ← readMember s (s.skip tail)
        match first, last with
        | .character a _, .character b _ => if s.allowsMember last && a ≤ b then some rest else none
        | _, _ => none
    | rest => some rest

/-- Read what is between an opening bracket and the members of a set. In a set of bytes negation would let
in bytes that are no characters. -/
def readNegation (s : Setting) (t : Text) : Option Text :=
  match s.skip t with
  | '^' :: rest => if s.hasCharacters then some rest else none
  | rest => some rest

/-- What has been read of a set: the height of what a combining sign follows, and the heights of the
members behind that sign. -/
structure Members where
  left? : Option Nat := none
  heights : List Nat := []
  /-- Only hyphens have been read. -/
  atStart : Bool := true

namespace Members

def height (m : Members) : Nat :=
  match m.left? with
  | some left => max left (heightOfRow m.heights) + 1
  | none => heightOfRow m.heights

def add (m : Members) (height : Nat) : Members :=
  { m with heights := height :: m.heights, atStart := false }

/-- Begin with the second of two sets that are combined. -/
def combine (m : Members) : Members :=
  { left? := some m.height, atStart := false }

end Members

/-- Whether two of a character combine the sets around them. -/
def isCombining (c : Char) : Bool :=
  c == '&' || c == '-' || c == '~'

/-- Read the rest of a set and its closing bracket. Each part takes at least one character, and so `fuel`
has to be greater than the length of the text. -/
def readMembers (s : Setting) : Nat → Members → Text → Option (Nat × Text)
  | 0, _, _ => none
  | fuel + 1, m, t =>
    match s.skip t with
    | [] => none
    | c :: rest =>
      if m.atStart && (c == '-' || (c == ']' && m.heights.isEmpty)) then
        if s.allowsMember (.character c false) then
          readMembers s fuel { m.add 0 with atStart := c == '-' } rest
        else none
      else if c = ']' then some (m.height + 1, rest)
      else if c = '[' then
        match readSetName? rest with
        | some (negated, rest) =>
          if s.allowsNamedSet negated then readMembers s fuel (m.add 0) rest else none
        | none => do
          let (height, rest) ← readMembers s fuel {} (← readNegation s rest)
          readMembers s fuel (m.add height) rest
      else if isCombining c && rest.head? == some c then readMembers s fuel m.combine rest.tail
      else do readMembers s fuel (m.add 0) (← readRange s (c :: rest))

/-- Read a set behind its opening bracket. -/
def readSet (s : Setting) (t : Text) : Option (Nat × Text) := do
  readMembers s (t.length + 1) {} (← readNegation s t)

end ErDiagram.Log.Pattern

import ErDiagram.Log.Pattern.MemberSet
import ErDiagram.Text.Alphanumeric

/-!
Patterns for the text of a field. Only whether a pattern is well formed is settled here: its groups and
sets are closed, a repetition has something to repeat, each of its parts is allowed where it stands, and
its parts are not nested too deep. Counted repetitions end with a brace, which also ends the field, so no
pattern has any.
-/

namespace ErDiagram.Log.Pattern

/-- What has been read of a group. An item is a part that can be repeated, by its height, or nothing for
a change of the setting. -/
structure Progress where
  setting : Setting := {}
  /-- The names of groups up to here, in the whole pattern. -/
  names : List Text := []
  /-- The heights of the alternatives before the last one. -/
  alternatives : List Nat := []
  /-- The items of the last alternative, the last one first. -/
  items : List (Option Nat) := []

namespace Progress

def add (p : Progress) (height : Nat) : Progress :=
  { p with items := some height :: p.items }

/-- The height of the last alternative. -/
def heightOfItems (p : Progress) : Nat :=
  heightOfRow (p.items.map (·.getD 0))

def height (p : Progress) : Nat :=
  heightOfRow (p.heightOfItems :: p.alternatives)

/-- Begin with the next alternative. -/
def alternate (p : Progress) : Progress :=
  { p with alternatives := p.heightOfItems :: p.alternatives, items := [] }

/-- Repeat the last item. -/
def repeat? (p : Progress) : Option Progress :=
  match p.items with
  | some height :: items => some { p with items := some (height + 1) :: items }
  | _ => none

end Progress

/-- The start of a group: a change of the setting up to the end of the group around it, or the setting of
the group itself, with its name if it has one. -/
inductive Opening where
  | change (setting : Setting)
  | group (setting : Setting) (name? : Option Text)

/-- Change a setting by letters. Behind a hyphen they take away what they stand for. Those for other
things are allowed as well; no letter and no hyphen comes twice. -/
def Setting.change? (s : Setting) (letters : Text) : Option Setting :=
  let on := letters.takeWhile (· != '-')
  let off := letters.drop on.length
  let has (c : Char) (before : Bool) := (before || on.contains c) && !off.contains c
  if letters.all ['i', 'm', 's', 'U', 'u', 'R', 'x', '-'].contains && letters.Nodup &&
      letters.getLast? != some '-' then
    some ⟨has 'i' s.ignoresCase, has 'u' s.hasCharacters, has 'x' s.isSpaced⟩
  else none

/-- Read letters that change the setting, and the mark behind them: a colon if they are for the group
only. -/
def readChange (s : Setting) (t : Text) : Option (Opening × Text) :=
  let letters := t.takeWhile fun c => c != ':' && c != ')'
  match t.drop letters.length with
  | ':' :: rest => (s.change? letters).map fun setting => (.group setting none, rest)
  | ')' :: rest =>
    if letters.isEmpty then none
    else (s.change? letters).map fun setting => (.change setting, rest)
  | _ => none

/-- Whether a character can stand in the name of a group behind the first one. -/
def isNameCharacter (c : Char) : Bool :=
  isAlphanumeric c || c == '_' || c == '.' || c == '[' || c == ']'

/-- Read the name of a group and the mark behind it. -/
def readName (s : Setting) (t : Text) : Option (Opening × Text) :=
  let name := t.takeWhile (· != '>')
  match name, t.drop name.length with
  | c :: others, '>' :: rest =>
    if (isAlphabetic c || c == '_') && others.all isNameCharacter then
      some (.group s (some name), rest)
    else none
  | _, _ => none

/-- Read the start of a group behind its parenthesis. -/
def readOpening (s : Setting) (t : Text) : Option (Opening × Text) :=
  match s.skip t with
  | '?' :: 'P' :: '<' :: rest => readName s rest
  | '?' :: '<' :: rest => readName s rest
  | '?' :: rest => readChange s rest
  | rest => some (.group s none, rest)

/-- Read up to the end of a group, which is the end of the text or stands in front of a closing
parenthesis. Each part takes at least one character, and so `fuel` has to be greater than the length of
the text. -/
def readItems : Nat → Progress → Text → Option (Progress × Text)
  | 0, _, _ => none
  | fuel + 1, p, t =>
    match p.setting.skip t with
    | [] => some (p, [])
    | c :: rest =>
      if c = ')' then some (p, c :: rest)
      else if c = '(' then do
        match ← readOpening p.setting rest with
        | (.change setting, rest) =>
          readItems fuel { p with setting, items := none :: p.items } rest
        | (.group setting name?, rest) =>
          if name?.any p.names.contains then none
          else
            match ← readItems fuel { setting, names := name?.toList ++ p.names } rest with
            | (inner, ')' :: rest) =>
              readItems fuel { p.add (inner.height + 1) with names := inner.names } rest
            | _ => none
      else if c = '|' then readItems fuel p.alternate rest
      else if c = '[' then do
        let (height, rest) ← readSet p.setting rest
        readItems fuel (p.add height) rest
      else if c = '?' ∨ c = '*' ∨ c = '+' then do
        let shortest := rest.head? == some '?'
        readItems fuel (← p.repeat?) (if shortest then rest.tail else rest)
      else if c = '\x7b' then none
      else do
        let (atom, rest) ← readAtom p.setting (c :: rest)
        if p.setting.allows atom then readItems fuel (p.add 0) rest else none

/-- How high a pattern may be at most. -/
def heightLimit : Nat := 250

/-- Whether a text is a well-formed pattern. -/
def isWellFormed (t : Text) : Bool :=
  match readItems (t.length + 1) {} t with
  | some (p, []) => p.height ≤ heightLimit
  | _ => false

end ErDiagram.Log.Pattern

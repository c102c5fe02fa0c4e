import ErDiagram.Text.Search

/-!
Numbers as they are written in settings: digits with an optional sign in front, and decimal numbers with
an optional fraction and exponent. A numeral may begin with any number of zeros.
-/

namespace ErDiagram.Text

/-- The value of a text that is made of decimal digits alone, and of at least one. -/
def digits? (t : Text) : Option Nat :=
  if !t.isEmpty && t.all Char.isDigit then
    some (t.foldl (fun n c => 10 * n + (c.toNat - '0'.toNat)) 0)
  else none

/-- A natural number. It may have a plus sign. -/
def natural? : Text → Option Nat
  | '+' :: t => digits? t
  | t => digits? t

/-- A whole number. It may have a sign. -/
def integer? : Text → Option Int
  | '-' :: t => (digits? t).map fun n => -(n : Int)
  | t => (natural? t).map Int.ofNat

/-- A text without the sign in front of it. -/
def dropSign : Text → Text
  | '+' :: t => t
  | '-' :: t => t
  | t => t

/-- Whether a text stands for an infinite number, apart from its sign. -/
def isInfinite (t : Text) : Bool :=
  let name := foldCase (dropSign t)
  name == "inf".toList || name == "infinity".toList

/-- Whether a text says that it is not a number. -/
def isNotANumber (t : Text) : Bool :=
  foldCase (dropSign t) == "nan".toList

/-- The power of ten that a text multiplies with: nothing, or a whole number behind the letter e. -/
def exponent? : Text → Option Int
  | [] => some 0
  | c :: t => if c.toLower == 'e' then integer? t else none

/-- A decimal number without a sign, as a natural number and the power of ten that goes with it: digits with
at most one point among or beside them, and an exponent if it has one. -/
def decimal? (t : Text) : Option (Nat × Int) :=
  let whole := t.takeWhile Char.isDigit
  match t.drop whole.length with
  | '.' :: rest =>
    let fraction := rest.takeWhile Char.isDigit
    match digits? (whole ++ fraction), exponent? (rest.drop fraction.length) with
    | some coefficient, some exponent => some (coefficient, exponent - fraction.length)
    | _, _ => none
  | rest =>
    match digits? whole, exponent? rest with
    | some coefficient, some exponent => some (coefficient, exponent)
    | _, _ => none

end ErDiagram.Text

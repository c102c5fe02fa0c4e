import ErDiagram.Text.Numeral

/-!
Numbers of 64 bits: 53 binary digits, a sign, and an exponent within bounds. A decimal number is rounded to
the nearest of them, and it is written with the fewest digits that are rounded back to it. All of this is
exact arithmetic on natural numbers.
-/

namespace ErDiagram

/-- A number of 64 bits: its sign, and how many times it has the least positive number, which is 2 to the
power of -1074. An infinite number has no such count. -/
structure Binary64 where
  negative : Bool
  units? : Option Nat
deriving DecidableEq

namespace Binary64

/-- How far apart the numbers are that have 53 binary digits and about as many units as given. -/
def spacing (units : Nat) : Nat :=
  1 <<< (Nat.log2 units - 52)

/-- One more than the units of the numbers that are not infinite. -/
def beyond : Nat :=
  1 <<< 2098

/-- A quotient as a whole number: the nearest, and of two the even one. -/
def roundQuotient (dividend divisor : Nat) : Nat :=
  let quotient := dividend / divisor
  let twice := 2 * (dividend % divisor)
  if twice < divisor ∨ (twice = divisor ∧ quotient % 2 = 0) then quotient else quotient + 1

/-- The nearest number to a quotient of units. -/
def ofQuotient (negative : Bool) (dividend divisor : Nat) : Binary64 :=
  let gap := spacing (dividend / divisor)
  let units := roundQuotient dividend (divisor * gap) * gap
  ⟨negative, if units < beyond then some units else none⟩

/-- The nearest number to a natural number times a power of ten. What is far out of bounds is told from
the number of digits. -/
def ofDecimal (negative : Bool) (coefficient : Nat) (exponent : Int) : Binary64 :=
  let width := (Text.ofNat coefficient).length + exponent
  if coefficient = 0 ∨ width < -330 then ⟨negative, some 0⟩
  else if 310 < width then ⟨negative, none⟩
  else
    let places := exponent + 1074
    ofQuotient negative (coefficient * Nat.pow 10 places.toNat)
      (Nat.pow 5 1074 * Nat.pow 10 (-places).toNat)

/-- The number with a written form: a decimal number or infinity, with a sign or without one. -/
def ofText? (t : Text) : Option Binary64 :=
  let negative := t.head? == some '-'
  if Text.isInfinite t then some ⟨negative, none⟩
  else
    (Text.decimal? (Text.dropSign t)).map fun (coefficient, exponent) =>
      ofDecimal negative coefficient exponent

/-- The numbers in their order, as numbers of units. Both zeros have the same place. -/
def rank (x : Binary64) : Int :=
  let units := x.units?.getD beyond
  if x.negative then -(units : Int) else units

instance : Ord Binary64 where
  compare x y := compare x.rank y.rank

/-- The distance to the next smaller number, which is shorter at a power of two. -/
def spacingBelow (units : Nat) : Nat :=
  if units = 1 <<< Nat.log2 units ∧ 1 < spacing units then spacing units / 2 else spacing units

/-- The multiple of a power of ten that is rounded to a number, if there is one: the nearest, and of two
the greater. Powers of ten are counted from 10 to the power of -1074, as every number of units is a
multiple of that one. -/
def multiple? (units power : Nat) : Option Nat :=
  let scale := Nat.pow 5 1074
  let value := 2 * units * scale
  let low := (2 * units - spacingBelow units) * scale
  let high := (2 * units + spacing units) * scale
  let isEven := units / spacing units % 2 == 0
  let step := 2 * Nat.pow 10 power
  let isNear (n : Nat) : Bool :=
    (low < n * step && n * step < high) || (isEven && (n * step == low || n * step == high))
  let down := value / step
  let up := down + 1
  if isNear up && (!isNear down || step ≤ 2 * (value - down * step)) then some up
  else if isNear down then some down
  else none

/-- The decimal number with the fewest digits that is rounded to a number of units, as a natural number and
the power of ten, which is at most the given one. -/
def shortest (units : Nat) : Nat → Nat × Nat
  | 0 => (units * Nat.pow 5 1074, 0)
  | power + 1 =>
    match multiple? units (power + 1) with
    | some n => (n, power + 1)
    | none => shortest units power

/-- A natural number times a power of ten, which again counts from 10 to the power of -1074, without an
exponent. -/
def positional (n power : Nat) : Text :=
  let digits := Text.ofNat n
  if 1074 ≤ power then digits ++ List.replicate (power - 1074) '0'
  else
    let places := 1074 - power
    let padded := List.replicate (places + 1 - digits.length) '0' ++ digits
    let whole := padded.length - places
    padded.take whole ++ '.' :: padded.drop whole

/-- The written form of a number. No number of units reaches 10 to the power of 309. -/
def text (x : Binary64) : Text :=
  let magnitude :=
    match x.units? with
    | none => "inf".toList
    | some 0 => ['0']
    | some units =>
      let (n, power) := shortest units 1383
      positional n power
  if x.negative then '-' :: magnitude else magnitude

end Binary64

end ErDiagram

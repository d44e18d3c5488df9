import GuardLang.Binary64

/-!
# Shortest decimals

The decimal with the fewest digits that rounds to a given double, of those the
nearest to it, and of two that are equally near the one that ends in an even
digit.  A double is the nearest one for all numbers half-way to its
neighbours, the ends included when its last binary place is even.  For one
digit, two digits and so on, the value's two neighbours on the decimal grid are
tried; the first grid that has one in that range gives the answer.

Everything is computed exactly, in quarters of a unit.
-/

namespace GuardLang.Binary64

/-- A positive decimal: `0.d₁d₂… * 10 ^ point`. -/
structure Decimal where
  digits : List Char
  point : Int
  deriving DecidableEq, Repr

/-- The numbers that round to a given one, in quarters of a unit. -/
structure Basin where
  low : Nat
  high : Nat
  closed : Bool

namespace Basin

/-- The numbers that round to a positive number of units.  Below a power of two
the neighbour is only half as far. -/
def of (units : Nat) : Basin :=
  let step := Nat.pow 2 (excess units)
  let below := if units = fractionSize * step ∧ 1 < step then step else 2 * step
  ⟨4 * units - below, 4 * units + 2 * step, units / step % 2 = 0⟩

/-- Whether the number `numerator / denominator` of quarters lies in the range. -/
def holds (basin : Basin) (numerator denominator : Nat) : Bool :=
  if basin.closed then
    basin.low * denominator ≤ numerator && numerator ≤ basin.high * denominator
  else basin.low * denominator < numerator && numerator < basin.high * denominator

end Basin

/-- The number of decimal digits of a number. -/
def digitCount (n : Nat) : Nat := (Nat.toDigits 10 n).length

/-- The number of quarter units in the number one. -/
def quarters : Nat := 4 * one

/-- The exponent of the first decimal digit of a positive number of units. -/
def leadingExponent (units : Nat) : Int :=
  if one ≤ units then (digitCount (units / one) : Int) - 1
  else -(digitCount ((one + units - 1) / units - 1) : Int)

/-- The multiple of `10 ^ power` that stands for a number of units, if one of the
two around it rounds to it. -/
def onGrid? (units : Nat) (power : Int) : Option Nat :=
  let unit := Nat.pow 10 power.toNat * quarters
  let scale := Nat.pow 10 (-power).toNat
  let below := 4 * units * scale / unit
  let rest := 4 * units * scale % unit
  let fits (count : Nat) : Bool := (Basin.of units).holds (count * unit) scale
  match fits below, fits (below + 1) with
  | true, true =>
    some (if 2 * rest < unit then below
      else if unit < 2 * rest then below + 1
      else below + below % 2)
  | true, false => some below
  | false, true => some (below + 1)
  | false, false => none

/-- The decimal `count * 10 ^ power`, without zeros at its end. -/
def Decimal.ofGrid (count : Nat) (power : Int) : Decimal :=
  let digits := Nat.toDigits 10 count
  ⟨(digits.reverse.dropWhile (· == '0')).reverse, power + digits.length⟩

/-- The shortest decimal for a positive number of units.  Seventeen digits are
always enough. -/
def shortest (units : Nat) : Decimal :=
  let leading := leadingExponent units
  let found := (List.range 17).findSome? fun (n : Nat) =>
    (onGrid? units (leading - n)).map (Decimal.ofGrid · (leading - n))
  found.getD ⟨[], 0⟩

end GuardLang.Binary64

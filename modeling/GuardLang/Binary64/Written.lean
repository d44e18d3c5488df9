import GuardLang.Binary64.Shortest

/-!
# Written doubles

How messages write a double: its shortest decimal, with a point, or with an
exponent when the number is very large or very small.
-/

namespace GuardLang.Binary64

/-- Where the written form of a decimal changes. -/
structure Layout where
  /-- The least exponent of the first digit that is written without exponent. -/
  least : Int
  /-- The greatest exponent of the first digit that is written without exponent. -/
  greatest : Int
  /-- The least number of digits of an exponent. -/
  exponentWidth : Nat

/-- Numbers from `0.0001` up to `10 ^ 16` are written out, and exponents have two
digits at least. -/
def layout : Layout := ⟨-4, 15, 2⟩

namespace Decimal

/-- The decimal written out, with at least one digit on each side of the point. -/
def positional (decimal : Decimal) : List Char :=
  let before := decimal.point.toNat
  let zeros := List.replicate (-decimal.point).toNat '0'
  let whole := decimal.digits.take before ++
    List.replicate (before - decimal.digits.length) '0'
  let fraction := zeros ++ decimal.digits.drop before
  (if whole.isEmpty then ['0'] else whole) ++ '.' ::
    (if fraction.isEmpty then ['0'] else fraction)

/-- The decimal with its first digit in front of the point and an exponent. -/
def scientific (layout : Layout) (decimal : Decimal) : List Char :=
  let exponent := decimal.point - 1
  let size := Nat.toDigits 10 exponent.natAbs
  decimal.digits.take 1 ++
    (if decimal.digits.length ≤ 1 then [] else '.' :: decimal.digits.drop 1) ++
    'e' :: (if exponent < 0 then '-' else '+') ::
    (List.replicate (layout.exponentWidth - size.length) '0' ++ size)

/-- The decimal as written. -/
def written (layout : Layout) (decimal : Decimal) : List Char :=
  if layout.least ≤ decimal.point - 1 ∧ decimal.point - 1 ≤ layout.greatest then
    decimal.positional
  else decimal.scientific layout

end Decimal

/-- The written form of a double. -/
def written : Binary64 → String
  | nan => "nan"
  | infinite negative => if negative then "-inf" else "inf"
  | finite negative units =>
    let magnitude := if units = 0 then "0.0" else String.ofList ((shortest units).written layout)
    if negative then "-" ++ magnitude else magnitude

end GuardLang.Binary64

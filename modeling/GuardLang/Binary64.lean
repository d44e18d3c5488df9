/-!
# Double precision numbers

A finite double is a whole multiple of the smallest positive one, `2 ^ -1074`,
so it is kept as a sign and a count of such units.  Comparing two doubles is
then comparing two integers, and no operation depends on the machine.
-/

namespace GuardLang

/-- A double precision number; a finite one has the value `units / 2 ^ 1074` or
its negative.  All that is known of a number that is none is that it is none. -/
inductive Binary64 where
  | nan
  | infinite (negative : Bool)
  | finite (negative : Bool) (units : Nat)
  deriving DecidableEq, Repr

namespace Binary64

/-- The number of units in the number one. -/
def one : Nat := Nat.pow 2 1074

/-- The number of units at which doubles end: `2 ^ 1024`. -/
def bound : Nat := Nat.pow 2 2098

/-! ## Order -/

/-- A count with its sign. -/
def signed (negative : Bool) (units : Nat) : Int := if negative then -(units : Int) else units

/-- The place of a number in the order, in units.  The infinities lie beyond all
finite numbers, and both zeros lie at zero. -/
def level? : Binary64 → Option Int
  | nan => none
  | infinite negative => some (signed negative bound)
  | finite negative units => some (signed negative units)

/-- Whether `x` is less than `y`. -/
def lt (x y : Binary64) : Bool :=
  match x.level?, y.level? with
  | some a, some b => a < b
  | _, _ => false

/-- Whether `x` and `y` are numerically the same. -/
def same (x y : Binary64) : Bool :=
  match x.level?, y.level? with
  | some a, some b => a == b
  | _, _ => false

/-- Whether the magnitude of a number is greater than `units`. -/
def exceeds (x : Binary64) (units : Nat) : Bool :=
  match x.level? with
  | some level => units < level.natAbs
  | none => false

/-! ## Rounding -/

/-- The integer nearest to `numerator / denominator`; of two that are equally
near, the even one. -/
def nearest (numerator denominator : Nat) : Nat :=
  let quotient := numerator / denominator
  let twice := 2 * (numerator % denominator)
  if twice < denominator then quotient
  else if denominator < twice then quotient + 1
  else quotient + quotient % 2

/-- How many binary places a count of units has beyond the 53 that a double
holds. -/
def excess (units : Nat) : Nat := units.log2 + 1 - 53

/-- The double nearest to `numerator / denominator` units. -/
def ofRatio (negative : Bool) (numerator denominator : Nat) : Binary64 :=
  let step := Nat.pow 2 (excess (numerator / denominator))
  let units := nearest numerator (denominator * step) * step
  if units < bound then finite negative units else infinite negative

/-- The double nearest to a whole number of units. -/
def ofUnits (units : Int) : Binary64 := ofRatio (units < 0) units.natAbs 1

/-- The number `x + n`. -/
def addInt (x : Binary64) (n : Int) : Binary64 :=
  match x with
  | finite negative units => ofUnits (signed negative units + n * one)
  | x => x

/-- The double nearest to `digits * 10 ^ exponent`.  Beyond the exponents that
are computed with, the result cannot depend on the digits. -/
def ofDecimal (negative : Bool) (digits : Nat) (exponent : Int) : Binary64 :=
  if digits = 0 then finite negative 0
  else if 400 < exponent then infinite negative
  else if (digits.log2 : Int) + 401 + exponent < 0 then finite negative 0
  else ofRatio negative (digits * Nat.pow 10 exponent.toNat * one) (Nat.pow 10 (-exponent).toNat)

/-! ## Bit patterns -/

/-- The number of fractions that a pattern can hold: `2 ^ 52`. -/
def fractionSize : Nat := Nat.pow 2 52

/-- The sign bit of a pattern: `2 ^ 63`. -/
def signBit : Nat := Nat.pow 2 63

/-- The number with a given bit pattern: a sign bit, eleven bits of exponent and
fifty-two of fraction. -/
def ofBits (bits : Nat) : Binary64 :=
  let negative := signBit ≤ bits
  let exponent := bits / fractionSize % 2048
  let fraction := bits % fractionSize
  if exponent = 2047 then if fraction = 0 then infinite negative else nan
  else if exponent = 0 then finite negative fraction
  else finite negative ((fractionSize + fraction) * Nat.pow 2 (exponent - 1))

/-- The bit pattern of a magnitude. -/
def magnitudeBits (units : Nat) : Nat :=
  excess units * fractionSize + units / Nat.pow 2 (excess units)

/-- The bit pattern of a number; the one that is none has many. -/
def bits? : Binary64 → Option Nat
  | nan => none
  | infinite negative => some ((if negative then signBit else 0) + 2047 * fractionSize)
  | finite negative units => some ((if negative then signBit else 0) + magnitudeBits units)

end Binary64

end GuardLang

import GuardLang.Binary64.Written

/-!
# Ranges

Two bounds leave no value when they cross.  Between integers this is decided
after a bound that is itself excluded has been moved by one; on a dense scale
bounds that meet leave a value only if both are included.
-/

namespace GuardLang

/-- Numbers that can bound a range. -/
class Quantity (α : Type) where
  /-- Whether the first number is less than the second. -/
  lt : α → α → Bool
  /-- Whether two numbers are the same. -/
  same : α → α → Bool
  /-- The sum of a number and an integer. -/
  addInt : α → Int → α
  /-- A number as messages write it. -/
  written : α → String

instance : Quantity Int where
  lt a b := a < b
  same a b := a == b
  addInt a n := a + n
  written a := toString a

instance : Quantity Binary64 where
  lt := Binary64.lt
  same := Binary64.same
  addInt := Binary64.addInt
  written := Binary64.written

/-- A bound, which may itself be excluded. -/
structure Limit (α : Type) where
  value : α
  strict : Bool
  deriving DecidableEq, Repr

namespace Limit

variable {α : Type} [Quantity α]

/-- Whether no value lies between two bounds when values are one apart. -/
def emptyDiscrete (lower upper : Limit α) : Bool :=
  let low := if lower.strict then Quantity.addInt lower.value 1 else lower.value
  let high := if upper.strict then Quantity.addInt upper.value (-1) else upper.value
  Quantity.lt high low

/-- Whether no value lies between two bounds when there is a value between any
two. -/
def emptyDense (lower upper : Limit α) : Bool :=
  if Quantity.same lower.value upper.value then lower.strict || upper.strict
  else Quantity.lt upper.value lower.value

end Limit

end GuardLang

import GuardLang.Guard.Item
import GuardLang.Number.Type

/-!
# Guards

What an annotation asks for: sanitizers and validators, in the order in which
they were declared, for a string type, an integer type or a floating point
type.  In a raw guard every item still has the span it was read from.
-/

namespace GuardLang

/-- The two lists of items of a guard. -/
structure Items (S V : Type) where
  sanitizers : List S := []
  validators : List V := []
  deriving DecidableEq, Repr

/-- A guard whose validators have been found consistent. -/
inductive Guard where
  | string (items : Items StringSanitizer StringValidator)
  | integer (type : IntegerType) (items : Items NumericSanitizer (NumericValidator Int))
  | float (type : FloatType) (items : Items NumericSanitizer (NumericValidator Binary64))
  deriving DecidableEq, Repr

namespace Guard

/-- Whether a guard validates anything. -/
def hasValidation : Guard → Bool
  | string items => !items.validators.isEmpty
  | integer _ items => !items.validators.isEmpty
  | float _ items => !items.validators.isEmpty

end Guard

/-- Items with the spans they were read from. -/
abbrev RawItems (S V : Type) := Items (Spanned S) (Spanned V)

namespace RawItems

/-- The items without their spans. -/
def items {S V : Type} (raw : RawItems S V) : Items S V :=
  ⟨raw.sanitizers.map (·.item), raw.validators.map (·.item)⟩

end RawItems

/-- A guard that has not been checked. -/
inductive RawGuard where
  | string (items : RawItems StringSanitizer StringValidator)
  | integer (type : IntegerType) (items : RawItems NumericSanitizer (NumericValidator Int))
  | float (type : FloatType) (items : RawItems NumericSanitizer (NumericValidator Binary64))
  deriving DecidableEq, Repr

end GuardLang

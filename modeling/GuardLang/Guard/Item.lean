import GuardLang.Function
import GuardLang.Keyword

/-!
# Sanitizers and validators

The items of a guard.  Each has a kind, which is the keyword it is written with,
and what the kind calls for: a length, a bound, a function or a pattern.  Items
that come from an annotation have exactly that; items put together by hand may
leave it out.
-/

namespace GuardLang

/-! ## Sanitizers -/

/-- The sanitizers of strings. -/
inductive StringSanitizerKind where
  | trim
  | lowercase
  | uppercase
  | custom
  deriving DecidableEq, Repr

instance : Keyword StringSanitizerKind where
  all := [.trim, .lowercase, .uppercase, .custom]
  name
    | .trim => "trim"
    | .lowercase => "lowercase"
    | .uppercase => "uppercase"
    | .custom => "with"

/-- The sanitizers of numbers. -/
inductive NumericSanitizerKind where
  | custom
  deriving DecidableEq, Repr

instance : Keyword NumericSanitizerKind where
  all := [.custom]
  name | .custom => "with"

/-- A sanitizer; a custom one has a function. -/
structure Sanitizer (κ : Type) where
  kind : κ
  function : Option BoundFunction := none
  deriving DecidableEq, Repr

abbrev StringSanitizer := Sanitizer StringSanitizerKind

abbrev NumericSanitizer := Sanitizer NumericSanitizerKind

/-! ## Validators of strings -/

/-- The validators of strings. -/
inductive StringValidatorKind where
  | minLen
  | maxLen
  | notEmpty
  | custom
  | regex
  deriving DecidableEq, Repr

instance : Keyword StringValidatorKind where
  all := [.minLen, .maxLen, .notEmpty, .custom, .regex]
  name
    | .minLen => "min_len"
    | .maxLen => "max_len"
    | .notEmpty => "not_empty"
    | .custom => "with"
    | .regex => "regex"

/-- A pattern: written in place, or a path to a constant. -/
inductive Pattern where
  | literal (text : Text)
  | path (text : Text)
  deriving DecidableEq, Repr

/-- A validator of strings, with a length, a function or a pattern by kind. -/
structure StringValidator where
  kind : StringValidatorKind
  length : Option Int := none
  function : Option BoundFunction := none
  pattern : Option Pattern := none
  deriving DecidableEq, Repr

/-! ## Validators of numbers -/

/-- The validators of numbers. -/
inductive NumericValidatorKind where
  | greater
  | greaterOrEqual
  | less
  | lessOrEqual
  | custom
  | finite
  deriving DecidableEq, Repr

instance : Keyword NumericValidatorKind where
  all := [.greater, .greaterOrEqual, .less, .lessOrEqual, .custom, .finite]
  name
    | .greater => "greater"
    | .greaterOrEqual => "greater_or_equal"
    | .less => "less"
    | .lessOrEqual => "less_or_equal"
    | .custom => "with"
    | .finite => "finite"

namespace NumericValidatorKind

/-- The validators of integers: all but the one that only floating point numbers
can fail. -/
def ofIntegers : List NumericValidatorKind :=
  [.greater, .greaterOrEqual, .less, .lessOrEqual, .custom]

/-- Whether a validator bounds numbers from below. -/
def isLower : NumericValidatorKind → Bool
  | greater | greaterOrEqual => true
  | _ => false

/-- Whether a validator bounds numbers from above. -/
def isUpper : NumericValidatorKind → Bool
  | less | lessOrEqual => true
  | _ => false

/-- Whether a bound itself is excluded. -/
def isStrict : NumericValidatorKind → Bool
  | greater | less => true
  | _ => false

end NumericValidatorKind

/-- A validator of numbers of type `α`, with a bound or a function by kind. -/
structure NumericValidator (α : Type) where
  kind : NumericValidatorKind
  value : Option α := none
  function : Option BoundFunction := none
  deriving DecidableEq, Repr

end GuardLang

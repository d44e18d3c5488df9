import GuardLang.Guard

/-!
# Families

The types that can be guarded fall into three families, which differ in their
keywords and in what they hand to custom functions.
-/

namespace GuardLang

/-- A type that can be guarded. -/
inductive Family where
  | string
  | integer (type : IntegerType)
  | float (type : FloatType)
  deriving DecidableEq, Repr

namespace Family

/-- The names of the string types. -/
def stringTypes : List String := ["String", "str"]

/-- The names of all types that can be guarded, in the order in which messages
list them. -/
def supportedTypes : List String := stringTypes ++ NumberType.all.map (·.name)

/-- The family of a number type. -/
def ofNumberType : NumberType → Family
  | .integer type => integer type
  | .float type => float type

/-- The family of the type with a given name. -/
def ofTypeName (name : String) : Except Fault Family :=
  if stringTypes.contains name then .ok string
  else match NumberType.ofName? name with
    | some type => .ok (ofNumberType type)
    | none => .error (.unlocated (.unsupportedType name supportedTypes))

/-- The integer family of a number type. -/
def ofInteger : NumberType → Except Fault Family
  | .integer type => .ok (integer type)
  | .float type => .error (.unlocated (.unfitType type.name "integer"))

/-- The floating point family of a number type. -/
def ofFloat : NumberType → Except Fault Family
  | .float type => .ok (float type)
  | .integer type => .error (.unlocated (.unfitType type.name "float"))

/-- The name of a family. -/
def name : Family → String
  | string => "string"
  | integer _ => "integer"
  | float _ => "float"

/-- The keywords of a family's sanitizers. -/
def sanitizerKeywords : Family → List String
  | string => (Keyword.all : List StringSanitizerKind).map Keyword.name
  | integer _ | float _ => (Keyword.all : List NumericSanitizerKind).map Keyword.name

/-- The keywords of a family's validators. -/
def validatorKeywords : Family → List String
  | string => (Keyword.all : List StringValidatorKind).map Keyword.name
  | integer _ => NumericValidatorKind.ofIntegers.map Keyword.name
  | float _ => (Keyword.all : List NumericValidatorKind).map Keyword.name

/-- What a family hands to custom functions.  Sanitizers of strings are handed
the string itself and validators a view of it; numbers are handed over as they
are. -/
def inputType : Family → Role → Text
  | string, .sanitizer => "String".toList
  | string, .validator => "&str".toList
  | integer type, _ => type.name.toList
  | float type, _ => type.name.toList

end Family

end GuardLang

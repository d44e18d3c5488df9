import GuardLang.Family
import GuardLang.Grammar.Function
import GuardLang.Grammar.Number

/-!
# Items

The sanitizers and validators of each family, as they stand in their groups: a
keyword, and behind an equals sign what the keyword calls for.
-/

namespace GuardLang

/-- How the items and the default value of a family are read. -/
structure Grammar (S V D : Type) where
  sanitizer : Parser (Spanned S)
  validator : Parser (Spanned V)
  defaultValue : Parser (Spanned D)

namespace Grammar

/-! ## Shared by all families -/

/-- The keyword of an item. -/
def itemName (role : Role) : Parser Token := do
  let token ← Parser.current
  if token.kind = .identifier then Parser.advance
  else Parser.failAt token.span (.expectedItem role token.found)

/-- Refuse a keyword that no equals sign follows; the sign is not taken. -/
def requireEquals (keyword : Token) : Parser Unit := do
  if ← Parser.isAt [.equals] then return
  else Parser.failAt keyword.span (.expectedEquals keyword.value)

/-- The function of a custom item. -/
def customFunction (keyword : Token) (inputType : Text) : Parser (Spanned BoundFunction) := do
  requireEquals keyword
  let _ ← Parser.advance
  typedFunction inputType

/-- Refuse a keyword that is none of the known ones. -/
def unknownItem {α κ : Type} [Keyword κ] (role : Role) (keyword : Token) (known : List κ) :
    Parser α :=
  Parser.failAt keyword.span (.unknownItem role keyword.value (known.map Keyword.name))

/-- Refuse a keyword whose capability is not enabled. -/
def requireCapability (enabled : Capabilities) (capability : Capability) (span : Span) :
    Parser Unit :=
  Parser.ofExcept (enabled.require capability (some span))

/-! ## Strings -/

/-- A sanitizer of strings. -/
def stringSanitizer : Parser (Spanned StringSanitizer) := do
  let keyword ← itemName .sanitizer
  match (Keyword.ofName? (String.ofList keyword.value) : Option StringSanitizerKind) with
  | some .custom =>
    let function ← customFunction keyword (Family.string.inputType .sanitizer)
    return ⟨{ kind := .custom, function := some function.item }, function.span⟩
  | some kind => return ⟨{ kind }, keyword.span⟩
  | none => unknownItem .sanitizer keyword (Keyword.all : List StringSanitizerKind)

/-- A pattern: a string, or else a path.  An alternative that fails takes
nothing, so the fault is found where the pattern should begin. -/
def pattern : Parser (Spanned Pattern) := do
  match ← Parser.attempt (Parser.expect .string) with
  | some literal => return ⟨.literal literal.value, literal.span⟩
  | none =>
    match ← Parser.attempt path with
    | some constant => return ⟨.path constant.item, constant.span⟩
    | none =>
      let token ← Parser.current
      Parser.failAt token.span (.expectedPattern token.found)

/-- A validator of strings. -/
def stringValidator (enabled : Capabilities) : Parser (Spanned StringValidator) := do
  let keyword ← itemName .validator
  match (Keyword.ofName? (String.ofList keyword.value) : Option StringValidatorKind) with
  | some .notEmpty => return ⟨{ kind := .notEmpty }, keyword.span⟩
  | some .custom =>
    let function ← customFunction keyword (Family.string.inputType .validator)
    return ⟨{ kind := .custom, function := some function.item }, function.span⟩
  | some .regex =>
    requireCapability enabled .regex keyword.span
    requireEquals keyword
    let _ ← Parser.advance
    let read ← pattern
    return ⟨{ kind := .regex, pattern := some read.item }, keyword.span.join read.span⟩
  | some kind =>
    requireEquals keyword
    let length ← assignedNumber IntegerType.usize.literals
    return ⟨{ kind, length := some length.item }, keyword.span.join length.span⟩
  | none => unknownItem .validator keyword (Keyword.all : List StringValidatorKind)

/-- The default value of a string type. -/
def stringDefault : Parser (Spanned Text) := do
  let token ← Parser.current
  if token.kind = .string then
    let _ ← Parser.advance
    return ⟨token.value, token.span⟩
  else Parser.failAt token.span (.expectedStringDefault token.found)

/-- The grammar of string types. -/
def ofStrings (enabled : Capabilities) : Grammar StringSanitizer StringValidator Text where
  sanitizer := stringSanitizer
  validator := stringValidator enabled
  defaultValue := stringDefault

/-! ## Numbers -/

variable {α : Type}

/-- A sanitizer of numbers. -/
def numericSanitizer (inputType : Text) : Parser (Spanned NumericSanitizer) := do
  let keyword ← itemName .sanitizer
  match (Keyword.ofName? (String.ofList keyword.value) : Option NumericSanitizerKind) with
  | some .custom =>
    let function ← customFunction keyword inputType
    return ⟨{ kind := .custom, function := some function.item }, function.span⟩
  | none => unknownItem .sanitizer keyword (Keyword.all : List NumericSanitizerKind)

/-- A validator of numbers, of one of the known kinds. -/
def numericValidator (type : LiteralType α) (known : List NumericValidatorKind) :
    Parser (Spanned (NumericValidator α)) := do
  let keyword ← itemName .validator
  match Keyword.find? known (String.ofList keyword.value) with
  | some .custom =>
    let function ← customFunction keyword type.name.toList
    return ⟨{ kind := .custom, function := some function.item }, function.span⟩
  | some .finite => return ⟨{ kind := .finite }, keyword.span⟩
  | some kind =>
    requireEquals keyword
    let bound ← assignedNumber type
    return ⟨{ kind, value := some bound.item }, keyword.span.join bound.span⟩
  | none => unknownItem .validator keyword known

/-- The grammar of a number type whose validators are of the known kinds. -/
def ofNumbers (type : LiteralType α) (known : List NumericValidatorKind) :
    Grammar NumericSanitizer (NumericValidator α) α where
  sanitizer := numericSanitizer type.name.toList
  validator := numericValidator type known
  defaultValue := number type

/-- The grammar of an integer type. -/
def ofIntegers (type : IntegerType) : Grammar NumericSanitizer (NumericValidator Int) Int :=
  ofNumbers type.literals NumericValidatorKind.ofIntegers

/-- The grammar of a floating point type. -/
def ofFloats (type : FloatType) :
    Grammar NumericSanitizer (NumericValidator Binary64) Binary64 :=
  ofNumbers type.literals Keyword.all

end Grammar

end GuardLang

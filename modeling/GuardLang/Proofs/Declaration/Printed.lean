import GuardLang.Proofs.Grammar.Fits

/-!
# Declarations in writing

A declaration as it is written in an annotation: two groups of items, then what is
given as the default value, then the flag, each of the last two only if there is
one.  Items have commas between them, numbers are in decimal, strings stand between
double quotes, and functions are paths or closures.

Not everything can be written this way.  `Declaration.Writable` says what can: names
are words of the language, and what stands behind the bar of a closure is scanned on
its own and has no comma outside its brackets.
-/

namespace GuardLang

/-! ## Parts -/

namespace Text

/-- A character as it stands between double quotes. -/
def escaped (c : Char) : Text := if c = '"' ∨ c = '\\' then ['\\', c] else [c]

/-- A text between double quotes. -/
def inQuotes (text : Text) : Text := '"' :: text.flatMap escaped ++ ['"']

/-- Texts with commas between them. -/
def commaSeparated (texts : List Text) : Text := List.intercalate [',', ' '] texts

/-- A keyword alone, or with what it is given. -/
def keyed (keyword : String) : Option Text → Text
  | none => keyword.toList
  | some value => keyword.toList ++ ([' ', '=', ' '] ++ value)

/-- A keyword with a group of items. -/
def grouped (keyword : String) (items : List Text) : Text :=
  keyword.toList ++ ('(' :: (commaSeparated items ++ [')']))

end Text

/-- A number in decimal. -/
def Quantity.printed {α : Type} [Quantity α] (value : α) : Text := (Quantity.written value).toList

namespace BoundFunction

/-- A function as a path or a closure; parts that are missing are left out. -/
def printed (function : BoundFunction) : Text :=
  match function.form with
  | .path => function.path.getD []
  | .closure => '|' :: (function.param.getD [] ++ (['|', ' '] ++ function.body.getD []))

end BoundFunction

/-- A pattern as a string or a path. -/
def Pattern.printed : Pattern → Text
  | literal text => text.inQuotes
  | path text => text

/-! ## Items -/

/-- A sanitizer in writing. -/
def Sanitizer.printed {κ : Type} [Keyword κ] (sanitizer : Sanitizer κ) : Text :=
  .keyed (Keyword.name sanitizer.kind) (sanitizer.function.map BoundFunction.printed)

/-- A validator of strings in writing. -/
def StringValidator.printed (validator : StringValidator) : Text :=
  .keyed (Keyword.name validator.kind)
    ((validator.length.map Quantity.printed).or
      ((validator.function.map BoundFunction.printed).or
        (validator.pattern.map Pattern.printed)))

/-- A validator of numbers in writing. -/
def NumericValidator.printed {α : Type} [Quantity α] (validator : NumericValidator α) : Text :=
  .keyed (Keyword.name validator.kind)
    ((validator.value.map Quantity.printed).or (validator.function.map BoundFunction.printed))

/-- A default value in writing. -/
def Literal.printed : Literal → Text
  | text value => value.inQuotes
  | number (.integer value) => Quantity.printed value
  | number (.float value) => Quantity.printed value

/-! ## Declarations -/

namespace Guard

/-- The family that a guard belongs to. -/
def family : Guard → Family
  | string _ => .string
  | integer type _ => .integer type
  | float type _ => .float type

/-- The sanitizers of a guard in writing. -/
def printedSanitizers : Guard → List Text
  | string items => items.sanitizers.map Sanitizer.printed
  | integer _ items => items.sanitizers.map Sanitizer.printed
  | float _ items => items.sanitizers.map Sanitizer.printed

/-- The validators of a guard in writing. -/
def printedValidators : Guard → List Text
  | string items => items.validators.map StringValidator.printed
  | integer _ items => items.validators.map NumericValidator.printed
  | float _ items => items.validators.map NumericValidator.printed

end Guard

namespace Declaration

/-- The options of a declaration in writing. -/
def printedOptions (declaration : Declaration) : List Text :=
  [.grouped (Keyword.name OptionKind.sanitize) declaration.guard.printedSanitizers,
    .grouped (Keyword.name OptionKind.validate) declaration.guard.printedValidators] ++
  (declaration.defaultValue.map fun value =>
    Text.keyed (Keyword.name OptionKind.default) (some value.item.printed)).toList ++
  if declaration.newUnchecked then [.keyed (Keyword.name OptionKind.newUnchecked) none] else []

/-- A declaration in writing. -/
def printed (declaration : Declaration) : Text := .commaSeparated declaration.printedOptions

end Declaration

/-! ## What can be written -/

namespace Text

/-- Whether a text is a name: a letter or an underscore, and then letters, numerals
and underscores. -/
def isName : Text → Bool
  | [] => false
  | c :: rest => startsWord c && rest.all continuesWord

/-- Names with a point or two colons between them. -/
inductive IsPath : Text → Prop
  | name {name : Text} : name.isName = true → IsPath name
  | segment {text separator name : Text} : IsPath text →
      separator = ['.'] ∨ separator = [':', ':'] → name.isName = true →
      IsPath (text ++ (separator ++ name))

/-- A text without blanks around it that is scanned into at least one token and has
no comma outside its brackets. -/
structure IsBody (body : Text) : Prop where
  head : ∀ c ∈ body.head?, isBlank c = false
  last : ∀ c ∈ body.getLast?, isBlank c = false
  scanned : ∃ tokens mark, tokenize body = .ok (tokens ++ [mark]) ∧ tokens ≠ [] ∧ Unbroken tokens

end Text

/-- A function with parts that can be written. -/
structure BoundFunction.Writable (function : BoundFunction) : Prop where
  path : ∀ path ∈ function.path, path.IsPath
  param : ∀ param ∈ function.param, param.isName = true
  body : ∀ body ∈ function.body, body.IsBody

/-- A pattern that can be written: every string can. -/
inductive Pattern.Writable : Pattern → Prop
  | literal {text : Text} : Writable (.literal text)
  | path {text : Text} : text.IsPath → Writable (.path text)

namespace Guard

/-- A guard for strings or integers whose items have what their kinds call for, all
of which can be written. -/
inductive Writable (enabled : Capabilities) : Guard → Prop
  | string {items : Items StringSanitizer StringValidator} :
      (∀ sanitizer ∈ items.sanitizers,
        sanitizer.Fits .custom "String".toList ∧
        ∀ function ∈ sanitizer.function, function.Writable) →
      (∀ validator ∈ items.validators, validator.Fits enabled ∧
        (∀ function ∈ validator.function, function.Writable) ∧
        ∀ pattern ∈ validator.pattern, pattern.Writable) →
      Writable enabled (.string items)
  | integer {type : IntegerType} {items : Items NumericSanitizer (NumericValidator Int)} :
      (∀ sanitizer ∈ items.sanitizers,
        sanitizer.Fits .custom type.name.toList ∧
        ∀ function ∈ sanitizer.function, function.Writable) →
      (∀ validator ∈ items.validators,
        validator.Fits type.InRange type.name.toList False ∧
        ∀ function ∈ validator.function, function.Writable) →
      Writable enabled (.integer type items)

end Guard

/-- A declaration that can be written, and is enabled. -/
structure Declaration.Writable (enabled : Capabilities) (declaration : Declaration) : Prop where
  guard : declaration.guard.Writable enabled
  newUnchecked : declaration.newUnchecked = true → enabled.allows .newUnchecked = true
  defaultValue : ∀ value ∈ declaration.defaultValue, value.item.Fits declaration.guard.family

end GuardLang

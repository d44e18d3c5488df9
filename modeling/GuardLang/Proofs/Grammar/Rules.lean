import GuardLang.Declaration
import GuardLang.Proofs.Brackets
import GuardLang.Proofs.Number.Rounding
import GuardLang.Proofs.Order
import GuardLang.Proofs.Text.Boundary

/-!
# The grammar of annotations

The grammar as a grammar: each rule says which runs of tokens it derives and what
they denote, without a parser.  Lists and nested groups are derived by recursion
on their parts, and spans go from the first to the last token of a run.

    annotation  = (option [','])*, each keyword at most once
    option      = 'sanitize' '(' list(sanitizer) ')' | 'validate' '(' list(validator) ')'
                | 'default' '=' default | 'new_unchecked'
    list(item)  = empty | item (',' item)* [',']
    function    = path | '|' name [':' type] '|' body
    type        = ['&' [lifetime]] path
    path        = name (('.' | '::') name)*
    number      = ['-'] literal

What a sanitizer, a validator and a default value may be depends on the family.
Keywords and types are spelled out here, and what a number denotes is given by what its digits
stand for, so the rules say nothing about how any of this is read.
-/

namespace GuardLang

/-! ## Words and whitespace -/

/-- Keywords with the words that stand for them in an annotation.  The names by which
they are looked up are these. -/
class Worded (κ : Type) [Keyword κ] where
  word : κ → String
  name_eq : ∀ kind, Keyword.name kind = word kind

instance : Worded OptionKind where
  word
    | .sanitize => "sanitize"
    | .validate => "validate"
    | .default => "default"
    | .newUnchecked => "new_unchecked"
  name_eq kind := by cases kind <;> rfl

instance : Worded StringSanitizerKind where
  word
    | .trim => "trim"
    | .lowercase => "lowercase"
    | .uppercase => "uppercase"
    | .custom => "with"
  name_eq kind := by cases kind <;> rfl

instance : Worded StringValidatorKind where
  word
    | .minLen => "min_len"
    | .maxLen => "max_len"
    | .notEmpty => "not_empty"
    | .custom => "with"
    | .regex => "regex"
  name_eq kind := by cases kind <;> rfl

instance : Worded NumericSanitizerKind where
  word | .custom => "with"
  name_eq kind := by cases kind; rfl

instance : Worded NumericValidatorKind where
  word
    | .greater => "greater"
    | .greaterOrEqual => "greater_or_equal"
    | .less => "less"
    | .lessOrEqual => "less_or_equal"
    | .custom => "with"
    | .finite => "finite"
  name_eq kind := by cases kind <;> rfl

/-- The word for an integer type. -/
def IntegerType.word : IntegerType → String
  | i8 => "i8"
  | i16 => "i16"
  | i32 => "i32"
  | i64 => "i64"
  | i128 => "i128"
  | isize => "isize"
  | u8 => "u8"
  | u16 => "u16"
  | u32 => "u32"
  | u64 => "u64"
  | u128 => "u128"
  | usize => "usize"

theorem IntegerType.name_eq (type : IntegerType) : type.name = type.word := by
  cases type <;> rfl

/-- The word for a floating point type. -/
def FloatType.word : FloatType → String
  | f32 => "f32"
  | f64 => "f64"

theorem FloatType.name_eq (type : FloatType) : type.name = type.word := by
  cases type <;> rfl

/-- Two texts are the same but for their whitespace. -/
def Text.SameButWhitespace (text other : Text) : Prop :=
  (text.filter fun c => c.toNat ∉ whitespace) = other.filter fun c => c.toNat ∉ whitespace

/-- What a literal denotes, alone or behind a minus sign. -/
abbrev Denotation (α : Type) := Bool → Text → α → Prop

namespace Rule

variable {α : Type}

/-- A rule together with the span of the tokens it derives. -/
def Whole (rule : List Token → α → Prop) (tokens : List Token) (value : Spanned α) : Prop :=
  rule tokens value.item ∧ cover? tokens = some value.span

/-! ## Paths and types -/

/-- A path, which denotes the text of its tokens. -/
inductive Path : List Token → Text → Prop
  | name {name : Token} : name.kind = .identifier → Path [name] name.value
  | segment {tokens : List Token} {text : Text} {separator name : Token} : Path tokens text →
      separator.kind = .dot ∨ separator.kind = .pathSep → name.kind = .identifier →
      Path (tokens ++ [separator, name]) (text ++ separator.value ++ name.value)

/-- A type: a path, or a reference to one with or without a lifetime. -/
inductive TypeName : List Token → Text → Prop
  | path {tokens : List Token} {text : Text} : Path tokens text → TypeName tokens text
  | reference {ampersand : Token} {tokens : List Token} {text : Text} :
      ampersand.kind = .ampersand → Path tokens text →
      TypeName (ampersand :: tokens) ('&' :: text)
  | lifetime {ampersand lifetime : Token} {tokens : List Token} {text : Text} :
      ampersand.kind = .ampersand → lifetime.kind = .lifetime → Path tokens text →
      TypeName (ampersand :: lifetime :: tokens) ('&' :: (lifetime.value ++ [' ']) ++ text)

/-! ## Functions -/

/-- The type of a closure's parameter, which may be left out. -/
inductive ParamType : List Token → Option Text → Prop
  | none : ParamType [] none
  | typed {colon : Token} {tokens : List Token} {text : Text} : colon.kind = .colon →
      TypeName tokens text → ParamType (colon :: tokens) (some text)

/-- A closure, whose body is kept as it is written. -/
inductive Closure (source : Text) : List Token → FunctionRef → Prop
  | closure {opening param closing : Token} {typing body : List Token}
      {paramType : Option Text} {bodySpan span : Span} : opening.kind = .pipe →
      param.kind = .identifier → ParamType typing paramType → closing.kind = .pipe →
      Unbroken body → cover? body = some bodySpan →
      cover? (opening :: param :: (typing ++ closing :: body)) = some span →
      Closure source (opening :: param :: (typing ++ closing :: body))
        { form := .closure, param := some param.value, paramType,
          body := some (bodySpan.text source), span }

/-- A function: a path or a closure. -/
inductive Function (source : Text) : List Token → FunctionRef → Prop
  | path {tokens : List Token} {text : Text} {span : Span} : Path tokens text →
      cover? tokens = some span →
      Function source tokens { form := .path, path := some text, span }
  | closure {tokens : List Token} {function : FunctionRef} : Closure source tokens function →
      Function source tokens function

/-- A function for a slot that hands it values of the expected type: a closure
that gives its parameter a type has to give it that one, whitespace apart. -/
inductive Custom (source expected : Text) : List Token → Spanned BoundFunction → Prop
  | function {tokens : List Token} {function : FunctionRef} : Function source tokens function →
      (∀ actual ∈ function.paramType, actual.SameButWhitespace expected) →
      Custom source expected tokens
        ⟨{ form := function.form, path := function.path, param := function.param,
           body := function.body, inputType := expected }, function.span⟩

/-! ## Numbers and patterns -/

/-- A number literal with or without a sign. -/
inductive Number (denotes : Denotation α) : List Token → α → Prop
  | plain {literal : Token} {value : α} : literal.kind = .number →
      denotes false literal.value value → Number denotes [literal] value
  | negative {sign literal : Token} {value : α} : sign.kind = .minus → literal.kind = .number →
      denotes true literal.value value → Number denotes [sign, literal] value

/-- A pattern: a string, or a path to a constant. -/
inductive Pattern : List Token → GuardLang.Pattern → Prop
  | literal {literal : Token} : literal.kind = .string → Pattern [literal] (.literal literal.value)
  | path {tokens : List Token} {text : Text} : Path tokens text → Pattern tokens (.path text)

/-! ## Items -/

/-- The token is the keyword of a kind. -/
def Keyworded {κ : Type} [Keyword κ] [Worded κ] (kind : κ) (token : Token) : Prop :=
  token.kind = .identifier ∧ token.value = (Worded.word kind).toList

/-- The sanitizers of strings. -/
inductive StringSanitizing (source : Text) : List Token → Spanned StringSanitizer → Prop
  | plain {keyword : Token} {kind : StringSanitizerKind} : kind ≠ .custom →
      Keyworded kind keyword → StringSanitizing source [keyword] ⟨{ kind }, keyword.span⟩
  | custom {keyword equals : Token} {tokens : List Token} {function : Spanned BoundFunction} :
      Keyworded StringSanitizerKind.custom keyword → equals.kind = .equals →
      Custom source "String".toList tokens function →
      StringSanitizing source (keyword :: equals :: tokens)
        ⟨{ kind := .custom, function := some function.item }, function.span⟩

/-- The validators of strings. -/
inductive StringValidating (source : Text) (enabled : Capabilities) :
    List Token → Spanned StringValidator → Prop
  | notEmpty {keyword : Token} : Keyworded StringValidatorKind.notEmpty keyword →
      StringValidating source enabled [keyword] ⟨{ kind := .notEmpty }, keyword.span⟩
  | length {keyword equals : Token} {kind : StringValidatorKind} {tokens : List Token}
      {length : Int} {span : Span} : kind = .minLen ∨ kind = .maxLen → Keyworded kind keyword →
      equals.kind = .equals → Number IntegerType.usize.Denotes tokens length →
      cover? (keyword :: equals :: tokens) = some span →
      StringValidating source enabled (keyword :: equals :: tokens)
        ⟨{ kind, length := some length }, span⟩
  | custom {keyword equals : Token} {tokens : List Token} {function : Spanned BoundFunction} :
      Keyworded StringValidatorKind.custom keyword → equals.kind = .equals →
      Custom source "&str".toList tokens function →
      StringValidating source enabled (keyword :: equals :: tokens)
        ⟨{ kind := .custom, function := some function.item }, function.span⟩
  | regex {keyword equals : Token} {tokens : List Token} {pattern : GuardLang.Pattern}
      {span : Span} : enabled.allows .regex = true →
      Keyworded StringValidatorKind.regex keyword → equals.kind = .equals →
      Pattern tokens pattern → cover? (keyword :: equals :: tokens) = some span →
      StringValidating source enabled (keyword :: equals :: tokens)
        ⟨{ kind := .regex, pattern := some pattern }, span⟩

/-- The sanitizers of numbers. -/
inductive NumericSanitizing (source inputType : Text) :
    List Token → Spanned NumericSanitizer → Prop
  | custom {keyword equals : Token} {tokens : List Token} {function : Spanned BoundFunction} :
      Keyworded NumericSanitizerKind.custom keyword → equals.kind = .equals →
      Custom source inputType tokens function →
      NumericSanitizing source inputType (keyword :: equals :: tokens)
        ⟨{ kind := .custom, function := some function.item }, function.span⟩

/-- The validators of numbers, of one of the known kinds. -/
inductive NumericValidating (source inputType : Text) (denotes : Denotation α)
    (known : List NumericValidatorKind) : List Token → Spanned (NumericValidator α) → Prop
  | finite {keyword : Token} : NumericValidatorKind.finite ∈ known →
      Keyworded NumericValidatorKind.finite keyword →
      NumericValidating source inputType denotes known [keyword] ⟨{ kind := .finite }, keyword.span⟩
  | bound {keyword equals : Token} {kind : NumericValidatorKind} {tokens : List Token} {value : α}
      {span : Span} : kind ∈ known → kind ∈ [.greater, .greaterOrEqual, .less, .lessOrEqual] →
      Keyworded kind keyword → equals.kind = .equals → Number denotes tokens value →
      cover? (keyword :: equals :: tokens) = some span →
      NumericValidating source inputType denotes known (keyword :: equals :: tokens)
        ⟨{ kind, value := some value }, span⟩
  | custom {keyword equals : Token} {tokens : List Token} {function : Spanned BoundFunction} :
      NumericValidatorKind.custom ∈ known → Keyworded NumericValidatorKind.custom keyword →
      equals.kind = .equals → Custom source inputType tokens function →
      NumericValidating source inputType denotes known (keyword :: equals :: tokens)
        ⟨{ kind := .custom, function := some function.item }, function.span⟩

theorem mem_bounds_iff {kind : NumericValidatorKind} :
    kind ∈ [.greater, .greaterOrEqual, .less, .lessOrEqual] ↔
      kind.isLower = true ∨ kind.isUpper = true := by
  cases kind <;> simp [NumericValidatorKind.isLower, NumericValidatorKind.isUpper]

/-- The default values of string types. -/
inductive StringDefault : List Token → Text → Prop
  | literal {literal : Token} : literal.kind = .string → StringDefault [literal] literal.value

/-! ## Lists and options -/

/-- Items with commas between them, and perhaps one behind the last. -/
inductive Listed (item : List Token → α → Prop) : List Token → List α → Prop
  | nil : Listed item [] []
  | last {tokens : List Token} {value : α} : item tokens value → Listed item tokens [value]
  | more {tokens rest : List Token} {comma : Token} {value : α} {values : List α} :
      item tokens value → comma.kind = .comma → Listed item rest values →
      Listed item (tokens ++ comma :: rest) (value :: values)

end Rule

/-- The rules of a family. -/
structure Rules (S V D : Type) where
  sanitizer : List Token → Spanned S → Prop
  validator : List Token → Spanned V → Prop
  defaultValue : List Token → Spanned D → Prop

namespace Rules

/-- The rules of string types. -/
def ofStrings (source : Text) (enabled : Capabilities) :
    Rules StringSanitizer StringValidator Text where
  sanitizer := Rule.StringSanitizing source
  validator := Rule.StringValidating source enabled
  defaultValue := Rule.Whole Rule.StringDefault

/-- The rules of a number type whose validators are of the known kinds. -/
def ofNumbers {α : Type} (source inputType : Text) (denotes : Denotation α)
    (known : List NumericValidatorKind) : Rules NumericSanitizer (NumericValidator α) α where
  sanitizer := Rule.NumericSanitizing source inputType
  validator := Rule.NumericValidating source inputType denotes known
  defaultValue := Rule.Whole (Rule.Number denotes)

/-- The rules of an integer type. -/
def ofIntegers (source : Text) (type : IntegerType) :
    Rules NumericSanitizer (NumericValidator Int) Int :=
  ofNumbers source type.word.toList type.Denotes
    [.greater, .greaterOrEqual, .less, .lessOrEqual, .custom]

/-- The rules of a floating point type, whose numbers may have to be finite. -/
def ofFloats (source : Text) (type : FloatType) :
    Rules NumericSanitizer (NumericValidator Binary64) Binary64 :=
  ofNumbers source type.word.toList type.Denotes
    [.greater, .greaterOrEqual, .less, .lessOrEqual, .custom, .finite]

end Rules

/-- What one option says. -/
inductive Setting (S V D : Type) where
  | sanitize (items : List (Spanned S))
  | validate (items : List (Spanned V))
  | default (value : Spanned D)
  | newUnchecked

namespace Setting

variable {S V D : Type}

/-- The keyword of an option. -/
def kind : Setting S V D → OptionKind
  | sanitize _ => .sanitize
  | validate _ => .validate
  | default _ => .default
  | newUnchecked => .newUnchecked

/-- Add what an option says to a draft. -/
def addTo (draft : Draft S V D) : Setting S V D → Draft S V D
  | sanitize sanitizers => { draft with items := { draft.items with sanitizers } }
  | validate validators => { draft with items := { draft.items with validators } }
  | default value => { draft with defaultValue := some value }
  | newUnchecked => { draft with newUnchecked := true }

/-- What some options say together. -/
def draft (settings : List (Setting S V D)) : Draft S V D := settings.foldl addTo {}

end Setting

namespace Rule

variable {S V D : Type}

/-- One option. -/
inductive Sets (rules : Rules S V D) (enabled : Capabilities) :
    List Token → Setting S V D → Prop
  | sanitize {keyword opener closer : Token} {inner : List Token} {items : List (Spanned S)} :
      Keyworded OptionKind.sanitize keyword → opener.kind = .opening .round →
      Listed rules.sanitizer inner items → closer.kind = .closing .round →
      Sets rules enabled (keyword :: opener :: (inner ++ [closer])) (.sanitize items)
  | validate {keyword opener closer : Token} {inner : List Token} {items : List (Spanned V)} :
      Keyworded OptionKind.validate keyword → opener.kind = .opening .round →
      Listed rules.validator inner items → closer.kind = .closing .round →
      Sets rules enabled (keyword :: opener :: (inner ++ [closer])) (.validate items)
  | default {keyword equals : Token} {tokens : List Token} {value : Spanned D} :
      Keyworded OptionKind.default keyword → equals.kind = .equals →
      rules.defaultValue tokens value →
      Sets rules enabled (keyword :: equals :: tokens) (.default value)
  | newUnchecked {keyword : Token} : enabled.allows .newUnchecked = true →
      Keyworded OptionKind.newUnchecked keyword → Sets rules enabled [keyword] .newUnchecked

/-- A comma that may be left out. -/
inductive OptionalComma : List Token → Prop
  | none : OptionalComma []
  | comma {comma : Token} : comma.kind = .comma → OptionalComma [comma]

/-- A sequence of options, each with or without a comma behind it. -/
inductive Options (rules : Rules S V D) (enabled : Capabilities) :
    List Token → List (Setting S V D) → Prop
  | nil : Options rules enabled [] []
  | option {tokens gap rest : List Token} {setting : Setting S V D}
      {settings : List (Setting S V D)} : Sets rules enabled tokens setting → OptionalComma gap →
      Options rules enabled rest settings →
      Options rules enabled (tokens ++ gap ++ rest) (setting :: settings)

/-- A whole annotation: options with different keywords, which denote a draft. -/
def Annotated (rules : Rules S V D) (enabled : Capabilities) (tokens : List Token)
    (draft : Draft S V D) : Prop :=
  ∃ settings, Options rules enabled tokens settings ∧ (settings.map Setting.kind).Nodup ∧
    draft = Setting.draft settings

end Rule

end GuardLang

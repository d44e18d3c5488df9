import GuardLang.Capability
import GuardLang.Diagnostic
import GuardLang.Keyword
import GuardLang.Token

/-!
# Faults

Why an annotation is refused.  A fault is a cause and the span it is about.
Causes carry the parts that their message quotes, and `Cause.category` and
`Cause.message` are the only places that classify and word them.
-/

namespace GuardLang

/-- The two kinds of items in a guard. -/
inductive Role where
  | sanitizer
  | validator
  deriving DecidableEq, Repr

namespace Role

/-- What messages call an item. -/
def name : Role → String
  | sanitizer => "sanitizer"
  | validator => "validator"

end Role

/-- Why an annotation, or a request about one, is refused. -/
inductive Cause where
  -- Scanning
  | unterminatedString
  | unterminatedRawString
  | unterminatedCharacter
  | unknownEscape (c : Char)
  | unexpectedCharacter (c : Char)
  | unexpectedCloser (closer : Text)
  | mismatchedCloser (closer opener : Text)
  | unclosed (opener : Text)
  -- Parsing
  | expectedToken (kind : TokenKind) (found : Found)
  | expectedOption (found : Found)
  | repeatedOption (keyword : Text)
  | unknownOption (keyword : Text)
  | expectedGroup (keyword : Text)
  | expectedItem (role : Role) (found : Found)
  | unknownItem (role : Role) (keyword : Text) (known : List String)
  | expectedEquals (keyword : Text)
  | expectedFunction (found : Found)
  | expectedClosureBody
  | expectedNumber
  | expectedNumberAfterMinus
  | expectedStringDefault (found : Found)
  | expectedPattern (found : Found)
  | numberMismatch (type : String) (literal : Text)
  | functionMismatch (expected actual : Text)
  | disabled (capability : Capability)
  -- Consistency
  | repeatedValidator (kind : String)
  | exclusiveValidators (first second : String)
  | emptyRange (lower upper : String)
  | crossedLengths
  -- Requests
  | unsupportedType (type : String) (supported : List String)
  | unfitType (type family : String)
  | missingEquals (found : Found)
  | unknownNumberType (type : String)
  deriving DecidableEq, Repr

namespace Cause

/-- The category of a cause. -/
def category : Cause → Category
  | unterminatedString | unterminatedRawString | unterminatedCharacter | unknownEscape _
  | unexpectedCharacter _ | unexpectedCloser _ | mismatchedCloser _ _ | unclosed _
  | expectedToken _ _ | expectedOption _ | repeatedOption _ | expectedGroup _
  | expectedItem _ _ | expectedEquals _ | expectedFunction _ | expectedClosureBody
  | expectedNumber | expectedNumberAfterMinus | expectedStringDefault _
  | expectedPattern _ => .grammar
  | unknownOption _ | unknownItem _ _ _ => .unknownOption
  | numberMismatch _ _ | functionMismatch _ _ => .typeMismatch
  | disabled capability => .capability capability.name
  | repeatedValidator _ | exclusiveValidators _ _ => .duplicate
  | emptyRange _ _ | crossedLengths => .range
  | unsupportedType _ _ | unfitType _ _ => .general
  | missingEquals _ => .contract
  | unknownNumberType _ => .unknownType

/-- A text between backticks, as messages quote source text and keywords. -/
def tick (text : String) : String := "`" ++ text ++ "`"

/-- The words for a keyword that is not known. -/
def unknownKeyword (what : String) (keyword : Text) (known : List String) : String :=
  "Unknown " ++ what ++ " " ++ tick (String.ofList keyword) ++ ". Expected one of: " ++
    ", ".intercalate known

/-- The wording of a cause. -/
def message : Cause → String
  | unterminatedString => "Unterminated string literal"
  | unterminatedRawString => "Unterminated raw string literal"
  | unterminatedCharacter => "Unterminated character literal"
  | unknownEscape c => "Unknown character escape " ++ tick (String.ofList ['\\', c])
  | unexpectedCharacter c => "Unexpected character: " ++ String.ofList (Text.quoted [c])
  | unexpectedCloser closer => "Unexpected closing delimiter " ++ tick (String.ofList closer)
  | mismatchedCloser closer opener =>
    "Mismatched closing delimiter " ++ tick (String.ofList closer) ++ " for " ++
      tick (String.ofList opener)
  | unclosed opener => "Unclosed delimiter " ++ tick (String.ofList opener)
  | expectedToken kind found => "Expected " ++ tick kind.symbol ++ ", got " ++ found.describe
  | expectedOption found => "Expected an option name, got " ++ found.describe
  | repeatedOption keyword => "Duplicate option " ++ tick (String.ofList keyword)
  | unknownOption keyword =>
    unknownKeyword "option" keyword ((Keyword.all : List OptionKind).map Keyword.name)
  | expectedGroup keyword => "Expected `(` after " ++ tick (String.ofList keyword)
  | expectedItem role found => "Expected " ++ role.name ++ " name, got " ++ found.describe
  | unknownItem role keyword known => unknownKeyword role.name keyword known
  | expectedEquals keyword => "Expected `=` after " ++ tick (String.ofList keyword)
  | expectedFunction found => "Expected a function path or closure, got " ++ found.describe
  | expectedClosureBody => "Expected closure body"
  | expectedNumber => "Expected number, got end of input"
  | expectedNumberAfterMinus => "Expected number after `-`"
  | expectedStringDefault found =>
    "Expected a string literal as default, got " ++ found.describe
  | expectedPattern found =>
    "regex must be either a string literal or a path that refers to a regex constant, got " ++
      found.describe
  | numberMismatch type literal =>
    "Expected " ++ type ++ ", got " ++ tick (String.ofList literal)
  | functionMismatch expected actual =>
    "Expected a function with input type " ++ tick (String.ofList expected) ++ ", got " ++
      tick (String.ofList actual)
  | disabled capability => Capability.refusal capability.name capability.hint
  | repeatedValidator kind => "Duplicated validator " ++ tick kind
  | exclusiveValidators first second =>
    "The validators " ++ tick first ++ " and " ++ tick second ++ " are mutually exclusive"
  | emptyRange lower upper => tick lower ++ " and " ++ tick upper ++ " leave no valid values"
  | crossedLengths => "`min_len` cannot be greater than `max_len`"
  | unsupportedType type supported =>
    "Type " ++ tick type ++ " is not supported. Supported types: " ++
      ", ".intercalate supported
  | unfitType type family =>
    tick type ++ " is not a valid inner type for the " ++ family ++ " family"
  | missingEquals found => "Expected token `=`, got " ++ found.describe
  | unknownNumberType type => type

end Cause

/-- A cause and the span it is about, if it is about a place in an annotation. -/
structure Fault where
  cause : Cause
  span : Option Span
  deriving DecidableEq, Repr

namespace Fault

/-- A fault at a place in the annotation. -/
def located (cause : Cause) (span : Span) : Fault := ⟨cause, some span⟩

/-- A fault that is about no place. -/
def unlocated (cause : Cause) : Fault := ⟨cause, none⟩

/-- Whether the annotation does not follow the grammar, so that another way to
read it may be tried. -/
def isGrammatical (fault : Fault) : Bool := fault.cause.category.within .grammar

/-- A fault as it is shown. -/
def diagnostic (fault : Fault) : Diagnostic :=
  ⟨fault.cause.category, fault.cause.message, fault.span⟩

end Fault

namespace Capabilities

/-- Refuse the use, perhaps at a place, of a capability that is not enabled. -/
def require (enabled : Capabilities) (capability : Capability) (span : Option Span) :
    Except Fault Unit :=
  if enabled.allows capability then .ok () else .error ⟨.disabled capability, span⟩

end Capabilities

end GuardLang

import GuardLang.Grammar.Options
import GuardLang.Guard.Check
import GuardLang.Scanner

/-!
# Declarations

What an annotation declares for a type.  Reading one takes three steps: its
text is scanned into tokens, its options are read by the grammar of the type's
family, and the guard they describe is checked.  The first fault in this order
is the one that is reported.
-/

namespace GuardLang

/-- A default value. -/
inductive Literal where
  | text (value : Text)
  | number (value : Number)
  deriving DecidableEq, Repr

/-- What an annotation declares, before its guard has been checked. -/
structure RawDeclaration where
  guard : RawGuard
  newUnchecked : Bool
  defaultValue : Option (Spanned Literal)
  deriving DecidableEq, Repr

/-- What an annotation declares, with a guard that has been checked. -/
structure Declaration where
  guard : Guard
  newUnchecked : Bool
  defaultValue : Option (Spanned Literal)
  deriving DecidableEq, Repr

namespace Feed

/-- The tokens of a whole text. -/
def ofTokens (tokens : List Token) (source : Text) : Feed :=
  { ahead := tokens.dropLast, last := tokens.getLastD (.endAt (.upTo .start 0)), source }

end Feed

namespace Family

/-- The record of an option that has been read. -/
def optionRead (keyword : Token) : Record :=
  ⟨.debug, "Parsed option " ++ String.ofList keyword.value ++ " at " ++ keyword.span.place⟩

/-- Read the options by a grammar and finish the draft. -/
def readOptions {S V D : Type} (grammar : Grammar S V D) (enabled : Capabilities) (feed : Feed)
    (guard : RawItems S V → RawGuard) (literal : D → Literal) :
    Log × Except Fault RawDeclaration :=
  let (outcome, progress) := grammar.options enabled feed
  let draft := progress.draft
  (progress.keywords.map optionRead,
    outcome.map fun _ =>
      ⟨guard draft.items, draft.newUnchecked, draft.defaultValue.map (·.map literal)⟩)

/-- Read the options of an annotation for a family. -/
def readRaw (family : Family) (enabled : Capabilities) (feed : Feed) :
    Log × Except Fault RawDeclaration :=
  match family with
  | string => readOptions (.ofStrings enabled) enabled feed .string .text
  | integer type =>
    readOptions (.ofIntegers type) enabled feed (.integer type) (.number ∘ .integer)
  | float type => readOptions (.ofFloats type) enabled feed (.float type) (.number ∘ .float)

end Family

namespace RawDeclaration

/-- Scan and read an annotation without checking its guard. -/
def parse (source : Text) (family : Family) (enabled : Capabilities) :
    Log × Except Fault RawDeclaration :=
  match tokenize source with
  | .error fault => ([], .error fault)
  | .ok tokens => family.readRaw enabled (.ofTokens tokens source)

/-- Check the guard of an annotation. -/
def check (raw : RawDeclaration) : Log × Except Fault Declaration :=
  let (log, outcome) := raw.guard.check
  (log, outcome.map fun guard => ⟨guard, raw.newUnchecked, raw.defaultValue⟩)

end RawDeclaration

namespace Declaration

/-- Read and check an annotation. -/
def parse (source : Text) (family : Family) (enabled : Capabilities) :
    Log × Except Fault Declaration :=
  let started : Record :=
    ⟨.debug, "Parsing " ++ family.name ++ " annotation: " ++ String.ofList source⟩
  match RawDeclaration.parse source family enabled with
  | (log, .error fault) => (started :: log, .error fault)
  | (log, .ok raw) =>
    let (further, outcome) := raw.check
    (started :: log ++ further, outcome)

end Declaration

end GuardLang

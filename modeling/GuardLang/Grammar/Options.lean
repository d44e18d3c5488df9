import GuardLang.Grammar.Item
import GuardLang.Guard

/-!
# Options

An annotation is a sequence of options, each at most once, with or without
commas between them: `sanitize(...)`, `validate(...)`, `default = ...` and
`new_unchecked`.  What stands in the groups is left to the grammar of a family.

Options are read one after the other into a draft.  When one is refused, what
was read before it is still known.
-/

namespace GuardLang

/-- What the options of an annotation say. -/
structure Draft (S V D : Type) where
  items : RawItems S V := {}
  newUnchecked : Bool := false
  defaultValue : Option (Spanned D) := none
  deriving DecidableEq, Repr

/-- The options of an annotation that have been read: their keywords, what they
say, and what lies ahead. -/
structure Progress (S V D : Type) where
  feed : Feed
  keywords : List Token := []
  draft : Draft S V D := {}
  deriving DecidableEq, Repr

namespace Grammar

variable {S V D : Type}

/-- The group behind a keyword. -/
def optionGroup (keyword : Token) : Parser Feed := do
  if ← Parser.isAt [.opening .round] then
    return (← Parser.group).item
  else Parser.failAt keyword.span (.expectedGroup keyword.value)

/-- What the option with the given keyword adds to a draft. -/
def optionValue (grammar : Grammar S V D) (enabled : Capabilities) (keyword : Token)
    (draft : Draft S V D) : Parser (Draft S V D) := do
  match (Keyword.ofName? (String.ofList keyword.value) : Option OptionKind) with
  | some .sanitize =>
    let inner ← optionGroup keyword
    let sanitizers ← Parser.within inner (Parser.punctuated grammar.sanitizer)
    return { draft with items := { draft.items with sanitizers } }
  | some .validate =>
    let inner ← optionGroup keyword
    let validators ← Parser.within inner (Parser.punctuated grammar.validator)
    return { draft with items := { draft.items with validators } }
  | some .default =>
    let _ ← Parser.expect .equals
    let value ← grammar.defaultValue
    return { draft with defaultValue := some value }
  | some .newUnchecked =>
    requireCapability enabled .newUnchecked keyword.span
    return { draft with newUnchecked := true }
  | none => Parser.failAt keyword.span (.unknownOption keyword.value)

/-- Take a comma if there is one. -/
def skipComma : Parser Unit := do
  if ← Parser.isAt [.comma] then
    let _ ← Parser.advance
    return
  else return

/-- Read one option, and the comma behind it, into a draft: its keyword and the
new draft.  The keywords of options that have been read must not come again. -/
def option (grammar : Grammar S V D) (enabled : Capabilities) (seen : List Token)
    (draft : Draft S V D) : Parser (Token × Draft S V D) := do
  let keyword ← Parser.advance
  if keyword.kind ≠ .identifier then
    Parser.failAt keyword.span (.expectedOption keyword.found)
  else if seen.any fun earlier => earlier.value == keyword.value then
    Parser.failAt keyword.span (.repeatedOption keyword.value)
  else
    let draft ← optionValue grammar enabled keyword draft
    skipComma
    return (keyword, draft)

/-- Read at most `fuel` options. -/
def optionsUpTo (grammar : Grammar S V D) (enabled : Capabilities) :
    Nat → Progress S V D → Except Fault Unit × Progress S V D
  | 0, progress => (.ok (), progress)
  | fuel + 1, progress =>
    if progress.feed.atEnd then (.ok (), progress)
    else
      match (option grammar enabled progress.keywords progress.draft).run progress.feed with
      | (.ok (keyword, draft), feed) =>
        optionsUpTo grammar enabled fuel ⟨feed, progress.keywords ++ [keyword], draft⟩
      | (.error fault, feed) => (.error fault, { progress with feed })

/-- Read the options of an annotation.  Each takes its keyword at least, so there
cannot be more of them than tokens. -/
def options (grammar : Grammar S V D) (enabled : Capabilities) (feed : Feed) :
    Except Fault Unit × Progress S V D :=
  optionsUpTo grammar enabled feed.ahead.length { feed }

end Grammar

end GuardLang

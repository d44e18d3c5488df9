import GuardLang.Fault
import GuardLang.Feed

/-!
# Parsers

A parser takes tokens from a feed and gives a value or a fault, together with
the feed it leaves behind.  After a fault the tokens taken before it stay taken;
`attempt` is the one operation that puts them back.

Next to the single steps stand the two constructions on which the grammar
rests: `group` splits off the tokens between two parentheses as a feed of their
own, and `punctuated` reads items between commas until a feed is used up.
-/

namespace GuardLang

/-- A parser of values of type `α`. -/
def Parser (α : Type) : Type := Feed → Except Fault α × Feed

namespace Parser

variable {α β : Type}

/-- Apply a parser to a feed. -/
def run (parser : Parser α) (feed : Feed) : Except Fault α × Feed := parser feed

instance : Monad Parser where
  pure value := fun feed => (.ok value, feed)
  bind parser next := fun feed =>
    match parser feed with
    | (.ok value, rest) => next value rest
    | (.error fault, rest) => (.error fault, rest)

@[simp] theorem run_pure (value : α) (feed : Feed) :
    (pure value : Parser α).run feed = (.ok value, feed) := rfl

@[simp] theorem run_bind (parser : Parser α) (next : α → Parser β) (feed : Feed) :
    (parser >>= next).run feed =
      match parser.run feed with
      | (.ok value, rest) => (next value).run rest
      | (.error fault, rest) => (.error fault, rest) := rfl

theorem id_map (parser : Parser α) : id <$> parser = parser := by
  funext feed
  change (match parser feed with
    | (.ok value, rest) => (.ok value, rest)
    | (.error fault, rest) => (.error fault, rest)) = parser feed
  rcases parser feed with ⟨_ | _, _⟩ <;> rfl

theorem bind_assoc {γ : Type} (parser : Parser α) (next : α → Parser β) (last : β → Parser γ) :
    parser >>= next >>= last = parser >>= fun value => next value >>= last := by
  funext feed
  change (match (match parser feed with
      | (.ok value, rest) => next value rest
      | (.error fault, rest) => (.error fault, rest)) with
    | (.ok value, rest) => last value rest
    | (.error fault, rest) => (.error fault, rest)) = _
  simp only [bind]
  rcases parser feed with ⟨_ | _, _⟩ <;> rfl

instance : LawfulMonad Parser := .mk' Parser id_map (fun _ _ => rfl) bind_assoc

/-- Two steps give a value exactly when the first gives one and the second,
where the first left off, gives this one. -/
theorem run_bind_eq_ok_iff {parser : Parser α} {next : α → Parser β} {feed rest : Feed}
    {value : β} :
    (parser >>= next).run feed = (.ok value, rest) ↔
      ∃ first middle, parser.run feed = (.ok first, middle) ∧
        (next first).run middle = (.ok value, rest) := by
  rw [run_bind]
  rcases parser.run feed with ⟨fault | first, middle⟩
  · simp
  · constructor
    · intro second
      exact ⟨first, middle, rfl, second⟩
    · rintro ⟨_, _, same, second⟩
      cases same
      exact second

/-! ## Single steps -/

/-- Refuse the annotation. -/
def fail (fault : Fault) : Parser α := fun feed => (.error fault, feed)

/-- Refuse the annotation for a cause at a place. -/
def failAt (span : Span) (cause : Cause) : Parser α := fail (.located cause span)

/-- What lies ahead. -/
def feed : Parser Feed := fun feed => (.ok feed, feed)

/-- The next token, which is not taken. -/
def current : Parser Token := fun feed => (.ok feed.current, feed)

/-- Take the next token. -/
def advance : Parser Token := fun feed => (.ok feed.advance.1, feed.advance.2)

/-- Whether the next token has one of the given kinds. -/
def isAt (kinds : List TokenKind) : Parser Bool := fun feed =>
  (.ok (kinds.contains feed.current.kind), feed)

/-- Whether the tokens are used up. -/
def atEnd : Parser Bool := fun feed => (.ok feed.atEnd, feed)

/-- Take a token of the given kind. -/
def expect (kind : TokenKind) : Parser Token := do
  let token ← current
  if token.kind = kind then advance
  else failAt token.span (.expectedToken kind token.found)

@[simp] theorem run_fail (fault : Fault) (feed : Feed) :
    (fail fault : Parser α).run feed = (.error fault, feed) := rfl

@[simp] theorem run_failAt (span : Span) (cause : Cause) (feed : Feed) :
    (failAt span cause : Parser α).run feed = (.error (.located cause span), feed) := rfl

@[simp] theorem run_feed (given : Feed) : feed.run given = (.ok given, given) := rfl

@[simp] theorem run_current (feed : Feed) : current.run feed = (.ok feed.current, feed) := rfl

@[simp] theorem run_advance (feed : Feed) :
    advance.run feed = (.ok feed.current, feed.advance.2) := by
  change (Except.ok feed.advance.1, feed.advance.2) = _
  rw [Feed.advance_fst]

/-- A token is taken if it has the kind that was expected, and otherwise left. -/
theorem run_expect (kind : TokenKind) (feed : Feed) :
    (expect kind).run feed =
      if feed.current.kind = kind then (.ok feed.current, feed.advance.2)
      else (.error (.located (.expectedToken kind feed.current.found) feed.current.span),
        feed) := by
  unfold expect
  rw [run_bind, run_current]
  dsimp only
  split
  · exact run_advance feed
  · rfl

/-- Turn an outcome into a step that takes nothing. -/
def ofExcept (outcome : Except Fault α) : Parser α := fun feed => (outcome, feed)

/-- Take tokens by a function of what lies ahead; it gives an outcome and the
number of tokens to take. -/
def takeBy (take : Feed → Except Fault α × Nat) : Parser α := fun feed =>
  let (outcome, taken) := take feed
  (outcome, feed.skip taken)

@[simp] theorem run_takeBy (take : Feed → Except Fault α × Nat) (feed : Feed) :
    (takeBy take).run feed = ((take feed).1, feed.skip (take feed).2) := rfl

/-- Try one way to read what is ahead.  If the grammar does not allow it, nothing
is taken and nothing read. -/
def attempt (parser : Parser α) : Parser (Option α) := fun feed =>
  match parser feed with
  | (.ok value, rest) => (.ok (some value), rest)
  | (.error fault, rest) =>
    if fault.isGrammatical then (.ok none, feed) else (.error fault, rest)

/-! ## Groups -/

/-- Split tokens at the closing bracket of a group whose opening bracket stands
in front of them: the tokens inside, the closing bracket and the tokens behind
it.  Only the number of brackets counts, not their kinds. -/
def splitGroup (depth : Nat) : List Token → Option (List Token × Token × List Token)
  | [] => none
  | token :: rest =>
    if token.kind = .eof then none
    else if token.kind.isClosing ∧ depth = 0 then some ([], token, rest)
    else
      let depth :=
        if token.kind.isOpening then depth + 1
        else if token.kind.isClosing then depth - 1
        else depth
      (splitGroup depth rest).map fun (inner, closer, after) => (token :: inner, closer, after)

/-- Splitting loses no token. -/
theorem eq_append_of_splitGroup {depth : Nat} {tokens inner rest : List Token} {closer : Token}
    (h : splitGroup depth tokens = some (inner, closer, rest)) :
    tokens = inner ++ closer :: rest := by
  induction tokens generalizing depth inner with
  | nil => cases h
  | cons token tokens ih =>
    unfold splitGroup at h
    split at h
    · cases h
    split at h
    · cases h
      rfl
    · obtain ⟨⟨more, _, _⟩, split, same⟩ := Option.map_eq_some_iff.1 h
      cases same
      rw [ih split]
      rfl

/-- Take a group in parentheses: the feed of the tokens inside it, which ends at
the closing bracket, and the span of the whole group.  If the last token of all
is a closing bracket, it closes every group that is still open; no more can be
open than there are tokens. -/
def group : Parser (Spanned Feed) := do
  let opener ← expect (.opening .round)
  takeBy fun feed =>
    match splitGroup 0 (feed.window (feed.ahead.length + 1)) with
    | some (inner, closer, _) =>
      (.ok ⟨{ ahead := inner, last := .endAt closer.span.opening, source := feed.source },
          opener.span.join closer.span⟩,
        inner.length + 1)
    | none =>
      (.error (.located (.unclosed ['(']) opener.span),
        (feed.ahead.takeWhile fun token => token.kind != .eof).length)

/-- Apply a parser to a feed of its own. -/
def within (inner : Feed) (parser : Parser α) : Parser α := ofExcept (parser inner).1

/-! ## Lists -/

/-- Read at most `fuel` items. -/
def punctuatedUpTo (item : Parser α) : Nat → Parser (List α)
  | 0 => pure []
  | fuel + 1 => do
    if ← atEnd then return []
    let first ← item
    if ← atEnd then return [first]
    let _ ← expect .comma
    return first :: (← punctuatedUpTo item fuel)

/-- Read items up to the end, with a comma between each two and perhaps one
behind the last.  Each but the last takes a comma, so there cannot be more items
than tokens. -/
def punctuated (item : Parser α) : Parser (List α) := do
  punctuatedUpTo item ((← feed).ahead.length + 1)

end Parser

end GuardLang

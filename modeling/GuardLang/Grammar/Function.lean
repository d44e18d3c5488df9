import GuardLang.Function
import GuardLang.Grammar.Path

/-!
# Functions

A function is a path or a closure.  The body of a closure goes on to the next
comma outside all brackets, or to the end of the group that the closure stands
in, and is kept as it is written.
-/

namespace GuardLang.Grammar

/-- How a token changes the number of open brackets. -/
def depthChange (kind : TokenKind) : Int :=
  if kind.isOpening then 1 else if kind.isClosing then -1 else 0

/-- The number of tokens of a closure's body, at a place where `depth` brackets
are open. -/
def bodyLength (depth : Int) : List Token → Nat
  | [] => 0
  | token :: rest =>
    if token.kind = .eof ∨ (depth = 0 ∧ token.kind = .comma) then 0
    else bodyLength (depth + depthChange token.kind) rest + 1

/-- The span of a run of tokens. -/
def spanOf? : List Token → Option Span
  | [] => none
  | first :: rest => some (rest.foldl (fun span token => span.join token.span) first.span)

/-- The span of a closure's body, if it has one. -/
def closureBody : Parser (Option Span) :=
  Parser.takeBy fun feed =>
    let length := bodyLength 0 feed.ahead
    (.ok (spanOf? (feed.ahead.take length)), length)

/-- A closure: a parameter between bars, perhaps with a type, and a body. -/
def closure : Parser FunctionRef := do
  let opening ← Parser.expect .pipe
  let param ← Parser.expect .identifier
  let paramType ← do
    if ← Parser.isAt [.colon] then
      let _ ← Parser.advance
      let annotated ← type
      pure (some annotated.item)
    else pure none
  let closing ← Parser.expect .pipe
  let body ← closureBody
  let feed ← Parser.feed
  match body with
  | none => Parser.failAt closing.span .expectedClosureBody
  | some body =>
    return { form := .closure
             param := some param.value
             paramType
             body := some (body.text feed.source)
             span := opening.span.join body }

/-- A function: a path or a closure. -/
def function : Parser FunctionRef := do
  if ← Parser.isAt [.identifier] then
    let named ← path
    return { form := .path, path := some named.item, span := named.span }
  if ← Parser.isAt [.pipe] then
    closure
  else
    let token ← Parser.current
    Parser.failAt token.span (.expectedFunction token.found)

/-- A function for a slot that hands it values of the expected type. -/
def typedFunction (expected : Text) : Parser (Spanned BoundFunction) := do
  let reference ← function
  let bound ← Parser.ofExcept (reference.bind expected)
  return ⟨bound, reference.span⟩

end GuardLang.Grammar

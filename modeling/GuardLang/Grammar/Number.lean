import GuardLang.Number.Type
import GuardLang.Parser

/-!
# Number literals

A number is a literal with or without a minus sign in front.  The scanner leaves
the sign a token of its own, so blanks may stand between the two.
-/

namespace GuardLang.Grammar

/-- A sign, the literal behind it and the span of both. -/
structure SignedLiteral where
  sign : Text
  literal : Token
  span : Span
  deriving DecidableEq, Repr

/-- Take a literal and the sign in front of it.  Any token passes for a literal
here. -/
def signedLiteral : Parser SignedLiteral := do
  let first ← Parser.advance
  if first.kind = .eof then
    Parser.failAt first.span .expectedNumber
  else if first.kind = .minus then
    let second ← Parser.advance
    if second.kind = .eof then Parser.failAt first.span .expectedNumberAfterMinus
    else return ⟨first.value, second, first.span.join second.span⟩
  else return ⟨[], first, first.span⟩

/-- A number of the given type.  Underscores in the literal do not count. -/
def number {α : Type} (type : LiteralType α) : Parser (Spanned α) := do
  let read ← signedLiteral
  let feed ← Parser.feed
  let written := read.sign ++ read.literal.span.text feed.source
  let mismatch := Fault.located (.numberMismatch type.name written) read.span
  if read.literal.kind ≠ .number then
    Parser.fail mismatch
  else match type.read (read.sign ++ Number.withoutUnderscores read.literal.value) with
    | .ok value => return ⟨value, read.span⟩
    | .error _ => Parser.fail mismatch

/-- A number behind an equals sign.  Whoever reads one has seen the sign; to find
anything else is a mistake in the grammar, not in the annotation. -/
def assignedNumber {α : Type} (type : LiteralType α) : Parser (Spanned α) := do
  let token ← Parser.advance
  if token.kind = .equals then number type
  else Parser.fail (.unlocated (.missingEquals token.found))

end GuardLang.Grammar

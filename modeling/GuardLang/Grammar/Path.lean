import GuardLang.Parser

/-!
# Paths and types

A path is a sequence of names with `.` or `::` between them.  A type is a path,
or a reference to one: an ampersand, perhaps a lifetime, and a path.
-/

namespace GuardLang.Grammar

/-- Whether a token stands between two names of a path. -/
def isSeparator (kind : TokenKind) : Bool := kind == .dot || kind == .pathSep

/-- The path that begins with `read` and goes on with the names in front of the
given tokens, each behind a separator, and the number of tokens it takes.  A
separator calls for a name. -/
def segments (read : Spanned Text) : List Token → Except Fault (Spanned Text) × Nat
  | separator :: name :: more =>
    if isSeparator separator.kind then
      if name.kind = .identifier then
        let (outcome, taken) :=
          segments ⟨read.item ++ separator.value ++ name.value, read.span.join name.span⟩ more
        (outcome, taken + 2)
      else (.error (.located (.expectedToken .identifier name.found) name.span), 1)
    else (.ok read, 0)
  | _ => (.ok read, 0)

/-- A path.  A separator and the name behind it are looked at together, and the
last token of all cannot be both, so two copies of it are enough. -/
def path : Parser (Spanned Text) := do
  let first ← Parser.expect .identifier
  Parser.takeBy fun feed => segments ⟨first.value, first.span⟩ (feed.window 2)

/-- A type.  A lifetime is kept with one space behind it. -/
def type : Parser (Spanned Text) := do
  if ← Parser.isAt [.ampersand] then
    let ampersand ← Parser.advance
    let lifetime ← do
      if ← Parser.isAt [.lifetime] then
        let token ← Parser.advance
        pure (token.value ++ [' '])
      else pure []
    let referent ← path
    return ⟨'&' :: lifetime ++ referent.item, ampersand.span.join referent.span⟩
  else path

end GuardLang.Grammar

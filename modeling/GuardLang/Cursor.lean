import GuardLang.Feed
import GuardLang.Parser

/-!
# Cursors

A cursor is a place in a list of tokens.  It can be moved anywhere, also past
the end, where it sees the last token.  A parser is applied to a cursor by way
of the tokens from its place on, and moves it past the tokens it takes; past the
end it goes on unless the last token marks the end.
-/

namespace GuardLang

/-- A place among tokens, the last of which stands apart. -/
structure Cursor where
  tokens : List Token
  last : Token
  source : Text
  index : Nat := 0
  deriving DecidableEq, Repr

namespace Cursor

/-- A cursor in front of tokens of which there is at least one. -/
def ofTokens? (tokens : List Token) (source : Text) : Option Cursor :=
  tokens.getLast?.map fun last => { tokens := tokens.dropLast, last, source }

/-- A cursor in front of a feed. -/
def ofFeed (feed : Feed) : Cursor :=
  { tokens := feed.ahead, last := feed.last, source := feed.source }

/-- The tokens from a cursor's place on. -/
def feed (cursor : Cursor) : Feed :=
  { cursor with ahead := cursor.tokens.drop cursor.index }

/-- The token at an index. -/
def get (cursor : Cursor) (index : Nat) : Token := cursor.tokens.getD index cursor.last

/-- Apply a parser from a cursor's place on. -/
def run {α : Type} (cursor : Cursor) (parser : Parser α) : Except Fault α × Cursor :=
  let (outcome, rest) := parser.run cursor.feed
  (outcome, { cursor with index := rest.index })

end Cursor

end GuardLang

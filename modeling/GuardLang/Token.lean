import GuardLang.Span
import GuardLang.Text.Quoted

/-!
# Tokens

The words and marks of an annotation.  A token keeps what it stands for, which
for string and character literals is the text without quotes and escapes, and
the span of the characters it was read from.

The three bracket pairs are one type, so that matching an opening token with a
closing one is comparing two brackets.
-/

namespace GuardLang

/-- The three kinds of brackets. -/
inductive Bracket where
  | round
  | square
  | curly
  deriving DecidableEq, Repr

/-- The kinds of tokens. -/
inductive TokenKind where
  | identifier
  | string
  | char
  | number
  | lifetime
  | equals
  | minus
  | comma
  | dot
  | colon
  | pathSep
  | pipe
  | ampersand
  | opening (bracket : Bracket)
  | closing (bracket : Bracket)
  | operator
  | eof
  deriving DecidableEq, Repr

namespace TokenKind

/-- Every kind of token. -/
def all : List TokenKind :=
  [identifier, string, char, number, lifetime, equals, minus, comma, dot, colon, pathSep, pipe,
   ampersand, opening .round, closing .round, opening .square, closing .square, opening .curly,
   closing .curly, operator, eof]

/-- The name of a kind. -/
def name : TokenKind → String
  | identifier => "IDENTIFIER"
  | string => "STRING"
  | char => "CHAR"
  | number => "NUMBER"
  | lifetime => "LIFETIME"
  | equals => "EQUALS"
  | minus => "MINUS"
  | comma => "COMMA"
  | dot => "DOT"
  | colon => "COLON"
  | pathSep => "PATH_SEP"
  | pipe => "PIPE"
  | ampersand => "AMPERSAND"
  | opening .round => "LPAREN"
  | closing .round => "RPAREN"
  | opening .square => "LBRACKET"
  | closing .square => "RBRACKET"
  | opening .curly => "LBRACE"
  | closing .curly => "RBRACE"
  | operator => "OPERATOR"
  | eof => "EOF"

/-- The kind with a given name. -/
def ofName? (name : String) : Option TokenKind := all.find? fun kind => kind.name == name

/-- How a message names a kind that was expected: by the mark itself where the
kind has only one. -/
def symbol : TokenKind → String
  | equals => "="
  | minus => "-"
  | comma => ","
  | dot => "."
  | colon => ":"
  | pathSep => "::"
  | pipe => "|"
  | ampersand => "&"
  | opening .round => "("
  | closing .round => ")"
  | opening .square => "["
  | closing .square => "]"
  | opening .curly => "\x7b"
  | closing .curly => "\x7d"
  | kind => kind.name

/-- Whether a token of this kind opens a group. -/
def isOpening : TokenKind → Bool
  | opening _ => true
  | _ => false

/-- Whether a token of this kind closes a group. -/
def isClosing : TokenKind → Bool
  | closing _ => true
  | _ => false

end TokenKind

/-- A token: its kind, what it stands for and where it was read. -/
structure Token where
  kind : TokenKind
  value : Text
  span : Span
  deriving DecidableEq, Repr

/-- What a message says was found where something else was expected. -/
inductive Found where
  | endOfInput
  | token (value : Text)
  deriving DecidableEq, Repr

namespace Found

/-- The words for what was found. -/
def describe : Found → String
  | endOfInput => "end of input"
  | token value => "`" ++ String.ofList value ++ "`"

end Found

namespace Token

/-- The token at the end of a token list. -/
def endAt (span : Span) : Token := ⟨.eof, [], span⟩

/-- What a message says when this token was not expected. -/
def found (token : Token) : Found :=
  if token.kind = .eof then .endOfInput else .token token.value

/-- A token as it is listed: kind, quoted value, line and column. -/
def summary (token : Token) : String :=
  "Token(" ++ token.kind.name ++ ", " ++ String.ofList token.value.quoted ++ ", " ++
    token.span.place ++ ")"

end Token

end GuardLang

import GuardLang.Lexeme.Reading
import GuardLang.Text.Word

/-!
# String and character literals

Strings stand between double quotes, with seven escapes, or in raw form
`r#"..."#` with any number of hashes and no escapes.  A single quote begins a
character literal or a lifetime such as `'static`.

The readers take the first character as the opening mark without looking at it:
whoever calls them has seen it.
-/

namespace GuardLang.Lexeme

/-! ## Escapes -/

/-- What an escape stands for, by the character behind its backslash. -/
def unescape? (c : Char) : Option Char :=
  match c with
  | 'n' => some '\n'
  | 't' => some '\t'
  | 'r' => some '\r'
  | '0' => some '\x00'
  | '\\' => some '\\'
  | '"' => some '"'
  | '\x27' => some '\x27'
  | _ => none

/-- Read an escape from its backslash on.  At the end of the text nothing is
behind the backslash and nothing is read. -/
def readEscape : Text → Reading (Option Char)
  | _ :: c :: _ =>
    match unescape? c with
    | some meaning => ⟨2, .ok (some meaning)⟩
    | none => .failed 1 (.unknownEscape c) 0 2
  | text => ⟨text.length, .ok none⟩

/-! ## Strings -/

/-- What ends the body of a string. -/
inductive BodyEnd where
  | quote
  | endOfText
  | unknownEscape (c : Char)
  deriving DecidableEq, Repr

/-- The body of a string up to what ends it: the text it stands for and the
number of characters it is written with. -/
structure Body where
  value : Text
  length : Nat
  ending : BodyEnd
  deriving DecidableEq, Repr

namespace Body

/-- Put a character that is written with `length` characters in front. -/
def cons (c : Char) (length : Nat) (body : Body) : Body :=
  { body with value := c :: body.value, length := body.length + length }

/-- The body that a text begins with. -/
def read : Text → Body
  | [] => ⟨[], 0, .endOfText⟩
  | c :: rest =>
    if c = '"' then ⟨[], 0, .quote⟩
    else if c = '\\' then
      match rest with
      | [] => ⟨[], 0, .endOfText⟩
      | escaped :: rest =>
        match unescape? escaped with
        | some meaning => cons meaning 2 (read rest)
        | none => ⟨[], 0, .unknownEscape escaped⟩
    else cons c 1 (read rest)

end Body

/-- Read a string between double quotes. -/
def readString (text : Text) : Reading Text :=
  let body := Body.read (text.drop 1)
  match body.ending with
  | .quote => ⟨body.length + 2, .ok body.value⟩
  | .endOfText => .failed text.length .unterminatedString 0 text.length
  | .unknownEscape c =>
    .failed (body.length + 2) (.unknownEscape c) (body.length + 1) (body.length + 3)

/-! ## Raw strings -/

/-- Whether a raw string begins here: behind the first character stand hashes,
or none, and a double quote. -/
def opensRaw (text : Text) : Bool :=
  ((text.drop 1).dropWhile (· == '#')).head? == some '"'

/-- Read a raw string.  It ends at the first double quote that as many hashes
follow as stand in front of it. -/
def readRaw (text : Text) : Reading Text :=
  let hashes := (text.drop 1).takeWhile (· == '#')
  let body := text.drop (hashes.length + 2)
  match Text.indexOf? ('"' :: hashes) body with
  | some length => ⟨hashes.length + 2 + length + (hashes.length + 1), .ok (body.take length)⟩
  | none =>
    .failed (min text.length (hashes.length + 2)) .unterminatedRawString 0 text.length

/-! ## Characters and lifetimes -/

/-- The word that a text begins with. -/
def wordOf (text : Text) : Text := text.takeWhile Text.continuesWord

/-- Read a character literal up to its closing quote, which has to stand behind
the first `taken` characters. -/
def closeCharacter (text : Text) (taken : Nat) (value : Char) : Reading (TokenKind × Text) :=
  if (text.drop taken).head? = some '\x27' then ⟨taken + 1, .ok (.char, [value])⟩
  else .failed taken .unterminatedCharacter 0 taken

/-- Read a character literal or a lifetime.  A character and a closing quote
make a literal even where a lifetime could begin. -/
def readCharacter (text : Text) : Reading (TokenKind × Text) :=
  match text.drop 1 with
  | [] => .failed text.length .unterminatedCharacter 0 text.length
  | c :: rest =>
    if c = '\\' then
      match rest with
      | [] => .failed 2 .unterminatedCharacter 0 2
      | escaped :: _ =>
        match unescape? escaped with
        | some meaning => closeCharacter text 3 meaning
        | none => .failed 2 (.unknownEscape escaped) 1 3
    else if c ≠ '\x27' ∧ rest.head? = some '\x27' then ⟨3, .ok (.char, [c])⟩
    else if Text.startsWord c then
      let word := wordOf (c :: rest)
      ⟨word.length + 1, .ok (.lifetime, '\x27' :: word)⟩
    else .failed 1 .unterminatedCharacter 0 1

end GuardLang.Lexeme

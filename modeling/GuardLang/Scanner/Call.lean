import GuardLang.Scanner

/-!
# Calls on a scanner

Every operation of a scanner as a value, so that a scan can be driven step by
step and from any place.  Readers do not check that they stand in front of what
they read: a string reader takes one character as the opening quote whatever it
is.  A scanner can be called again after a fault.
-/

namespace GuardLang.Scanner

/-- An operation of a scanner. -/
inductive Call where
  | peek (offset : Int)
  | advance (times : Nat)
  | skipBlanks
  | readString
  | readEscape
  | opensRaw
  | readRaw
  | readCharacter
  | readNumber
  | readWord
  | track (token : Token)
  | tokenize
  deriving DecidableEq, Repr

/-- What an operation answers. -/
inductive Answer where
  | nothing
  | char (c : Option Char)
  | text (value : Text)
  | flag (value : Bool)
  | lexeme (kind : TokenKind) (value : Text)
  /-- The number of tokens found so far. -/
  | count (tokens : Nat)
  deriving DecidableEq, Repr

/-- Carry out one operation. -/
def call (scanner : Scanner) : Call → Except Fault Answer × Scanner
  | .peek offset => (.ok (.char (scanner.peek offset)), scanner)
  | .advance times => (.ok .nothing, scanner.skip times)
  | .skipBlanks => (.ok .nothing, scanner.skipBlanks)
  | .readString => scanner.accept ((Lexeme.readString scanner.rest).map .text)
  | .readEscape =>
    scanner.accept ((Lexeme.readEscape scanner.rest).map fun c => .text c.toList)
  | .opensRaw => (.ok (.flag (Lexeme.opensRaw scanner.rest)), scanner)
  | .readRaw => scanner.accept ((Lexeme.readRaw scanner.rest).map .text)
  | .readCharacter =>
    scanner.accept ((Lexeme.readCharacter scanner.rest).map fun (kind, value) =>
      .lexeme kind value)
  | .readNumber =>
    let number := Lexeme.numberOf scanner.rest
    scanner.accept ⟨number.length, .ok (.text number)⟩
  | .readWord =>
    let word := Lexeme.wordOf scanner.rest
    scanner.accept ⟨word.length, .ok (.text word)⟩
  | .track token =>
    let (outcome, after) := scanner.track token
    (outcome.map fun _ => .nothing, after)
  | .tokenize =>
    let (outcome, after) := scanner.run
    (outcome.map fun _ => .count after.tokens.size, after)

/-- Carry out operations in turn, whatever they answer: each outcome with the
scanner it leaves behind. -/
def calls (scanner : Scanner) : List Call → List (Except Fault Answer × Scanner)
  | [] => []
  | call :: rest =>
    let step := scanner.call call
    step :: step.2.calls rest

/-- The values of the open brackets, outermost first. -/
def openedText (scanner : Scanner) : Text := scanner.opened.reverse.flatMap (·.value)

end GuardLang.Scanner

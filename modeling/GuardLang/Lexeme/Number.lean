import GuardLang.Text

/-!
# Number literals

A number is a run of digits, then a point with a further run, then an exponent;
the last two are optional and each is taken only if a digit follows its mark.
So `1.max(2)` is the number `1` and a method call, and `1e` is the number `1`
and a word.  Underscores may stand between and behind digits.

What a literal means for the type it is used with is decided elsewhere.
-/

namespace GuardLang.Lexeme

/-- Whether a run of digits can go on with the character. -/
def continuesRun (c : Char) : Bool := c.isDigit || c == '_'

/-- The number of characters of the run that a text begins with. -/
def runLength (text : Text) : Nat := (text.takeWhile continuesRun).length

/-- Whether a text begins with a digit. -/
def startsDigit (text : Text) : Bool := text.head?.any Char.isDigit

/-- The number of characters of the fraction that a text begins with. -/
def fractionLength : Text → Nat
  | [] => 0
  | c :: rest => if c = '.' ∧ startsDigit rest then runLength rest + 1 else 0

/-- The number of sign characters in front of an exponent's digits. -/
def signLength (text : Text) : Nat :=
  if text.head? = some '+' ∨ text.head? = some '-' then 1 else 0

/-- The number of characters of the exponent that a text begins with. -/
def exponentLength : Text → Nat
  | [] => 0
  | c :: rest =>
    let digits := rest.drop (signLength rest)
    if (c = 'e' ∨ c = 'E') ∧ startsDigit digits then
      runLength digits + signLength rest + 1
    else 0

/-- The number of characters of the number that a text begins with. -/
def numberLength (text : Text) : Nat :=
  let whole := runLength text
  let fraction := fractionLength (text.drop whole)
  whole + fraction + exponentLength (text.drop (whole + fraction))

/-- The number that a text begins with, as written. -/
def numberOf (text : Text) : Text := text.take (numberLength text)

end GuardLang.Lexeme

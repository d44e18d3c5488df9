import GuardLang.Binary64
import GuardLang.Number.Fault
import GuardLang.Text.Blank
import GuardLang.Text.Digit

/-!
# Reading numbers

Texts are read as numbers more freely than annotations are: blanks may surround
them, they may carry either sign, a single underscore may stand between two
digits, and the digits may belong to any script.  An integer is a run of digits;
a decimal may also have a point and an exponent, or be one of the words for
infinity and for no number.
-/

namespace GuardLang.Number

/-! ## Shared parts -/

/-- Whether a character may surround a number: a blank that is no information
separator. -/
def isPadding (c : Char) : Bool :=
  Text.isBlank c && !(0x1c ≤ c.toNat && c.toNat ≤ 0x1f)

/-- A text without the padding around it. -/
def trim (text : Text) : Text :=
  ((text.dropWhile isPadding).reverse.dropWhile isPadding).reverse

/-- Whether a text begins with a minus sign, and what follows its sign. -/
def splitSign : Text → Bool × Text
  | '-' :: rest => (true, rest)
  | '+' :: rest => (false, rest)
  | text => (false, text)

/-- Whether a character is a decimal digit. -/
def isDigit (c : Char) : Bool := (Text.digitValue? c).isSome

/-- The number that digits stand for; other characters do not count. -/
def ofDigits (digits : Text) : Nat :=
  (digits.filterMap Text.digitValue?).foldl (fun n d => 10 * n + d) 0

/-- Whether every underscore stands between two digits; `digit` tells whether
one stands in front of the text. -/
def underscoresFit (digit : Bool) : Text → Bool
  | [] => true
  | c :: rest =>
    if c = '_' then digit && (rest.head?.any isDigit) && underscoresFit false rest
    else underscoresFit (isDigit c) rest

/-- A text without its underscores. -/
def withoutUnderscores (text : Text) : Text := text.filter (· != '_')

/-! ## Integers -/

/-- Read an integer.  Its number of digits is limited, leading zeros counted,
and the limit is checked before what follows the digits. -/
def readInteger (text : Text) : Except NumberFault Int :=
  let (negative, body) := splitSign (trim text)
  let run := body.takeWhile fun c => isDigit c || c == '_'
  let digits := withoutUnderscores run
  if digits.isEmpty || !underscoresFit false run then .error (.notInteger text)
  else if NumberFault.maxDigits < digits.length then .error (.tooManyDigits digits.length)
  else if run.length < body.length then .error (.notInteger text)
  else .ok (if negative then -(ofDigits digits : Int) else ofDigits digits)

/-! ## Decimals -/

/-- Read an exponent up to the end of the text; there may be none. -/
def readExponent : Text → Option Int
  | [] => some 0
  | c :: rest =>
    let (negative, digits) := splitSign rest
    if (c = 'e' ∨ c = 'E') ∧ !digits.isEmpty ∧ digits.all isDigit then
      some (if negative then -(ofDigits digits : Int) else ofDigits digits)
    else none

/-- Read digits, with or without a point among them, and an exponent. -/
def readFinite (negative : Bool) (text : Text) : Option Binary64 :=
  let whole := text.takeWhile isDigit
  let rest := text.dropWhile isDigit
  let fraction := if rest.head? = some '.' then (rest.drop 1).takeWhile isDigit else []
  let rest := if rest.head? = some '.' then (rest.drop 1).dropWhile isDigit else rest
  if whole.isEmpty && fraction.isEmpty then none
  else (readExponent rest).map fun exponent =>
    .ofDecimal negative (ofDigits (whole ++ fraction)) (exponent - fraction.length)

/-- Read a decimal or one of the words, in which case does not matter. -/
def readMagnitude (negative : Bool) (text : Text) : Option Binary64 :=
  let word := String.ofList (text.map Char.toLower)
  if word = "inf" ∨ word = "infinity" then some (.infinite negative)
  else if word = "nan" then some .nan
  else readFinite negative text

/-- Read a double. -/
def readDouble (text : Text) : Except NumberFault Binary64 :=
  let (negative, body) := splitSign (trim (withoutUnderscores text))
  match if underscoresFit false text then readMagnitude negative body else none with
  | some number => .ok number
  | none => .error (.notDecimal text)

end GuardLang.Number

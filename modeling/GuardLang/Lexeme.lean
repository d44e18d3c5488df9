import GuardLang.Lexeme.Literal
import GuardLang.Lexeme.Number

/-!
# Lexemes

What the next token is depends on the characters in front alone: a quote, a
digit, a letter or a mark.  `Lexeme.read` tells the forms apart by their first
character, looking ahead only as far as a form needs, and reads the one it
finds.

Main statement: a lexeme that is read takes at least one character, so scanning
always comes to an end.
-/

namespace GuardLang

/-- A token without its place. -/
structure Lexeme where
  kind : TokenKind
  value : Text
  deriving DecidableEq, Repr

namespace Lexeme

/-! ## Marks and operators -/

/-- The operators of two characters. -/
def pairOperators : List (Char × Char) :=
  [('=', '='), ('!', '='), ('<', '='), ('>', '='), ('&', '&'), ('|', '|'), ('-', '>'), ('=', '>'),
   ('+', '='), ('-', '=')]

/-- The operators of one character that are no marks. -/
def singleOperators : List Char := ['+', '*', '/', '%', '<', '>', '!', '^', '?', ';', '~']

/-- The kind of a mark of one character. -/
def markKind? (c : Char) : Option TokenKind :=
  match c with
  | '=' => some .equals
  | '-' => some .minus
  | ',' => some .comma
  | '.' => some .dot
  | ':' => some .colon
  | '|' => some .pipe
  | '&' => some .ampersand
  | '(' => some (.opening .round)
  | ')' => some (.closing .round)
  | '[' => some (.opening .square)
  | ']' => some (.closing .square)
  | '\x7b' => some (.opening .curly)
  | '\x7d' => some (.closing .curly)
  | _ => none

/-- The mark or operator of two characters. -/
def pair? (c d : Char) : Option Lexeme :=
  if c = ':' ∧ d = ':' then some ⟨.pathSep, [c, d]⟩
  else if pairOperators.contains (c, d) then some ⟨.operator, [c, d]⟩
  else none

/-- The mark or operator of one character. -/
def single? (c : Char) : Option Lexeme :=
  match markKind? c with
  | some kind => some ⟨kind, [c]⟩
  | none => if singleOperators.contains c then some ⟨.operator, [c]⟩ else none

/-- The mark or operator that a text begins with; two characters are taken
together wherever they can be. -/
def symbol? (c : Char) (rest : Text) : Option Lexeme :=
  (rest.head?.bind (pair? c)).or (single? c)

/-! ## All forms -/

/-- Read the lexeme that begins with the character `c`. -/
def read (c : Char) (rest : Text) : Reading Lexeme :=
  if c = '"' then (readString (c :: rest)).map (⟨.string, ·⟩)
  else if c = 'r' ∧ opensRaw (c :: rest) then (readRaw (c :: rest)).map (⟨.string, ·⟩)
  else if c = '\x27' then (readCharacter (c :: rest)).map fun (kind, value) => ⟨kind, value⟩
  else if c.isDigit then
    let number := numberOf (c :: rest)
    ⟨number.length, .ok ⟨.number, number⟩⟩
  else if Text.startsWord c then
    let word := wordOf (c :: rest)
    ⟨word.length, .ok ⟨.identifier, word⟩⟩
  else match symbol? c rest with
    | some symbol => ⟨symbol.value.length, .ok symbol⟩
    | none => .failed 0 (.unexpectedCharacter c) 0 1

/-! ## Progress -/

theorem single?_ne_nil {c : Char} {symbol : Lexeme} (h : single? c = some symbol) :
    symbol.value ≠ [] := by
  unfold single? at h
  split at h
  · cases h; simp
  · split at h <;> cases h; simp

theorem pair?_ne_nil {c d : Char} {symbol : Lexeme} (h : pair? c d = some symbol) :
    symbol.value ≠ [] := by
  unfold pair? at h
  split at h
  · cases h; simp
  · split at h <;> cases h; simp

theorem symbol?_ne_nil {c : Char} {rest : Text} {symbol : Lexeme}
    (h : symbol? c rest = some symbol) : symbol.value ≠ [] := by
  rcases Option.or_eq_some_iff.1 h with h | ⟨_, h⟩
  · obtain ⟨d, _, h⟩ := Option.bind_eq_some_iff.1 h
    exact pair?_ne_nil h
  · exact single?_ne_nil h

/-- A string takes the quote it begins with. -/
theorem readString_taken_pos (c : Char) (rest : Text) : 0 < (readString (c :: rest)).taken := by
  simp only [readString]
  split <;> simp [Reading.failed]

/-- A raw string takes the letter it begins with. -/
theorem readRaw_taken_pos (c : Char) (rest : Text) : 0 < (readRaw (c :: rest)).taken := by
  simp only [readRaw]
  split
  · dsimp only
    omega
  · simp only [Reading.failed, List.length_cons]
    omega

/-- A character literal or lifetime takes the quote it begins with. -/
theorem readCharacter_taken_pos (c : Char) (rest : Text) :
    0 < (readCharacter (c :: rest)).taken := by
  unfold readCharacter closeCharacter
  repeat' split
  all_goals simp [Reading.failed]

/-- A number takes the digit it begins with. -/
theorem numberOf_ne_nil {c : Char} (rest : Text) (h : c.isDigit = true) :
    numberOf (c :: rest) ≠ [] := by
  have run : runLength (c :: rest) = runLength rest + 1 := by
    simp [runLength, continuesRun, h]
  simp only [numberOf, numberLength, run, ne_eq, List.take_eq_nil_iff, reduceCtorEq, or_false]
  omega

/-- A word takes the character it begins with. -/
theorem wordOf_ne_nil {c : Char} (rest : Text) (h : Text.startsWord c = true) :
    wordOf (c :: rest) ≠ [] := by
  simp [wordOf, Text.continuesWord_of_startsWord h]

/-- Only a character that begins no lexeme is left where it stands. -/
theorem read_outcome_of_taken_eq_zero {c : Char} {rest : Text} (h : (read c rest).taken = 0) :
    (read c rest).outcome = .error ⟨.unexpectedCharacter c, 0, 1⟩ := by
  unfold read at h ⊢
  split at h <;> rename_i quote
  · exact absurd h (Nat.pos_iff_ne_zero.1 (readString_taken_pos c rest))
  split at h <;> rename_i raw
  · exact absurd h (Nat.pos_iff_ne_zero.1 (readRaw_taken_pos c rest))
  split at h <;> rename_i apostrophe
  · exact absurd h (Nat.pos_iff_ne_zero.1 (readCharacter_taken_pos c rest))
  split at h <;> rename_i digit
  · exact absurd (List.length_eq_zero_iff.1 h) (numberOf_ne_nil rest digit)
  split at h <;> rename_i letter
  · exact absurd (List.length_eq_zero_iff.1 h) (wordOf_ne_nil rest letter)
  split at h <;> rename_i mark
  · exact absurd (List.length_eq_zero_iff.1 h) (symbol?_ne_nil mark)
  · simp [quote, raw, apostrophe, digit, letter, Reading.failed]

/-- A lexeme that is read takes at least one character. -/
theorem read_taken_pos {c : Char} {rest : Text} {lexeme : Lexeme}
    (h : (read c rest).outcome = .ok lexeme) : 0 < (read c rest).taken := by
  refine Nat.pos_of_ne_zero fun none => ?_
  rw [read_outcome_of_taken_eq_zero none] at h
  cases h

end Lexeme

end GuardLang

import GuardLang.Lexeme
import GuardLang.Text.Blank

/-!
# Scanning

A scanner goes through an annotation from left to right.  It knows the whole
text, its place in it, the text still ahead, the tokens found so far and the
brackets that are still open.  Operations give an outcome together with the
scanner they leave behind; after a fault it stands where reading stopped.

`tokenize` scans a whole text.  Its tokens end in one that marks the end of the
text, and every bracket among them is matched.
-/

namespace GuardLang

/-- The state of a scan. -/
structure Scanner where
  source : Text
  place : Position
  rest : Text
  tokens : Array Token
  /-- The opening tokens that wait for their closing ones, innermost first. -/
  opened : List Token
  deriving DecidableEq, Repr

namespace Scanner

/-- A scanner in front of a text. -/
def start (source : Text) : Scanner := ⟨source, .start, source, #[], []⟩

/-! ## Moving and reading -/

/-- Go past `n` characters, or to the end of the text if there are fewer. -/
def skip (scanner : Scanner) (n : Nat) : Scanner :=
  { scanner with
    place := scanner.place.walk (scanner.rest.take n)
    rest := scanner.rest.drop n }

/-- Go past the blank characters ahead. -/
def skipBlanks (scanner : Scanner) : Scanner :=
  scanner.skip (scanner.rest.takeWhile Text.isBlank).length

/-- The character `offset` places ahead, or as many places back if the offset is
negative.  In front of the text stands its end: counting back goes on from there. -/
def peek (scanner : Scanner) : Int → Option Char
  | .ofNat n => scanner.rest[n]?
  | .negSucc n =>
    if n < scanner.place.offset then scanner.source[scanner.place.offset - (n + 1)]?
    else scanner.source.reverse[n - scanner.place.offset]?

/-- The fault for a reading that began here and stopped. -/
def locate (scanner : Scanner) (misread : Misread) : Fault :=
  .located misread.cause <|
    .upTo (scanner.place.walk (scanner.rest.take misread.start))
      (scanner.place.offset + misread.stop)

/-- Take the characters that a reading took. -/
def accept {α : Type} (scanner : Scanner) (reading : Reading α) : Except Fault α × Scanner :=
  (reading.outcome.mapError scanner.locate, scanner.skip reading.taken)

/-! ## Brackets -/

/-- Keep account of the open brackets.  A closing token takes the innermost open
one with it even if the two do not match. -/
def track (scanner : Scanner) (token : Token) : Except Fault Unit × Scanner :=
  match token.kind with
  | .opening _ => (.ok (), { scanner with opened := token :: scanner.opened })
  | .closing bracket =>
    match scanner.opened with
    | [] => (.error (.located (.unexpectedCloser token.value) token.span), scanner)
    | opener :: outer =>
      if opener.kind = .opening bracket then (.ok (), { scanner with opened := outer })
      else
        (.error (.located (.mismatchedCloser token.value opener.value) token.span),
          { scanner with opened := outer })
  | _ => (.ok (), scanner)

/-! ## Tokens -/

/-- Record a token behind the others. -/
def push (scanner : Scanner) (token : Token) : Scanner :=
  { scanner with tokens := scanner.tokens.push token }

/-- Read the next token.  There is none at the end of the text. -/
def next (scanner : Scanner) : Except Fault (Option Token) × Scanner :=
  let scanner := scanner.skipBlanks
  match scanner.rest with
  | [] => (.ok none, scanner)
  | c :: rest =>
    match scanner.accept (Lexeme.read c rest) with
    | (.error fault, scanner) => (.error fault, scanner)
    | (.ok lexeme, after) =>
      let token := ⟨lexeme.kind, lexeme.value, .upTo scanner.place after.place.offset⟩
      match after.track token with
      | (.error fault, after) => (.error fault, after)
      | (.ok (), after) => (.ok (some token), after.push token)

/-- Mark the end of the text, at which no bracket may be open. -/
def finish (scanner : Scanner) : Except Fault Unit × Scanner :=
  match scanner.opened with
  | opener :: _ => (.error (.located (.unclosed opener.value) opener.span), scanner)
  | [] => (.ok (), scanner.push (.endAt (.upTo scanner.place scanner.place.offset)))

/-! ## Progress -/

@[simp] theorem skip_rest (scanner : Scanner) (n : Nat) :
    (scanner.skip n).rest = scanner.rest.drop n := rfl

@[simp] theorem accept_snd {α : Type} (scanner : Scanner) (reading : Reading α) :
    (scanner.accept reading).2 = scanner.skip reading.taken := rfl

/-- Brackets are tracked without moving. -/
@[simp] theorem track_rest (scanner : Scanner) (token : Token) :
    (scanner.track token).2.rest = scanner.rest := by
  unfold track
  repeat' split
  all_goals rfl

@[simp] theorem push_rest (scanner : Scanner) (token : Token) :
    (scanner.push token).rest = scanner.rest := rfl

theorem skipBlanks_rest_length (scanner : Scanner) :
    scanner.skipBlanks.rest.length ≤ scanner.rest.length := by
  simp [skipBlanks]

/-- A token leaves less text to scan. -/
theorem next_rest_length {scanner after : Scanner} {token : Token}
    (h : scanner.next = (.ok (some token), after)) :
    after.rest.length < scanner.rest.length := by
  unfold next at h
  dsimp only at h
  have blanks := scanner.skipBlanks_rest_length
  split at h
  · cases h
  · rename_i c rest ahead
    split at h
    · cases h
    · rename_i lexeme moved accepted
      split at h
      · cases h
      · rename_i tracked trackedEq
        cases h
        have movedEq : moved = scanner.skipBlanks.skip (Lexeme.read c rest).taken := by
          have := congrArg Prod.snd accepted
          simpa using this.symm
        have trackedRest : tracked.rest = moved.rest := by
          have := congrArg (fun outcome => outcome.2.rest) trackedEq
          simpa using this.symm
        have taken : 0 < (Lexeme.read c rest).taken := by
          have outcome := congrArg Prod.fst accepted
          simp only [accept] at outcome
          cases read : (Lexeme.read c rest).outcome with
          | error misread => rw [read] at outcome; cases outcome
          | ok value => exact Lexeme.read_taken_pos read
        rw [push_rest, trackedRest, movedEq, skip_rest, ahead, List.length_drop]
        rw [ahead] at blanks
        simp only [List.length_cons] at blanks ⊢
        omega

/-! ## Whole texts -/

/-- Scan from here to the end of the text. -/
def run (scanner : Scanner) : Except Fault Unit × Scanner :=
  match _h : scanner.next with
  | (.error fault, after) => (.error fault, after)
  | (.ok none, after) => after.finish
  | (.ok (some _), after) => run after
termination_by scanner.rest.length
decreasing_by exact next_rest_length _h

end Scanner

/-- The tokens of a text, with the one that marks its end last. -/
def tokenize (source : Text) : Except Fault (List Token) :=
  match (Scanner.start source).run with
  | (.error fault, _) => .error fault
  | (.ok (), scanner) => .ok scanner.tokens.toList

end GuardLang

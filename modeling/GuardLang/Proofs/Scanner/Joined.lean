import GuardLang.Proofs.Scanner.Respaced
import GuardLang.Proofs.Scanner.Scans

/-!
# Texts put together

Two texts that are scanned one by one can be put together with blanks between them.
The blanks end the last form of the first text, and all its brackets are closed where
the second one begins.  So the tokens of the whole are those of the one and those of
the other, which have moved: offsets and lines by what stands in front of the second
text, and columns by its last line, as long as they belong to the first line of the
second text.

Main statement: `tokenize_join`.
-/

namespace GuardLang

open Lexeme Text

/-! ## Places behind a text -/

/-- The number of characters behind the last newline of a text. -/
def Text.lastLineLength (passed : Text) : Nat :=
  (passed.reverse.takeWhile (· != '\n')).length

namespace Position

/-- Where a place is once a text has been put in front of all.  Its column changes on the
first line only. -/
def behind (passed : Text) (place : Position) : Position :=
  ⟨place.offset + passed.length, place.line + passed.count '\n',
    if place.line = 1 then place.column + passed.lastLineLength else place.column⟩

/-- The start moves to the place that a scanner reaches behind the text. -/
theorem start_behind (passed : Text) : start.behind passed = start.walk passed := by
  have offset_eq := walk_offset start passed
  have line_eq := start_walk_line passed
  have column_eq := start_walk_column passed
  generalize start.walk passed = place at offset_eq line_eq column_eq
  rcases place with ⟨offset, line, column⟩
  simp only at offset_eq line_eq column_eq
  rw [offset_eq, line_eq, column_eq]
  rfl

theorem line_le_step (place : Position) (c : Char) : place.line ≤ (place.step c).line := by
  unfold step
  split
  · exact Nat.le_succ _
  · exact Nat.le_refl _

theorem line_le_walk (place : Position) (text : Text) : place.line ≤ (place.walk text).line := by
  induction text generalizing place with
  | nil => exact Nat.le_refl _
  | cons c rest ih => exact Nat.le_trans (place.line_le_step c) (ih (place.step c))

/-- A step behind the text is the same step.  A newline leaves the first line for good, as
lines are counted from one. -/
theorem behind_step (passed : Text) {place : Position} (counted : 0 < place.line) (c : Char) :
    (place.step c).behind passed = (place.behind passed).step c := by
  by_cases newline : c = '\n'
  · have later : place.line + 1 ≠ 1 := by omega
    simp only [step, behind, newline, if_true, if_neg later, Nat.add_right_comm]
  · by_cases first : place.line = 1
    · simp only [step, behind, newline, if_false, first, if_true, Nat.add_right_comm]
    · simp only [step, behind, newline, if_false, first, Nat.add_right_comm]

theorem behind_walk (passed : Text) {place : Position} (counted : 0 < place.line) (text : Text) :
    (place.walk text).behind passed = (place.behind passed).walk text := by
  induction text generalizing place with
  | nil => rfl
  | cons c rest ih =>
      rw [walk_cons, walk_cons, ih (Nat.lt_of_lt_of_le counted (place.line_le_step c)),
        behind_step passed counted]

end Position

/-- Where a span is once a text has been put in front of all: start and stop move by the
length of the text, the line by its newlines, and on the first line the column by the
length of its last line. -/
def Span.behind (passed : Text) (span : Span) : Span :=
  ⟨span.start + passed.length, span.stop + passed.length, span.line + passed.count '\n',
    if span.line = 1 then span.column + passed.lastLineLength else span.column⟩

/-- A token with its span behind a text. -/
def Token.behind (passed : Text) (token : Token) : Token :=
  { token with span := token.span.behind passed }

/-- The token of a lexeme moves with its place. -/
theorem Lexeme.tokenAt_behind (passed : Text) (lexeme : Lexeme) {place : Position}
    (counted : 0 < place.line) (written : Text) :
    (lexeme.tokenAt place written).behind passed =
      lexeme.tokenAt (place.behind passed) written := by
  rw [tokenAt, tokenAt, ← Position.behind_walk passed counted]
  rfl

/-- The end mark moves with its place. -/
theorem Scanner.endMark_behind (passed : Text) (place : Position) :
    (endMark place).behind passed = endMark (place.behind passed) :=
  rfl

/-! ## Tokens behind a text -/

/-- A text that is put behind another one is lexed into the tokens that have moved. -/
theorem Lexed.behind {place : Position} {text : Text} {tokens : List Token}
    (lexed : Lexed place text tokens) (counted : 0 < place.line) (passed : Text) :
    Lexed (place.behind passed) text (tokens.map (Token.behind passed)) := by
  induction lexed with
  | blank blank => exact .blank blank
  | @token place gap written after lexeme tokens blank form _ ih =>
      have gapped := Nat.lt_of_lt_of_le counted (place.line_le_walk gap)
      have rest := ih (Nat.lt_of_lt_of_le gapped ((place.walk gap).line_le_walk written))
      rw [Position.behind_walk passed gapped, Position.behind_walk passed counted] at rest
      rw [List.map_cons, tokenAt_behind passed lexeme gapped, Position.behind_walk passed counted]
      exact .token blank form rest

theorem map_kind_behind (passed : Text) (tokens : List Token) :
    (tokens.map (Token.behind passed)).map Token.kind = tokens.map Token.kind := by
  rw [List.map_map]
  rfl

/-- Two texts with blanks between them are lexed into the tokens of both. -/
theorem Lexed.join {first second gap : Text} {tokens others : List Token}
    (left : Lexed .start first tokens) (right : Lexed .start second others) (blank : gap.Blank)
    (apart : gap ≠ []) :
    Lexed .start (first ++ gap ++ second)
      (tokens ++ others.map (Token.behind (first ++ gap))) := by
  have moved := right.behind Nat.one_pos (first ++ gap)
  rw [Position.start_behind, Position.walk_append] at moved
  rw [List.append_assoc]
  exact left.scans (bounds_append blank apart) _ (moved.gap blank)

/-! ## Whole texts -/

/-- Tokenizing is a homomorphism.  If two texts are tokenized, so are the two with blanks
between them, and the tokens are those of the first text without its end mark and those of
the second one with every span moved behind the first text and the blanks. -/
theorem tokenize_join {first second gap : Text} {tokens others : List Token}
    (left : tokenize first = .ok tokens) (right : tokenize second = .ok others)
    (blank : gap.Blank) (apart : gap ≠ []) :
    tokenize (first ++ gap ++ second) =
      .ok (tokens.dropLast ++ others.map (Token.behind (first ++ gap))) := by
  rcases tokenize_eq_ok_iff.1 left with ⟨found, lexed, nested, rfl⟩
  rcases tokenize_eq_ok_iff.1 right with ⟨found', lexed', nested', rfl⟩
  have balanced : Nested (found ++ found'.map (Token.behind (first ++ gap))) :=
    nested.append (nested'.of_map_kind_eq (map_kind_behind (first ++ gap) found'))
  have mark : (Scanner.endMark (Position.start.walk second)).behind (first ++ gap) =
      Scanner.endMark (Position.start.walk (first ++ gap ++ second)) := by
    rw [Scanner.endMark_behind, Position.behind_walk (first ++ gap) Nat.one_pos,
      Position.start_behind, ← Position.walk_append]
  apply tokenize_eq_ok_iff.2
  refine ⟨_, lexed.join lexed' blank apart, balanced, ?_⟩
  rw [List.dropLast_concat, List.map_append, List.map_singleton, mark, ← List.append_assoc]

/-- A string with a newline in it, blanks with another one, and a second text of two lines:
only the word on the first of these moves to the right. -/
theorem tokenize_join_lines :
    tokenize "(\"a\nb\") \n c\n'd".toList =
      .ok ([⟨.opening .round, ['('], ⟨0, 1, 1, 1⟩⟩, ⟨.string, "a\nb".toList, ⟨1, 6, 1, 2⟩⟩,
          ⟨.closing .round, [')'], ⟨6, 7, 2, 3⟩⟩] ++
        [⟨.identifier, ['c'], ⟨10, 11, 3, 2⟩⟩, ⟨.lifetime, "'d".toList, ⟨12, 14, 4, 1⟩⟩,
          ⟨.eof, [], ⟨14, 14, 4, 3⟩⟩]) := by
  have left : tokenize "(\"a\nb\")".toList =
      .ok [⟨.opening .round, ['('], ⟨0, 1, 1, 1⟩⟩, ⟨.string, "a\nb".toList, ⟨1, 6, 1, 2⟩⟩,
        ⟨.closing .round, [')'], ⟨6, 7, 2, 3⟩⟩, ⟨.eof, [], ⟨7, 7, 2, 4⟩⟩] := by
    decide +kernel
  have right : tokenize "c\n'd".toList =
      .ok [⟨.identifier, ['c'], ⟨0, 1, 1, 1⟩⟩, ⟨.lifetime, "'d".toList, ⟨2, 4, 2, 1⟩⟩,
        ⟨.eof, [], ⟨4, 4, 2, 3⟩⟩] := by
    decide +kernel
  exact tokenize_join left right (blank_iff_all.2 (by decide : " \n ".toList.all isBlank = true))
    (by decide)

end GuardLang

import GuardLang.Proofs.Lexeme.Numeral
import GuardLang.Proofs.Located
import GuardLang.Proofs.Order
import GuardLang.Proofs.Scanner.Lexed

/-!
# Scanning loses nothing

Every token of a scan stands in the source: the text of its span is a form of
its lexeme, and line and column are those of the place where the form begins.
The tokens follow one another, and between them there are only blanks.

Main statement: what `Lossless` says of a source and its tokens holds after
every scan that succeeds (`tokenize_lossless`).
-/

namespace GuardLang

open Lexeme Text

/-! ## Tokens in their source -/

/-- The source holds a form that the token was read from, at the place that its
span gives. -/
def Token.Stands (source : Text) (token : Token) : Prop :=
  ∃ (before written after : Text) (lexeme : Lexeme), source = before ++ (written ++ after) ∧
    Form written lexeme after ∧ token = lexeme.tokenAt (Position.start.walk before) written

@[simp]
theorem Lexeme.tokenAt_value (lexeme : Lexeme) (place : Position) (written : Text) :
    (lexeme.tokenAt place written).value = lexeme.value :=
  rfl

@[simp]
theorem Lexeme.tokenAt_start (lexeme : Lexeme) (place : Position) (written : Text) :
    (lexeme.tokenAt place written).span.start = place.offset :=
  rfl

@[simp]
theorem Lexeme.tokenAt_stop (lexeme : Lexeme) (place : Position) (written : Text) :
    (lexeme.tokenAt place written).span.stop = place.offset + written.length := by
  simp [tokenAt, Span.upTo]

/-- The text of a span is what stands behind the place where it starts. -/
theorem Span.text_upTo (before inner after : Text) :
    (Span.upTo (Position.start.walk before) (before.length + inner.length)).text
      (before ++ (inner ++ after)) = inner := by
  simp only [Span.text, Span.upTo, Position.walk_offset, Position.start_offset, Nat.zero_add,
    Text.slice]
  rw [← List.append_assoc, ← List.length_append, List.take_left, List.drop_left]

/-- The text of a token's span is what the token was read from. -/
theorem Lexeme.tokenAt_text (lexeme : Lexeme) (before written after : Text) :
    (lexeme.tokenAt (Position.start.walk before) written).span.text
      (before ++ (written ++ after)) = written := by
  have span_eq : (lexeme.tokenAt (Position.start.walk before) written).span =
      .upTo (Position.start.walk before) (before.length + written.length) := by
    simp [tokenAt]
  rw [span_eq, Span.text_upTo]

namespace Token.Stands

variable {source : Text} {token : Token}

theorem start_lt_stop (stands : token.Stands source) : token.span.start < token.span.stop := by
  rcases stands with ⟨_, _, _, _, _, form, rfl⟩
  have written_pos := List.length_pos_iff.2 form.written_ne_nil
  simp only [tokenAt_start, tokenAt_stop]
  omega

theorem located (stands : token.Stands source) : token.span.Located source := by
  rcases stands with ⟨before, written, after, lexeme, rfl, _, rfl⟩
  refine Span.Located.upTo rfl ?_ ?_
  · simp
  · simp

/-- A token other than a string or a character literal is the text it was read
from. -/
theorem value_eq (stands : token.Stands source) (string : token.kind ≠ .string)
    (char : token.kind ≠ .char) : token.value = token.span.text source := by
  rcases stands with ⟨before, written, after, lexeme, rfl, form, rfl⟩
  rw [tokenAt_text, tokenAt_value]
  exact form.value_eq string char

theorem isNumber (stands : token.Stands source) (number : token.kind = .number) :
    Lexeme.IsNumber token.value := by
  rcases stands with ⟨_, _, _, lexeme, _, form, rfl⟩
  exact form.isNumber number

/-- A minus sign stands for itself. -/
theorem value_of_minus (stands : token.Stands source) (minus : token.kind = .minus) :
    token.value = ['-'] := by
  rcases stands with ⟨_, _, _, lexeme, _, form, rfl⟩
  change lexeme.kind = .minus at minus
  change lexeme.value = ['-']
  cases form with
  | pair pair => rcases pair?_cases pair with ⟨_, _, rfl⟩ | ⟨_, rfl⟩ <;> cases minus
  | single single _ =>
      rcases single?_cases single with ⟨_, mark, rfl⟩ | ⟨_, rfl⟩
      · unfold markKind? at mark
        split at mark <;> cases mark <;> first | rfl | cases minus
      · cases minus
  | _ => cases minus

end Token.Stands

/-- The tokens of a text that ends a source stand in the source. -/
theorem Lexed.stands_of_append {source passed text : Text} {tokens : List Token}
    (lexed : Lexed (Position.start.walk passed) text tokens) (source_eq : source = passed ++ text) :
    ∀ token ∈ tokens, token.Stands source := by
  generalize place_eq : Position.start.walk passed = place at lexed
  induction lexed generalizing passed with
  | blank => simp
  | @token place gap written after lexeme tokens _ form _ ih =>
      subst place_eq
      intro token member
      rcases List.mem_cons.1 member with rfl | member
      · exact ⟨passed ++ gap, written, after, lexeme, by rw [source_eq, List.append_assoc], form,
          by rw [Position.walk_append]⟩
      · refine @ih (passed ++ (gap ++ written)) ?_ ?_ token member
        · rw [source_eq, List.append_assoc, List.append_assoc]
        · rw [Position.walk_append, Position.walk_append]

/-- The tokens of a source stand in it. -/
theorem Lexed.stands {source : Text} {tokens : List Token}
    (lexed : Lexed .start source tokens) : ∀ token ∈ tokens, token.Stands source :=
  @Lexed.stands_of_append source [] source tokens lexed rfl

/-! ## Order and gaps -/

/-- Tokens begin behind the place where their text begins. -/
theorem Lexed.offset_le {place : Position} {text : Text} {tokens : List Token}
    (lexed : Lexed place text tokens) :
    ∀ token ∈ tokens, place.offset ≤ token.span.start ∧
      token.span.stop ≤ place.offset + text.length := by
  induction lexed with
  | blank => simp
  | token _ _ _ ih =>
      intro token member
      simp only [List.length_append]
      rcases List.mem_cons.1 member with rfl | member
      · simp only [tokenAt_start, tokenAt_stop, Position.walk_offset]
        omega
      · have bounds := ih token member
        simp only [Position.walk_offset] at bounds
        omega

/-- Tokens follow one another. -/
theorem Lexed.pairwise {place : Position} {text : Text} {tokens : List Token}
    (lexed : Lexed place text tokens) : tokens.Pairwise Token.Before := by
  induction lexed with
  | blank => exact .nil
  | token _ form behind ih =>
      refine .cons ?_ ih
      intro token member
      have written_pos := List.length_pos_iff.2 form.written_ne_nil
      have bounds := (behind.offset_le token member).1
      simp only [Token.Before, tokenAt_start, tokenAt_stop, Position.walk_offset] at bounds ⊢
      omega

/-- The tokens of a scan stand in order. -/
theorem Lexed.ordered {place : Position} {text : Text} {tokens : List Token}
    (lexed : Lexed place text tokens) : Ordered tokens := by
  refine ⟨?_, lexed.pairwise⟩
  induction lexed with
  | blank => simp
  | token _ form _ ih =>
      intro token member
      rcases List.mem_cons.1 member with rfl | member
      · have written_pos := List.length_pos_iff.2 form.written_ne_nil
        simp only [tokenAt_start, tokenAt_stop]
        omega
      · exact ih token member

/-- Whether a token covers the character at an offset. -/
def Token.Covers (token : Token) (offset : Nat) : Prop :=
  token.span.start ≤ offset ∧ offset < token.span.stop

/-- A character that no token covers is blank. -/
theorem Lexed.isBlank_of_not_covers {place : Position} {text : Text} {tokens : List Token}
    (lexed : Lexed place text tokens) {n : Nat} {c : Char} (stands : text[n]? = some c)
    (free : ∀ token ∈ tokens, ¬ token.Covers (place.offset + n)) : isBlank c = true := by
  induction lexed generalizing n with
  | blank blank => exact blank c (List.mem_of_getElem? stands)
  | @token place gap written after lexeme tokens blank _ _ ih =>
      by_cases inGap : n < gap.length
      · rw [List.getElem?_append_left inGap] at stands
        exact blank c (List.mem_of_getElem? stands)
      · rw [List.getElem?_append_right (Nat.not_lt.1 inGap)] at stands
        have uncovered := free _ List.mem_cons_self
        simp only [Token.Covers, tokenAt_start, tokenAt_stop, Position.walk_offset] at uncovered
        rw [List.getElem?_append_right (by omega)] at stands
        refine ih stands ?_
        intro token member
        have free := free token (List.mem_cons_of_mem _ member)
        have offset_eq : ((place.walk gap).walk written).offset + (n - gap.length - written.length) =
            place.offset + n := by
          simp only [Position.walk_offset]
          omega
        rwa [offset_eq]

/-! ## Values of literals -/

/-- The form of a string is written for its value. -/
theorem Lexeme.Form.stringLiteral {written after : Text} {lexeme : Lexeme}
    (form : Form written lexeme after) (string : lexeme.kind = .string) :
    StringLiteral written lexeme.value := by
  cases form with
  | string spelled =>
      rcases spelled_iff.1 spelled with ⟨parts, each, rfl⟩
      exact .quoted each
  | raw free => exact .raw free
  | character | escaped | lifetime | number | word => cases string
  | pair pair =>
      exact absurd (by simp [string, otherKinds]) (mem_symbolStarts_of_pair? pair).2.2
  | single single _ =>
      exact absurd (by simp [string, otherKinds]) (mem_symbolStarts_of_single? single).2.2

/-- The form of a character literal is written for its value. -/
theorem Lexeme.Form.charLiteral {written after : Text} {lexeme : Lexeme}
    (form : Form written lexeme after) (char : lexeme.kind = .char) :
    CharLiteral written lexeme.value := by
  cases form with
  | character backslash apostrophe => exact .plain backslash apostrophe
  | escaped listed => exact .escape listed
  | string | raw | lifetime | number | word => cases char
  | pair pair =>
      exact absurd (by simp [char, otherKinds]) (mem_symbolStarts_of_pair? pair).2.2
  | single single _ =>
      exact absurd (by simp [char, otherKinds]) (mem_symbolStarts_of_single? single).2.2

namespace Token.Stands

variable {source : Text} {token : Token}

theorem stringLiteral (stands : token.Stands source) (string : token.kind = .string) :
    StringLiteral (token.span.text source) token.value := by
  rcases stands with ⟨before, written, after, lexeme, rfl, form, rfl⟩
  rw [tokenAt_text]
  exact form.stringLiteral string

theorem charLiteral (stands : token.Stands source) (char : token.kind = .char) :
    CharLiteral (token.span.text source) token.value := by
  rcases stands with ⟨before, written, after, lexeme, rfl, form, rfl⟩
  rw [tokenAt_text]
  exact form.charLiteral char

end Token.Stands

/-! ## Whole texts -/

@[simp]
theorem Scanner.endMark_start (place : Position) :
    (Scanner.endMark place).span.start = place.offset :=
  rfl

@[simp]
theorem Scanner.endMark_stop (place : Position) :
    (Scanner.endMark place).span.stop = place.offset :=
  rfl

theorem mem_append_endMark {tokens : List Token} {place : Position} {token : Token}
    (member : token ∈ tokens ++ [Scanner.endMark place]) :
    token ∈ tokens ∨ token = Scanner.endMark place := by
  simpa using member

/-- The tokens give back the whole of a source but its blanks. -/
structure Lossless (source : Text) (tokens : List Token) : Prop where
  /-- There is one end mark.  It stands last, and is empty and at the end of the
  source. -/
  ends : ∃ found last, tokens = found ++ [last] ∧ (∀ token ∈ found, token.kind ≠ .eof) ∧
    last.kind = .eof ∧ last.span.start = source.length ∧ last.span.stop = source.length
  /-- All other tokens cover at least one character. -/
  nonempty : ∀ token ∈ tokens, token.kind ≠ .eof →
    token.span.start < token.span.stop ∧ token.span.stop ≤ source.length
  /-- Each token begins and ends before the next one begins. -/
  ordered : tokens.Pairwise Token.Before
  /-- A character that no token covers is whitespace. -/
  blank : ∀ offset c, source[offset]? = some c → (∀ token ∈ tokens, ¬ token.Covers offset) →
    c.toNat ∈ whitespace
  /-- A token that is no literal stands for its text. -/
  verbatim : ∀ token ∈ tokens, token.kind ≠ .string → token.kind ≠ .char →
    token.value = token.span.text source
  /-- The text of a string is a literal that is written for its value. -/
  strings : ∀ token ∈ tokens, token.kind = .string →
    StringLiteral (token.span.text source) token.value
  /-- The text of a character literal is one that is written for its value. -/
  characters : ∀ token ∈ tokens, token.kind = .char →
    CharLiteral (token.span.text source) token.value

/-- Tokenizing loses nothing. -/
theorem tokenize_lossless {source : Text} {tokens : List Token}
    (tokenized : tokenize source = .ok tokens) : Lossless source tokens := by
  rcases tokenize_eq_ok_iff.1 tokenized with ⟨found, lexed, nested, rfl⟩
  have stands : ∀ token ∈ found, token.Stands source := lexed.stands
  constructor
  · exact ⟨found, _, rfl, nested.kind_ne_eof, rfl, by simp, by simp⟩
  · intro token member mark
    rcases mem_append_endMark member with member | rfl
    · exact ⟨(stands token member).start_lt_stop, (stands token member).located.stop_le_length⟩
    · exact absurd rfl mark
  · refine List.pairwise_append.2 ⟨lexed.pairwise, List.pairwise_singleton _ _, ?_⟩
    intro token member mark marks
    rcases List.mem_singleton.1 marks with rfl
    have proper := (stands token member).start_lt_stop
    have inside := (stands token member).located.stop_le_length
    simp only [Token.Before, Scanner.endMark_start, Position.walk_offset, Position.start_offset]
    omega
  · intro offset c at_offset free
    refine isBlank_iff.1 (lexed.isBlank_of_not_covers at_offset ?_)
    intro token member
    rw [Position.start_offset, Nat.zero_add]
    exact free token (List.mem_append_left _ member)
  · intro token member string char
    rcases mem_append_endMark member with member | rfl
    · exact (stands token member).value_eq string char
    · simp [Span.text, Scanner.endMark, Token.endAt, Span.upTo, Text.slice]
  · intro token member string
    rcases mem_append_endMark member with member | rfl
    · exact (stands token member).stringLiteral string
    · cases string
  · intro token member char
    rcases mem_append_endMark member with member | rfl
    · exact (stands token member).charLiteral char
    · cases char

/-- A string with an escape, a character literal that is one, and a raw string with hashes
and a quote inside, with blanks and a newline between them. -/
theorem lossless_literals :
    tokenize "\"a\\n\" '\\'' \n r#\"b\"c\"#".toList =
        .ok [⟨.string, ['a', '\n'], ⟨0, 5, 1, 1⟩⟩, ⟨.char, ['\x27'], ⟨6, 10, 1, 7⟩⟩,
          ⟨.string, ['b', '"', 'c'], ⟨13, 21, 2, 2⟩⟩, ⟨.eof, [], ⟨21, 21, 2, 10⟩⟩] ∧
      Lossless "\"a\\n\" '\\'' \n r#\"b\"c\"#".toList
        [⟨.string, ['a', '\n'], ⟨0, 5, 1, 1⟩⟩, ⟨.char, ['\x27'], ⟨6, 10, 1, 7⟩⟩,
          ⟨.string, ['b', '"', 'c'], ⟨13, 21, 2, 2⟩⟩, ⟨.eof, [], ⟨21, 21, 2, 10⟩⟩] := by
  have tokenized : tokenize "\"a\\n\" '\\'' \n r#\"b\"c\"#".toList =
      .ok [⟨.string, ['a', '\n'], ⟨0, 5, 1, 1⟩⟩, ⟨.char, ['\x27'], ⟨6, 10, 1, 7⟩⟩,
        ⟨.string, ['b', '"', 'c'], ⟨13, 21, 2, 2⟩⟩, ⟨.eof, [], ⟨21, 21, 2, 10⟩⟩] := by
    decide +kernel
  exact ⟨tokenized, tokenize_lossless tokenized⟩

end GuardLang

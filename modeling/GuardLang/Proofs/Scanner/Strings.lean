import GuardLang.Proofs.Scanner.Scans

/-!
# String literals

Main statement: a string literal that is written for a value is scanned as one token with
this value, no other string token comes out of a scan, and a backslash that begins no
escape is reported where it stands (`strings_decode`).
-/

namespace GuardLang

open Lexeme

namespace Lexeme

/-- Spelled characters in a row spell a text. -/
theorem exists_spelled_flatten {parts : List Text}
    (each : ∀ part ∈ parts, ∃ c, CharSpelled c part) :
    ∃ value, Spelled parts.flatten value := by
  induction parts with
  | nil => exact ⟨[], .nil⟩
  | cons part parts ih =>
      rcases each part List.mem_cons_self with ⟨c, first⟩
      rcases ih fun part member => each part (List.mem_cons_of_mem _ member) with ⟨value, rest⟩
      exact ⟨c :: value, rest.cons first⟩

/-- A string literal has the form of a string, whatever stands behind it. -/
theorem StringLiteral.form {written value : Text} (literal : StringLiteral written value)
    (after : Text) : Form written ⟨.string, value⟩ after := by
  cases literal with
  | quoted each => exact .string (spelled_iff.2 ⟨_, each, rfl⟩)
  | raw free => exact .raw free

end Lexeme

/-! ## Single strings -/

/-- A string literal alone is scanned as one token. -/
theorem tokenize_of_literal {written value : Text} (literal : StringLiteral written value) :
    tokenize written =
      .ok [⟨.string, value, ⟨0, written.length, 1, 1⟩⟩,
        Scanner.endMark (Position.start.walk written)] := by
  have lexed : Lexed .start written [Lexeme.tokenAt ⟨.string, value⟩ .start written] :=
    (Scans.of_form (literal.form [])).lexed
  have token_eq : Lexeme.tokenAt ⟨.string, value⟩ .start written =
      ⟨.string, value, ⟨0, written.length, 1, 1⟩⟩ := by
    simp [Lexeme.tokenAt, Span.upTo, Position.start]
  rw [token_eq] at lexed
  exact tokenize_eq_ok_iff.2 ⟨_, lexed, .plain rfl .nil, rfl⟩

theorem tokenize_of_next_error {source : Text} {after : Scanner} {fault : Fault}
    (failed : (Scanner.start source).next = (.error fault, after)) :
    tokenize source = .error fault := by
  rw [tokenize, Scanner.run_of_next_error failed]

/-- A string is refused at the first backslash that begins no escape. -/
theorem tokenize_of_unknown {body value : Text} (spelled : Spelled body value) {c : Char}
    (unknown : unescape? c = none) (after : Text) :
    tokenize ('"' :: body ++ '\\' :: c :: after) =
      .error (.located (.unknownEscape c)
        (.upTo (Position.start.walk ('"' :: body)) (body.length + 3))) := by
  have failed : (Lexeme.read '"' (body ++ '\\' :: c :: after)).outcome =
      .error ⟨.unknownEscape c, body.length + 1, body.length + 3⟩ := by
    rw [Lexeme.read, if_pos rfl, ← List.cons_append, readString_of_unknown spelled unknown]
    rfl
  have refused := @Scanner.next_of_misread (.start ('"' :: body ++ '\\' :: c :: after)) []
    _ _ _ rfl (by simp [Text.Blank]) (by decide) failed
  rw [tokenize_of_next_error refused]
  simp [Scanner.locate, Scanner.past, Scanner.start, Position.start]

/-! ## Strings of a scan -/

/-- String literals decode what was encoded.  What is written for a value, between double
quotes or as a raw string, is scanned as one token with this value.  Every string token of a
scan was written in one of the two ways for its value.  And if a backslash with a character
that makes no escape stands behind a quote and spelled characters, the scan stops there with
a span of just these two. -/
theorem strings_decode :
    (∀ {written value : Text}, StringLiteral written value →
      tokenize written =
        .ok [⟨.string, value, ⟨0, written.length, 1, 1⟩⟩,
          Scanner.endMark (Position.start.walk written)]) ∧
    (∀ {source : Text} {stream : List Token}, tokenize source = .ok stream →
      ∀ token ∈ stream, token.kind = .string →
        StringLiteral (token.span.text source) token.value) ∧
    ∀ {parts : List Text} {c : Char} (after : Text), (∀ part ∈ parts, ∃ d, CharSpelled d part) →
      (∀ meaning, (c, meaning) ∉ escapes) →
      ∃ span, span = .upTo (Position.start.walk ('"' :: parts.flatten)) (parts.flatten.length + 3) ∧
        span.text ('"' :: parts.flatten ++ '\\' :: c :: after) = ['\\', c] ∧
        tokenize ('"' :: parts.flatten ++ '\\' :: c :: after) =
          .error (.located (.unknownEscape c) span) := by
  refine ⟨tokenize_of_literal, ?_, ?_⟩
  · intro source stream tokenized token member string
    rcases tokenize_eq_ok_iff.1 tokenized with ⟨found, lexed, _, rfl⟩
    rcases mem_append_endMark member with member | rfl
    · have stands := lexed.stands token member
      exact stands.stringLiteral string
    · cases string
  · intro parts c after each unlisted
    rcases exists_spelled_flatten each with ⟨value, spelled⟩
    have text_eq := Span.text_upTo ('"' :: parts.flatten) ['\\', c] after
    rw [List.length_cons, Nat.add_assoc] at text_eq
    exact ⟨_, rfl, text_eq, tokenize_of_unknown spelled (unescape?_eq_none_iff.2 unlisted) after⟩

/-- A value that ends like the raw string around it, and an escape that is not known behind
one that is. -/
theorem strings_decode_hashes :
    tokenize "r##\"a\"#\"##".toList =
        .ok [⟨.string, "a\"#".toList, ⟨0, 10, 1, 1⟩⟩, ⟨.eof, [], ⟨10, 10, 1, 11⟩⟩] ∧
      StringLiteral "r##\"a\"#\"##".toList "a\"#".toList ∧
      tokenize "\"a\\t\\q\"".toList = .error (.located (.unknownEscape 'q') ⟨4, 6, 1, 5⟩) := by
  have free : ¬ ('"' :: List.replicate 2 '#') <:+: "a\"#".toList := by decide
  have scanned := strings_decode.1 (.raw free)
  refine ⟨scanned, strings_decode.2.1 scanned _ List.mem_cons_self rfl, ?_⟩
  have each : ∀ part ∈ [['a'], ['\\', 't']], ∃ c, CharSpelled c part := by
    intro part member
    simp only [List.mem_cons, List.not_mem_nil, or_false] at member
    rcases member with rfl | rfl
    · exact ⟨'a', .plain (by decide) (by decide)⟩
    · exact ⟨'\t', .escape (by decide)⟩
  have unlisted : ∀ meaning, ('q', meaning) ∉ escapes := by
    intro meaning listed
    simp [escapes] at listed
  rcases strings_decode.2.2 ['"'] each unlisted with ⟨_, rfl, _, refused⟩
  exact refused

end GuardLang

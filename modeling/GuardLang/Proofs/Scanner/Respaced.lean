import GuardLang.Proofs.Scanner.Lossless

/-!
# Layout

The tokens of an annotation can be written down again with other blanks around
them.  As long as there are some between each two, the new text has the same
tokens at new places: what stands behind a form matters only up to the first
blank.

Main statement: `tokenize_spacing` gives the tokens of the new text.
-/

namespace GuardLang

open Lexeme Text

/-! ## Writing tokens down again -/

/-- Blanks for some number of tokens: in front of the first one and behind each.
Those between two tokens must not be empty. -/
structure Spacing (count : Nat) where
  lead : Text
  gaps : List Text
  length_eq : gaps.length = count
  lead_blank : lead.Blank
  gaps_blank : ∀ gap ∈ gaps, gap.Blank
  gaps_ne_nil : ∀ gap ∈ gaps.dropLast, gap ≠ []

/-- The texts of tokens, each with its gap behind it. -/
def spread (source : Text) : List Token → List Text → Text
  | token :: tokens, gap :: gaps =>
      token.span.text source ++ (gap ++ spread source tokens gaps)
  | _, _ => []

/-- The texts of tokens, with gaps between them only. -/
def laid (source : Text) : List Token → List Text → Text
  | [token], _ => token.span.text source
  | token :: tokens, gap :: gaps => token.span.text source ++ (gap ++ laid source tokens gaps)
  | _, _ => []

/-- The tokens where they stand when the first one begins at the place and each
has its gap behind it. -/
def respaced (source : Text) : Position → List Token → List Text → List Token
  | place, token :: tokens, gap :: gaps =>
      let written := token.span.text source
      (Lexeme.mk token.kind token.value).tokenAt place written ::
        respaced source ((place.walk written).walk gap) tokens gaps
  | _, _, _ => []

@[simp]
theorem spread_nil (source : Text) (gaps : List Text) : spread source [] gaps = [] :=
  rfl

@[simp]
theorem respaced_nil (source : Text) (place : Position) (gaps : List Text) :
    respaced source place [] gaps = [] :=
  rfl

namespace Spacing

/-- The text of tokens with the given blanks. -/
def text {tokens : List Token} (spacing : Spacing tokens.length) (source : Text) : Text :=
  spacing.lead ++ spread source tokens spacing.gaps

/-- The tokens of the text with the given blanks. -/
def tokens {tokens : List Token} (spacing : Spacing tokens.length) (source : Text) : List Token :=
  respaced source (Position.start.walk spacing.lead) tokens spacing.gaps

end Spacing

/-! ## The new text is lexed -/

theorem bounds_of_blank {gap : Text} (blank : gap.Blank) : gap.Bounds := by
  intro c head
  exact separates_of_isBlank (blank c (List.mem_of_mem_head? head))

/-- A gap that is not empty ends the lexeme in front of it. -/
theorem bounds_append {gap rest : Text} (blank : gap.Blank) (nonempty : gap ≠ []) :
    Bounds (gap ++ rest) := by
  rcases List.exists_cons_of_ne_nil nonempty with ⟨c, more, rfl⟩
  exact bounds_cons_iff.2 (separates_of_isBlank (blank c (by simp)))

/-- Forms with other blanks behind them are forms of the same lexemes. -/
theorem Lexed.respaced {source passed text : Text} {tokens : List Token}
    (lexed : Lexed (Position.start.walk passed) text tokens) (source_eq : source = passed ++ text)
    {place : Position} {lead : Text} {gaps : List Text} (lead_blank : lead.Blank)
    (length_eq : gaps.length = tokens.length) (blank : ∀ gap ∈ gaps, gap.Blank)
    (apart : ∀ gap ∈ gaps.dropLast, gap ≠ []) :
    Lexed place (lead ++ spread source tokens gaps)
      (respaced source (place.walk lead) tokens gaps) := by
  generalize start_eq : Position.start.walk passed = start at lexed
  induction lexed generalizing passed place lead gaps with
  | blank =>
      rw [List.length_eq_zero_iff.1 length_eq, spread_nil, List.append_nil]
      exact .blank lead_blank
  | @token start gap written after lexeme tokens _ form _ ih =>
      subst start_eq
      rcases List.exists_cons_of_length_eq_add_one length_eq with ⟨next, gaps, rfl⟩
      have written_eq : (lexeme.tokenAt ((Position.start.walk passed).walk gap) written).span.text
          source = written := by
        rw [source_eq, ← Position.walk_append, ← List.append_assoc]
        exact tokenAt_text lexeme (passed ++ gap) written after
      have ends : Bounds (next ++ spread source tokens gaps) := by
        cases gaps with
        | nil =>
            have none : tokens = [] := by simpa using length_eq
            rw [none, spread_nil, List.append_nil]
            exact bounds_of_blank (blank next (by simp))
        | cons other gaps => exact bounds_append (blank next (by simp)) (apart next (by simp))
      rw [spread, GuardLang.respaced, written_eq]
      refine .token lead_blank (form.clipped (.cut ends)) ?_
      refine @ih (passed ++ (gap ++ written)) ?_ _ next gaps (blank next (by simp)) ?_ ?_ ?_ ?_
      · rw [source_eq, List.append_assoc, List.append_assoc]
      · simpa using length_eq
      · intro other member
        exact blank other (by simp [member])
      · intro other member
        refine apart other ?_
        cases gaps with
        | nil => simp at member
        | cons third gaps => simp [member]
      · rw [Position.walk_append, Position.walk_append]

/-! ## The new tokens correspond to the old ones -/

section

variable {source : Text} {place : Position} {tokens : List Token} {gaps : List Text}

theorem respaced_length (length_eq : gaps.length = tokens.length) :
    (respaced source place tokens gaps).length = tokens.length := by
  induction tokens generalizing place gaps with
  | nil => rfl
  | cons token tokens ih =>
      rcases List.exists_cons_of_length_eq_add_one length_eq with ⟨gap, gaps, rfl⟩
      rw [respaced, List.length_cons, List.length_cons, ih (by simpa using length_eq)]

/-- The new tokens have the old kinds and values. -/
theorem respaced_map (length_eq : gaps.length = tokens.length) :
    (respaced source place tokens gaps).map (fun token => (token.kind, token.value)) =
      tokens.map fun token => (token.kind, token.value) := by
  induction tokens generalizing place gaps with
  | nil => rfl
  | cons token tokens ih =>
      rcases List.exists_cons_of_length_eq_add_one length_eq with ⟨gap, gaps, rfl⟩
      rw [respaced, List.map_cons, List.map_cons, ih (by simpa using length_eq)]
      rfl

/-- The new tokens have the old texts. -/
theorem respaced_text {passed : Text} :
    ∀ pair ∈ tokens.zip (respaced source (Position.start.walk passed) tokens gaps),
      pair.1.kind = pair.2.kind ∧ pair.1.value = pair.2.value ∧
        pair.1.span.text source = pair.2.span.text (passed ++ spread source tokens gaps) := by
  induction tokens generalizing passed gaps with
  | nil => simp
  | cons token tokens ih =>
      cases gaps with
      | nil => simp [respaced]
      | cons gap gaps =>
          intro pair member
          rw [respaced, List.zip_cons_cons] at member
          rw [spread]
          rcases List.mem_cons.1 member with rfl | member
          · exact ⟨rfl, rfl, (tokenAt_text _ _ _ _).symm⟩
          · rw [← Position.walk_append, ← Position.walk_append] at member
            have behind := ih pair member
            rwa [List.append_assoc, List.append_assoc] at behind

/-! ## Runs of the new tokens -/

theorem spread_append {more : List Token} {others : List Text}
    (length_eq : gaps.length = tokens.length) :
    spread source (tokens ++ more) (gaps ++ others) =
      spread source tokens gaps ++ spread source more others := by
  induction tokens generalizing gaps with
  | nil => simp [List.length_eq_zero_iff.1 length_eq]
  | cons token tokens ih =>
      rcases List.exists_cons_of_length_eq_add_one length_eq with ⟨gap, gaps, rfl⟩
      rw [List.cons_append, List.cons_append, spread, spread, ih (by simpa using length_eq)]
      simp only [List.append_assoc]

theorem respaced_append {more : List Token} {others : List Text}
    (length_eq : gaps.length = tokens.length) :
    respaced source place (tokens ++ more) (gaps ++ others) =
      respaced source place tokens gaps ++
        respaced source (place.walk (spread source tokens gaps)) more others := by
  induction tokens generalizing place gaps with
  | nil => simp [List.length_eq_zero_iff.1 length_eq]
  | cons token tokens ih =>
      rcases List.exists_cons_of_length_eq_add_one length_eq with ⟨gap, gaps, rfl⟩
      rw [List.cons_append, List.cons_append, respaced, respaced, spread,
        ih (by simpa using length_eq), Position.walk_append, Position.walk_append,
        List.cons_append]

/-- Tokens that are laid out begin the text in which they are spread. -/
theorem exists_spread_eq_laid {run after : List Token} (nonempty : run ≠ [])
    (length_le : run.length ≤ gaps.length) :
    ∃ rest, spread source (run ++ after) gaps = laid source run gaps ++ rest := by
  induction run generalizing gaps with
  | nil => exact absurd rfl nonempty
  | cons token run ih =>
      cases gaps with
      | nil => simp at length_le
      | cons gap gaps =>
          cases run with
          | nil => exact ⟨_, rfl⟩
          | cons next run =>
              rcases ih (by simp) (by simpa using length_le) with ⟨rest, split⟩
              refine ⟨rest, ?_⟩
              rw [List.cons_append, spread, split, laid]
              · simp only [List.append_assoc]
              · simp

/-- The last of the first few new tokens ends where these end when they are laid
out. -/
theorem exists_getLast?_respaced {run after : List Token} (nonempty : run ≠ [])
    (length_le : run.length ≤ gaps.length) :
    ∃ last, ((respaced source place (run ++ after) gaps).take run.length).getLast? = some last ∧
      last.span.stop = place.offset + (laid source run gaps).length := by
  induction run generalizing place gaps with
  | nil => exact absurd rfl nonempty
  | cons token run ih =>
      cases gaps with
      | nil => simp at length_le
      | cons gap gaps =>
          cases run with
          | nil => exact ⟨_, rfl, by simp [laid]⟩
          | cons next run =>
              rcases @ih ((place.walk (token.span.text source)).walk gap) gaps (by simp)
                (by simpa using length_le) with ⟨last, last_eq, stop_eq⟩
              refine ⟨last, ?_, ?_⟩
              · rw [List.cons_append, respaced, List.length_cons, List.take_succ_cons,
                  List.getLast?_cons, last_eq]
                rfl
              · rw [stop_eq, laid]
                · simp only [Position.walk_offset, List.length_append]
                  omega
                · simp

end

/-! ## Whole texts -/

/-- The text with other blanks has the same tokens at new places. -/
theorem tokenize_spacing {source : Text} {tokens : List Token} {mark : Token}
    (tokenized : tokenize source = .ok (tokens ++ [mark])) (spacing : Spacing tokens.length) :
    Lexed .start (spacing.text source) (spacing.tokens source) ∧
      tokenize (spacing.text source) = .ok (spacing.tokens source ++
        [Scanner.endMark (Position.start.walk (spacing.text source))]) := by
  rcases tokenize_eq_ok_iff.1 tokenized with ⟨found, lexed, nested, same⟩
  rcases List.append_inj' same rfl with ⟨rfl, _⟩
  have relexed : Lexed .start (spacing.text source) (spacing.tokens source) :=
    @Lexed.respaced source [] source tokens lexed rfl .start spacing.lead spacing.gaps
      spacing.lead_blank spacing.length_eq spacing.gaps_blank spacing.gaps_ne_nil
  have kinds : (spacing.tokens source).map Token.kind = tokens.map Token.kind := by
    have same := congrArg (List.map Prod.fst) (@respaced_map source
      (Position.start.walk spacing.lead) tokens spacing.gaps spacing.length_eq)
    rw [List.map_map, List.map_map] at same
    exact same
  exact ⟨relexed, tokenize_eq_ok_iff.2 ⟨_, relexed, nested.of_map_kind_eq kinds, rfl⟩⟩

end GuardLang

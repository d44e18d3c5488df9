import GuardLang.Proofs.Declaration.Steps
import GuardLang.Proofs.Grammar.Options
import GuardLang.Proofs.Scanner.Lossless

/-!
# Annotations are read exactly

What a family accepts is what its grammar derives.  The tokens of a scan are
nested and in order, so every rule is read where it stands, and the options of a
whole annotation are accepted exactly if they are derived.

Main statement: `readRaw_eq_ok_iff`.
-/

namespace GuardLang

/-- What a draft declares. -/
def RawDeclaration.ofDraft {S V D : Type} (guard : RawItems S V → RawGuard)
    (literal : D → Literal) (draft : Draft S V D) : RawDeclaration :=
  ⟨guard draft.items, draft.newUnchecked, draft.defaultValue.map (·.map literal)⟩

namespace Family

/-- The tokens are an annotation by the grammar of the family, which declares this. -/
def Derives (family : Family) (enabled : Capabilities) (source : Text) (tokens : List Token)
    (raw : RawDeclaration) : Prop :=
  match family with
  | string =>
    ∃ draft, Rule.Annotated (.ofStrings source enabled) enabled tokens draft ∧
      raw = .ofDraft .string .text draft
  | integer type =>
    ∃ draft, Rule.Annotated (.ofIntegers source type) enabled tokens draft ∧
      raw = .ofDraft (.integer type) (.number ∘ .integer) draft
  | float type =>
    ∃ draft, Rule.Annotated (.ofFloats source type) enabled tokens draft ∧
      raw = .ofDraft (.float type) (.number ∘ .float) draft

variable {S V D : Type} {source : Text} {rules : Rules S V D} {grammar : Grammar S V D}

/-- Options are accepted with a declaration exactly if they are read into a draft that
declares it. -/
theorem readOptions_snd_eq_ok_iff (grammar : Grammar S V D) (enabled : Capabilities) (feed : Feed)
    (guard : RawItems S V → RawGuard) (literal : D → Literal) (raw : RawDeclaration) :
    (readOptions grammar enabled feed guard literal).2 = .ok raw ↔
      ∃ draft, (∃ after, grammar.options enabled feed = (.ok (), after) ∧ after.draft = draft) ∧
        raw = .ofDraft guard literal draft := by
  rw [readOptions_snd]
  rcases grammar.options enabled feed with ⟨fault | ⟨⟩, progress⟩
  · constructor
    · intro impossible
      cases impossible
    · rintro ⟨draft, ⟨after, impossible, _⟩, _⟩
      cases impossible
  · constructor
    · intro given
      cases given
      exact ⟨progress.draft, ⟨progress, rfl, rfl⟩, rfl⟩
    · rintro ⟨_, ⟨after, same, rfl⟩, rfl⟩
      cases same
      rfl

theorem readOptions_eq_ok_iff (reads : grammar.Reads source rules) (enabled : Capabilities)
    {feed : Feed} (tidy : feed.Tidy source) (guard : RawItems S V → RawGuard)
    (literal : D → Literal) (raw : RawDeclaration) :
    (readOptions grammar enabled feed guard literal).2 = .ok raw ↔
      ∃ draft, Rule.Annotated rules enabled feed.ahead draft ∧
        raw = .ofDraft guard literal draft := by
  simp only [← Grammar.options_eq_ok_iff reads tidy]
  exact readOptions_snd_eq_ok_iff grammar enabled feed guard literal raw

end Family

/-- The tokens of a scan make a tidy feed. -/
theorem tidy_of_tokenize {source : Text} {stream : List Token}
    (tokenized : tokenize source = .ok stream) :
    (Feed.ofTokens stream source).Tidy source ∧
      (Feed.ofTokens stream source).ahead = stream.takeWhile fun token => token.kind != .eof := by
  rcases tokenize_eq_ok_iff.1 tokenized with ⟨tokens, lexed, nested, rfl⟩
  have marks : ∀ token ∈ tokens, (token.kind != .eof) = true := by
    intro token member
    simpa using nested.kind_ne_eof token member
  constructor
  · exact ⟨rfl, by rw [Feed.ofTokens_last]; rfl, by rwa [Feed.ofTokens_ahead],
      by rw [Feed.ofTokens_ahead]; exact lexed.ordered,
      by rw [Feed.ofTokens_ahead]; exact lexed.stands⟩
  · rw [Feed.ofTokens_ahead, List.takeWhile_append_of_pos marks]
    simp [Scanner.endMark, Token.endAt]

/-- An annotation that has been scanned is accepted for a family exactly if the
tokens in front of the end mark are derived by the grammar of the family, and it
declares what the derivation denotes. -/
theorem readRaw_eq_ok_iff {source : Text} {stream : List Token}
    (tokenized : tokenize source = .ok stream) (family : Family) (enabled : Capabilities)
    (raw : RawDeclaration) :
    (family.readRaw enabled (.ofTokens stream source)).2 = .ok raw ↔
      family.Derives enabled source (stream.takeWhile fun token => token.kind != .eof) raw := by
  rcases tidy_of_tokenize tokenized with ⟨tidy, ahead⟩
  rw [← ahead]
  cases family with
  | string =>
      exact Family.readOptions_eq_ok_iff (Grammar.ofStrings_reads source enabled) enabled tidy _ _ raw
  | integer type =>
      exact Family.readOptions_eq_ok_iff (Grammar.ofIntegers_reads source type) enabled tidy _ _ raw
  | float type =>
      exact Family.readOptions_eq_ok_iff (Grammar.ofFloats_reads source type) enabled tidy _ _ raw

/-- A list of one bound with a comma behind it. -/
theorem derives_less :
    ∃ stream, tokenize "validate(less=-1,)".toList = .ok stream ∧
      (Family.integer .i8).Derives {} "validate(less=-1,)".toList
        (stream.takeWhile fun token => token.kind != .eof)
        { guard := .integer .i8 { validators := [⟨{ kind := .less, value := some (-1) },
            ⟨9, 16, 1, 10⟩⟩] }
          newUnchecked := false
          defaultValue := none } := by
  have tokenized : tokenize "validate(less=-1,)".toList =
      .ok [⟨.identifier, "validate".toList, ⟨0, 8, 1, 1⟩⟩,
        ⟨.opening .round, ['('], ⟨8, 9, 1, 9⟩⟩, ⟨.identifier, "less".toList, ⟨9, 13, 1, 10⟩⟩,
        ⟨.equals, ['='], ⟨13, 14, 1, 14⟩⟩, ⟨.minus, ['-'], ⟨14, 15, 1, 15⟩⟩,
        ⟨.number, ['1'], ⟨15, 16, 1, 16⟩⟩, ⟨.comma, [','], ⟨16, 17, 1, 17⟩⟩,
        ⟨.closing .round, [')'], ⟨17, 18, 1, 18⟩⟩, ⟨.eof, [], ⟨18, 18, 1, 19⟩⟩] := by
    decide +kernel
  exact ⟨_, tokenized, (readRaw_eq_ok_iff tokenized _ _ _).1 (by decide +kernel)⟩

end GuardLang

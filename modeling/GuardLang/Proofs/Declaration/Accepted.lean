import GuardLang.Proofs.Declaration.Derivation
import GuardLang.Proofs.Grammar.Fits
import GuardLang.Proofs.Guard.Alike

/-!
# Accepted annotations

An annotation is accepted exactly if its text is lexed into nested tokens, the
tokens are derived by the grammar of the family, and the guard that they denote
passes its check (`Declaration.parse_eq_ok_iff`).  For each family this gives a
draft whose items have what their kinds call for and whose validators pass.
-/

namespace GuardLang

/-- A family reads from a tidy feed what its grammar derives from the tokens. -/
theorem Family.readRaw_iff_derives {source : Text} {feed : Feed} (tidy : feed.Tidy source)
    (family : Family) (enabled : Capabilities) (raw : RawDeclaration) :
    (family.readRaw enabled feed).2 = .ok raw ↔
      family.Derives enabled source feed.ahead raw := by
  cases family with
  | string =>
      exact readOptions_eq_ok_iff (Grammar.ofStrings_reads source enabled) enabled tidy _ _ raw
  | integer type =>
      exact readOptions_eq_ok_iff (Grammar.ofIntegers_reads source type) enabled tidy _ _ raw
  | float type =>
      exact readOptions_eq_ok_iff (Grammar.ofFloats_reads source type) enabled tidy _ _ raw

namespace Declaration

variable {source : Text} {family : Family} {enabled : Capabilities} {declaration : Declaration}

/-- An annotation is accepted exactly if it is lexed, derived and passes its
check. -/
theorem parse_eq_ok_iff :
    (parse source family enabled).2 = .ok declaration ↔
      ∃ tokens raw, Lexed .start source tokens ∧ Nested tokens ∧
        family.Derives enabled source tokens raw ∧ raw.check.2 = .ok declaration := by
  rw [parse_snd, RawDeclaration.parse_snd]
  simp only [Except.bind_eq_ok_iff]
  constructor
  · rintro ⟨raw, ⟨stream, tokenized, read⟩, checked⟩
    obtain ⟨tokens, lexed, nested, rfl⟩ := tokenize_eq_ok_iff.1 tokenized
    have derives := (family.readRaw_iff_derives (tidy_of_tokenize tokenized).1 enabled raw).1 read
    rw [Feed.ofTokens_ahead] at derives
    exact ⟨tokens, raw, lexed, nested, derives, checked⟩
  · rintro ⟨tokens, raw, lexed, nested, derives, checked⟩
    have tokenized := tokenize_eq_ok_iff.2 ⟨tokens, lexed, nested, rfl⟩
    refine ⟨raw, ⟨_, tokenized, ?_⟩, checked⟩
    apply (family.readRaw_iff_derives (tidy_of_tokenize tokenized).1 enabled raw).2
    rwa [Feed.ofTokens_ahead]

end Declaration

/-! ## Checks that are passed -/

theorem Except.map_eq_ok_iff {ε α β : Type} {outcome : Except ε α} {f : α → β} {value : β} :
    outcome.map f = .ok value ↔ ∃ first, outcome = .ok first ∧ value = f first := by
  cases outcome with
  | error fault => simp [Except.map]
  | ok first => simp [Except.map, eq_comm]

namespace RawDeclaration

/-- What is accepted has a guard that has passed, and all else as it was read. -/
theorem check_eq_ok_iff {raw : RawDeclaration} {declaration : Declaration} :
    raw.check.2 = .ok declaration ↔
      ∃ guard, raw.guard.check.2 = .ok guard ∧
        declaration = ⟨guard, raw.newUnchecked, raw.defaultValue⟩ :=
  Except.map_eq_ok_iff

end RawDeclaration

/-! ## What each family accepts -/

/-- The tokens of a scan lie within their source. -/
theorem Lexed.within {source : Text} {tokens : List Token} (lexed : Lexed .start source tokens) :
    Within source tokens := by
  refine ⟨lexed.ordered, ?_⟩
  intro token member
  simpa using (lexed.offset_le token member).2

namespace Declaration

variable {source : Text} {enabled : Capabilities} {declaration : Declaration}

/-- What is accepted for strings. -/
theorem exists_strings (parsed : (parse source .string enabled).2 = .ok declaration) :
    ∃ draft : Draft StringSanitizer StringValidator Text,
      draft.Meets enabled (·.Fits .custom "String".toList) (·.Fits enabled)
        (fun _ => True) ∧
      Guard.checkStrings draft.items.validators = .ok () ∧
      declaration = ⟨.string draft.items.items, draft.newUnchecked,
        draft.defaultValue.map (·.map .text)⟩ := by
  obtain ⟨tokens, raw, lexed, _, ⟨draft, annotated, rfl⟩, checked⟩ := parse_eq_ok_iff.1 parsed
  obtain ⟨guard, passed, rfl⟩ := RawDeclaration.check_eq_ok_iff.1 checked
  obtain ⟨_, accepted, rfl⟩ := Except.map_eq_ok_iff.1 ((RawGuard.check_string _).symm.trans passed)
  exact ⟨draft, annotated.meets (Rules.ofStrings_ensure source enabled) lexed.within, accepted, rfl⟩

/-- What is accepted for an integer type. -/
theorem exists_integers {type : IntegerType}
    (parsed : (parse source (.integer type) enabled).2 = .ok declaration) :
    ∃ draft : Draft NumericSanitizer (NumericValidator Int) Int,
      draft.Meets enabled (·.Fits .custom type.word.toList)
        (·.Fits type.InRange type.word.toList False) type.InRange ∧
      Guard.checkNumeric Limit.emptyDiscrete draft.items.validators = .ok () ∧
      declaration = ⟨.integer type draft.items.items, draft.newUnchecked,
        draft.defaultValue.map (·.map (.number ∘ .integer))⟩ := by
  obtain ⟨tokens, raw, lexed, _, ⟨draft, annotated, rfl⟩, checked⟩ := parse_eq_ok_iff.1 parsed
  obtain ⟨guard, passed, rfl⟩ := RawDeclaration.check_eq_ok_iff.1 checked
  obtain ⟨_, accepted, rfl⟩ :=
    Except.map_eq_ok_iff.1 ((RawGuard.check_integer _ _).symm.trans passed)
  exact ⟨draft, annotated.meets (Rules.ofIntegers_ensure source type) lexed.within, accepted, rfl⟩

/-- What is accepted for a floating point type. -/
theorem exists_floats {type : FloatType}
    (parsed : (parse source (.float type) enabled).2 = .ok declaration) :
    ∃ draft : Draft NumericSanitizer (NumericValidator Binary64) Binary64,
      draft.Meets enabled (·.Fits .custom type.word.toList)
        (·.Fits type.InRange type.word.toList True) type.InRange ∧
      Guard.checkNumeric Limit.emptyDense draft.items.validators = .ok () ∧
      declaration = ⟨.float type draft.items.items, draft.newUnchecked,
        draft.defaultValue.map (·.map (.number ∘ .float))⟩ := by
  obtain ⟨tokens, raw, lexed, _, ⟨draft, annotated, rfl⟩, checked⟩ := parse_eq_ok_iff.1 parsed
  obtain ⟨guard, passed, rfl⟩ := RawDeclaration.check_eq_ok_iff.1 checked
  obtain ⟨_, accepted, rfl⟩ :=
    Except.map_eq_ok_iff.1 ((RawGuard.check_float _ _).symm.trans passed)
  exact ⟨draft, annotated.meets (Rules.ofFloats_ensure source type) lexed.within, accepted, rfl⟩

end Declaration

end GuardLang

import GuardLang.Proofs.Declaration.Derivation
import GuardLang.Proofs.Grammar.Gate

/-!
# Capabilities never change what an annotation means

To enable more can make an annotation accepted that was refused for lack of a
capability.  It changes nothing else: not what is declared, not which fault is found
first, and not where.

Main statement: `parse_gated`.
-/

namespace GuardLang

namespace Family

/-- Where among the tokens of an annotation a capability is needed.  Only string
types have patterns. -/
def Uses (family : Family) (enabled : Capabilities) (source : Text) (capability : Capability)
    (tokens : List Token) (keyword : Token) : Prop :=
  match family with
  | string => Rule.Uses (.ofStrings source enabled) enabled True capability tokens keyword
  | integer type =>
    Rule.Uses (.ofIntegers source type) enabled False capability tokens keyword
  | float type =>
    Rule.Uses (.ofFloats source type) enabled False capability tokens keyword

variable {S V D : Type} {source : Text} {rules : Rules S V D} {grammar grammar' : Grammar S V D}
  {enabled enabled' : Capabilities} {patterns : Prop} {feed : Feed}

theorem readOptions_lockstep (reads : grammar.Reads source rules)
    (lockstep : grammar.Lockstep source enabled enabled' patterns grammar')
    (contained : enabled ≤ enabled') (tidy : feed.Tidy source)
    (guard : RawItems S V → RawGuard) (literal : D → Literal) :
    (readOptions grammar enabled feed guard literal).2 =
        (readOptions grammar' enabled' feed guard literal).2 ∨
      ∃ fault, (readOptions grammar enabled feed guard literal).2 = .error fault ∧
        Grammar.Gate rules enabled enabled' patterns feed.ahead fault := by
  rw [readOptions_snd, readOptions_snd]
  rcases Grammar.options_lockstep reads lockstep contained tidy with
    same | ⟨fault, refused, gate⟩
  · rw [same]
    exact .inl rfl
  · rw [refused]
    exact .inr ⟨fault, rfl, gate⟩

/-- Families read in step. -/
theorem readRaw_lockstep (family : Family) (contained : enabled ≤ enabled')
    (tidy : feed.Tidy source) :
    (family.readRaw enabled feed).2 = (family.readRaw enabled' feed).2 ∨
      ∃ fault, (family.readRaw enabled feed).2 = .error fault ∧
        ∃ capability keyword, family.Uses enabled source capability feed.ahead keyword ∧
          fault.RefusesAt enabled enabled' capability keyword := by
  cases family with
  | string =>
      exact readOptions_lockstep (Grammar.ofStrings_reads source enabled)
        (Grammar.ofStrings_lockstep contained) contained tidy _ _
  | integer type =>
      exact readOptions_lockstep (Grammar.ofIntegers_reads source type) (.refl _) contained tidy _ _
  | float type =>
      exact readOptions_lockstep (Grammar.ofFloats_reads source type) (.refl _) contained tidy _ _

end Family

/-- Annotations are read in step, and where they part they are refused for a keyword
of the source. -/
theorem Declaration.parse_lockstep {enabled enabled' : Capabilities}
    (contained : enabled ≤ enabled') (source : Text) (family : Family) :
    (parse source family enabled).2 = (parse source family enabled').2 ∨
      ∃ tokens mark capability keyword fault, tokenize source = .ok (tokens ++ [mark]) ∧
        family.Uses enabled source capability tokens keyword ∧
        fault.RefusesAt enabled enabled' capability keyword ∧
        (parse source family enabled).2 = .error fault := by
  simp only [parse_snd, RawDeclaration.parse_snd]
  cases tokenized : tokenize source with
  | error fault =>
      left
      simp only [bind, Except.bind]
  | ok stream =>
      obtain ⟨tokens, _, _, rfl⟩ := tokenize_eq_ok_iff.1 tokenized
      change (family.readRaw enabled (.ofTokens _ source)).2 >>= _ =
        (family.readRaw enabled' (.ofTokens _ source)).2 >>= _ ∨ _
      rcases family.readRaw_lockstep contained (tidy_of_tokenize tokenized).1 with
        same | ⟨fault, refused, capability, keyword, uses, refuses⟩
      · rw [same]
        exact .inl rfl
      · right
        rw [Feed.ofTokens_ahead] at uses
        refine ⟨tokens, _, capability, keyword, fault, rfl, uses, refuses, ?_⟩
        change (family.readRaw enabled (.ofTokens _ source)).2 >>= _ = _
        rw [refused]
        rfl

/-- With more capabilities the outcome is the same, or it was a refusal, for a
capability that has been added, at a keyword that needs it.  What was accepted is
accepted with the same result. -/
theorem parse_gated {enabled enabled' : Capabilities} (contained : enabled ≤ enabled')
    (source : Text) (family : Family) :
    ((Declaration.parse source family enabled).2 = (Declaration.parse source family enabled').2 ∨
      ∃ tokens mark capability keyword, tokenize source = .ok (tokens ++ [mark]) ∧
        family.Uses enabled source capability tokens keyword ∧
        enabled.allows capability = false ∧ enabled'.allows capability = true ∧
        (Declaration.parse source family enabled).2 =
          .error (.located (.disabled capability) keyword.span)) ∧
    ∀ declaration, (Declaration.parse source family enabled).2 = .ok declaration →
      (Declaration.parse source family enabled').2 = .ok declaration := by
  rcases Declaration.parse_lockstep contained source family with
    same | ⟨tokens, mark, capability, keyword, fault, tokenized, uses, refuses, refused⟩
  · constructor
    · exact .inl same
    · intro declaration accepted
      exact same ▸ accepted
  · constructor
    · right
      rw [refuses.fault_eq] at refused
      exact ⟨tokens, mark, capability, keyword, tokenized, uses, refuses.missing,
        refuses.allowed, refused⟩
    · intro declaration accepted
      rw [refused] at accepted
      cases accepted

/-- A pattern behind another validator is refused at its keyword, although an option
behind the group needs a capability too. -/
theorem parse_gated_regex :
    ({} : Capabilities) ≤ { regex := true } ∧
    ∃ tokens mark capability keyword,
      tokenize "validate(min_len = 1, regex = \"a+\"), new_unchecked".toList =
        .ok (tokens ++ [mark]) ∧
      Family.string.Uses {} "validate(min_len = 1, regex = \"a+\"), new_unchecked".toList
        capability tokens keyword ∧
      Capabilities.allows {} capability = false ∧
      Capabilities.allows { regex := true } capability = true ∧
      (Declaration.parse "validate(min_len = 1, regex = \"a+\"), new_unchecked".toList .string
        {}).2 = .error (.located (.disabled capability) keyword.span) := by
  have contained : ({} : Capabilities) ≤ { regex := true } := by
    intro capability allowed
    cases capability <;> cases allowed
  have parts : (Declaration.parse "validate(min_len = 1, regex = \"a+\"), new_unchecked".toList
      .string {}).2 ≠
      (Declaration.parse "validate(min_len = 1, regex = \"a+\"), new_unchecked".toList .string
        { regex := true }).2 := by
    decide +kernel
  exact ⟨contained, (parse_gated contained _ _).1.resolve_left parts⟩

end GuardLang

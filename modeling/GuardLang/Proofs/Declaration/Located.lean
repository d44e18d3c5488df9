import GuardLang.Proofs.Declaration.InStep
import GuardLang.Proofs.Scanner.Placed

/-!
# Every location is right

All that is read from an annotation has a located span: its tokens, its groups,
its functions, its items and its default value.  An annotation that is refused is
refused with a fault in the annotation at a located span.  A group is never found
to be open, because a scan that succeeds has matched all brackets.

The scanner's part is in `Scanner.Placed`.  The parser's part comes from aligning
an annotation with itself, every located span being near itself.

Main statement: `declaration_wellLocated`.
-/

namespace GuardLang

/-! ## An annotation aligned with itself -/

/-- A feed over tokens of a source: a nested run of them, and a located end
mark. -/
structure Feed.Over (source : Text) (tokens : List Token) (feed : Feed) : Prop where
  source_eq : feed.source = source
  ahead : feed.ahead <:+: tokens
  nested : Nested feed.ahead
  last_kind : feed.last.kind = .eof
  last : feed.last.span.Located source

/-- Located tokens, each aligned with itself. -/
def Alignment.same (source : Text) (tokens : List Token)
    (located : ∀ token ∈ tokens, token.span.Located source) : Alignment where
  toNearness := .located source
  left := source
  right := source
  pairs := tokens.map fun token => (token, token)
  alike := by
    intro pair member
    rcases List.mem_map.1 member with ⟨token, among, rfl⟩
    exact ⟨rfl, rfl, rfl, located token among⟩
  text_eq := by
    intro pair member
    rcases List.mem_map.1 member with ⟨token, _, rfl⟩
    rfl

section

variable {source : Text} {tokens : List Token}
  {located : ∀ token ∈ tokens, token.span.Located source} {feed other : Feed}

/-- A feed over located tokens is in step with itself. -/
theorem Feed.Over.inStep (fed : feed.Over source tokens) :
    (Alignment.same source tokens located).InStep feed feed := by
  refine ⟨fed.source_eq, fed.source_eq, fed.last_kind, ⟨rfl, rfl, rfl, fed.last⟩,
    ⟨feed.ahead.map fun token => (token, token), fed.ahead.map _, ?_, ?_⟩, fed.nested⟩
  · simp [Function.comp_def]
  · simp [Function.comp_def]

/-- What is in step with something is a feed over the tokens. -/
theorem Alignment.InStep.feedOver (step : (Alignment.same source tokens located).InStep feed other) :
    feed.Over source tokens := by
  rcases step.ahead with ⟨run, among, left, _⟩
  refine ⟨step.source_left, ?_, step.nested, step.last_kind, step.last.span.2⟩
  have firsts := among.map Prod.fst
  rw [← left] at firsts
  simpa [Alignment.same, Function.comp_def] using firsts

end

/-! ## Rules that locate what they read -/

/-- On every feed over the tokens, a parser gives a value that is located and
leaves a feed over the tokens, or fails with a located fault, and never because a
group is open. -/
def Parser.Locating {α : Type} (source : Text) (tokens : List Token) (located : α → Prop)
    (parser : Parser α) : Prop :=
  ∀ feed : Feed, feed.Over source tokens →
    match parser.run feed with
    | (.ok value, rest) => located value ∧ rest.Over source tokens
    | (.error fault, _) => fault.Located source ∧ ∀ opener, fault.cause ≠ .unclosed opener

/-- The rules of a grammar locate their items and default values. -/
structure Grammar.Locating {S V D : Type} (source : Text) (tokens : List Token)
    (grammar : Grammar S V D) : Prop where
  sanitizer : grammar.sanitizer.Locating source tokens (·.span.Located source)
  validator : grammar.validator.Locating source tokens (·.span.Located source)
  defaultValue : grammar.defaultValue.Locating source tokens (·.span.Located source)

/-- The rules of a family locate their items and default values. -/
def Family.Locating (family : Family) (enabled : Capabilities) (source : Text)
    (tokens : List Token) : Prop :=
  match family with
  | string => (Grammar.ofStrings enabled).Locating source tokens
  | integer type => (Grammar.ofIntegers type).Locating source tokens
  | float type => (Grammar.ofFloats type).Locating source tokens

/-- A steady rule locates what it reads, if what is alike to something is
located. -/
theorem Alignment.Steady.locating {source : Text} {tokens : List Token}
    {located : ∀ token ∈ tokens, token.span.Located source} {α : Type} {related : α → α → Prop}
    {good : α → Prop} {parser : Parser α}
    (steady : (Alignment.same source tokens located).Steady related parser)
    (goodness : ∀ value other, related value other → good value) :
    parser.Locating source tokens good := by
  intro feed fed
  rcases (steady feed feed fed.inStep).left with
    ⟨value, rest, ran, ⟨_, same⟩, _, step⟩ | ⟨cause, span, rest, ran, ordinary, _, close⟩
  · rw [ran]
    exact ⟨goodness _ _ same, step.feedOver⟩
  · rw [ran]
    exact ⟨⟨ordinary.within_general, span, rfl, close.2⟩, ordinary.ne_unclosed⟩

section

variable {source : Text} {tokens : List Token}
  (located : ∀ token ∈ tokens, token.span.Located source)

include located

/-- A steady grammar locates what it reads. -/
theorem Alignment.SteadyGrammar.locating {S V D : Type} {sanitizer : Span → S → S → Prop}
    {validator : Span → V → V → Prop} {grammar : Grammar S V D}
    (steady : (Alignment.same source tokens located).SteadyGrammar sanitizer validator grammar) :
    grammar.Locating source tokens :=
  ⟨steady.sanitizer.locating fun _ _ same => same.span.2,
    steady.validator.locating fun _ _ same => same.span.2,
    steady.defaultValue.locating fun _ _ same => same.span.2⟩

/-- The rules of every family locate what they read. -/
theorem Family.locating (family : Family) (enabled : Capabilities) :
    family.Locating enabled source tokens := by
  cases family with
  | string => exact Alignment.SteadyGrammar.locating located (Alignment.steady_ofStrings enabled)
  | integer type => exact Alignment.SteadyGrammar.locating located (Alignment.steady_ofNumbers _ _)
  | float type => exact Alignment.SteadyGrammar.locating located (Alignment.steady_ofNumbers _ _)

/-- To take a group is to locate it and the end mark of its feed. -/
theorem Parser.group_locating :
    group.Locating source tokens fun inner =>
      inner.span.Located source ∧ inner.item.Over source tokens :=
  (@Alignment.Steady.group (.same source tokens located)).locating fun _ _ same =>
    ⟨same.2.2, same.1.feedOver⟩

/-- To read a function is to locate it. -/
theorem Grammar.function_locating :
    function.Locating source tokens (·.span.Located source) :=
  (@Alignment.Steady.function (.same source tokens located)).locating fun _ _ same => same.span.2

end

/-! ## Whole annotations -/

/-- The spans of raw items. -/
def RawItems.spans {S V : Type} (items : RawItems S V) : List Span :=
  items.sanitizers.map (·.span) ++ items.validators.map (·.span)

/-- The spans of the items of a raw guard. -/
def RawGuard.spans : RawGuard → List Span
  | string items => items.spans
  | integer _ items => items.spans
  | float _ items => items.spans

/-- The spans of the items and the default value of a raw declaration. -/
def RawDeclaration.spans (raw : RawDeclaration) : List Span :=
  raw.guard.spans ++ raw.defaultValue.toList.map (·.span)

section

variable {source : Text} {placed : Span → Text → Text → Prop}

/-- Lists of items that are alike to something with located spans are located. -/
theorem located_of_forall₂ {α : Type} {related : Span → α → α → Prop}
    {items others : List (Spanned α)}
    (alike : List.Forall₂ (Spanned.AlikeAt (Nearness.located source).near related) items others) :
    ∀ span ∈ items.map (·.span), span.Located source := by
  induction alike with
  | nil => simp
  | cons first _ ih =>
      intro span member
      rcases List.mem_cons.1 member with rfl | member
      · exact first.span.2
      · exact ih span member

theorem RawItems.Alike.located {S V : Type} {sanitizer : Span → S → S → Prop}
    {validator : Span → V → V → Prop} {items others : RawItems S V}
    (alike : items.Alike (Nearness.located source).near sanitizer validator others) :
    ∀ span ∈ items.spans, span.Located source := by
  intro span member
  rcases List.mem_append.1 member with member | member
  · exact located_of_forall₂ alike.sanitizers span member
  · exact located_of_forall₂ alike.validators span member

/-- All spans of a declaration that is alike to something are located. -/
theorem RawDeclaration.Alike.located {raw other : RawDeclaration}
    (alike : raw.Alike (Nearness.located source).near placed other) :
    ∀ span ∈ raw.spans, span.Located source := by
  rcases raw with ⟨guard, newUnchecked, defaultValue⟩
  rcases other with ⟨guard', newUnchecked', defaultValue'⟩
  rcases alike with ⟨guards, _, defaults⟩
  dsimp only at guards defaults
  intro span member
  rcases List.mem_append.1 member with member | member
  · cases guards with
    | string items => exact items.located span member
    | integer items => exact items.located span member
    | float items => exact items.located span member
  · cases defaults with
    | none => simp at member
    | some same =>
        rcases List.mem_singleton.1 member with rfl
        exact same.span.2

end

/-- All that is read from an annotation for a type is located, and an annotation
that is refused is refused at a located span. -/
structure WellLocated (source : Text) (family : Family) (enabled : Capabilities) : Prop where
  /-- A fault is an error in the annotation, at a located span. -/
  fault : ∀ fault, (Declaration.parse source family enabled).2 = .error fault →
    fault.Located source
  /-- Behind a scan that succeeds no group is found to be open. -/
  closed : ∀ tokens fault, tokenize source = .ok tokens →
    (Declaration.parse source family enabled).2 = .error fault →
    ∀ opener, fault.cause ≠ .unclosed opener
  /-- The tokens of a scan are located, also of one that fails. -/
  tokens : ∀ token ∈ (Scanner.start source).run.2.tokens, token.span.Located source
  /-- The items and the default value that are read are located. -/
  raw : ∀ raw, (RawDeclaration.parse source family enabled).2 = .ok raw →
    ∀ span ∈ raw.spans, span.Located source
  /-- The default value that is declared is located. -/
  defaultValue : ∀ declaration, (Declaration.parse source family enabled).2 = .ok declaration →
    ∀ value ∈ declaration.defaultValue, value.span.Located source
  /-- Reading begins with a feed over the tokens. -/
  start : ∀ tokens, tokenize source = .ok tokens →
    (Feed.ofTokens tokens source).Over source tokens.dropLast
  /-- A group that is taken from a feed over the tokens is located, and gives a
  feed over the tokens. -/
  group : ∀ tokens, tokenize source = .ok tokens →
    Parser.group.Locating source tokens.dropLast fun inner =>
      inner.span.Located source ∧ inner.item.Over source tokens.dropLast
  /-- A function that is read from a feed over the tokens is located. -/
  function : ∀ tokens, tokenize source = .ok tokens →
    Grammar.function.Locating source tokens.dropLast (·.span.Located source)
  /-- An item or a default value that is read from a feed over the tokens is
  located. -/
  rules : ∀ tokens, tokenize source = .ok tokens →
    family.Locating enabled source tokens.dropLast

/-- The tokens of a scan that succeeds are located, and the feed that they make is
a feed over them. -/
theorem over_of_tokenize {source : Text} {tokens : List Token}
    (tokenized : tokenize source = .ok tokens) :
    (∀ token ∈ tokens.dropLast, token.span.Located source) ∧
      (Feed.ofTokens tokens source).Over source tokens.dropLast := by
  rcases tokenize_eq_ok_iff.1 tokenized with ⟨found, lexed, nested, rfl⟩
  have stands : ∀ token ∈ found, token.Stands source := lexed.stands
  have mark : (Scanner.endMark (Position.start.walk source)).span.Located source :=
    Span.Located.upTo (List.append_nil source).symm (by simp) (by simp)
  constructor
  · intro token member
    rw [List.dropLast_concat] at member
    exact (stands token member).located
  · refine ⟨rfl, List.infix_refl _, ?_, ?_, ?_⟩
    · rwa [Feed.ofTokens_ahead]
    · rw [Feed.ofTokens_last]
      rfl
    · rwa [Feed.ofTokens_last]

/-- Behind a scan that succeeds a declaration is read with located spans, or
refused for an ordinary cause at a located span. -/
theorem RawDeclaration.parse_cases {source : Text} {tokens : List Token}
    (tokenized : tokenize source = .ok tokens) (family : Family) (enabled : Capabilities) :
    (∃ raw, (parse source family enabled).2 = .ok raw ∧ ∀ span ∈ raw.spans, span.Located source) ∨
      ∃ cause span, (parse source family enabled).2 = .error (.located cause span) ∧
        cause.Ordinary ∧ span.Located source := by
  rcases over_of_tokenize tokenized with ⟨located, fed⟩
  have step := @Feed.Over.inStep _ _ located _ fed
  rw [parse_snd, tokenized]
  rcases (Alignment.readRaw_alike family enabled step).left with
    ⟨raw, ran, _, alike⟩ | ⟨cause, span, ran, ordinary, _, close⟩
  · exact .inl ⟨raw, ran, alike.located⟩
  · exact .inr ⟨cause, span, ran, ordinary, close.2⟩

/-- The same of declarations that are also checked. -/
theorem Declaration.parse_cases {source : Text} {tokens : List Token}
    (tokenized : tokenize source = .ok tokens) (family : Family) (enabled : Capabilities) :
    (∃ declaration, (parse source family enabled).2 = .ok declaration ∧
        ∀ value ∈ declaration.defaultValue, value.span.Located source) ∨
      ∃ cause span, (parse source family enabled).2 = .error (.located cause span) ∧
        cause.Ordinary ∧ span.Located source := by
  rcases over_of_tokenize tokenized with ⟨located, fed⟩
  have step := @Feed.Over.inStep _ _ located _ fed
  rw [parse_snd, RawDeclaration.parse_snd, tokenized]
  rcases (Alignment.readChecked_alike family enabled step).left with
    ⟨declaration, ran, other, alike⟩ | ⟨cause, span, ran, ordinary, _, close⟩
  · refine .inl ⟨declaration, ran, ?_⟩
    intro value member
    have defaults := alike.defaultValue
    rw [Option.mem_def.1 member] at defaults
    generalize other.defaultValue = value' at defaults
    cases defaults with
    | some same => exact same.span.2
  · exact .inr ⟨cause, span, ran, ordinary, close.2⟩

/-- Every location is right, for every annotation, every type and all
capabilities. -/
theorem declaration_wellLocated (source : Text) (family : Family) (enabled : Capabilities) :
    WellLocated source family enabled := by
  cases tokenized : tokenize source with
  | error refused =>
      have failed : (Declaration.parse source family enabled).2 = .error refused := by
        rw [Declaration.parse_snd, RawDeclaration.parse_snd, tokenized]
        rfl
      have failedRaw : (RawDeclaration.parse source family enabled).2 = .error refused := by
        rw [RawDeclaration.parse_snd, tokenized]
        rfl
      constructor
      · intro fault same
        cases failed.symm.trans same
        exact located_of_tokenize_error tokenized
      · simp [tokenized]
      · exact (Scanner.placed_start source).run.2.tokens
      · simp [failedRaw]
      · simp [failed]
      all_goals simp [tokenized]
  | ok tokens =>
      rcases over_of_tokenize tokenized with ⟨located, fed⟩
      constructor
      · intro fault same
        rcases Declaration.parse_cases tokenized family enabled with
          ⟨_, ran, _⟩ | ⟨cause, span, ran, ordinary, within⟩
        · cases ran.symm.trans same
        · cases ran.symm.trans same
          exact ⟨ordinary.within_general, span, rfl, within⟩
      · intro _ fault _ same
        rcases Declaration.parse_cases tokenized family enabled with
          ⟨_, ran, _⟩ | ⟨cause, span, ran, ordinary, within⟩
        · cases ran.symm.trans same
        · cases ran.symm.trans same
          exact ordinary.ne_unclosed
      · exact (Scanner.placed_start source).run.2.tokens
      · intro raw same
        rcases RawDeclaration.parse_cases tokenized family enabled with
          ⟨_, ran, spans⟩ | ⟨_, _, ran, _⟩
        · cases ran.symm.trans same
          exact spans
        · cases ran.symm.trans same
      · intro declaration same
        rcases Declaration.parse_cases tokenized family enabled with
          ⟨_, ran, spans⟩ | ⟨_, _, ran, _⟩
        · cases ran.symm.trans same
          exact spans
        · cases ran.symm.trans same
      all_goals
        rintro _ same
        cases tokenized.symm.trans same
      · exact fed
      · exact Parser.group_locating located
      · exact Grammar.function_locating located
      · exact family.locating located enabled

end GuardLang

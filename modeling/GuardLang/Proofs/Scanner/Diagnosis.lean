import GuardLang.Proofs.Scanner.Stack

/-!
# What is wrong with brackets

A text that is lexed can only be refused for its brackets.  `Diagnosis` says what is to
be found about them, without a stack: they are nested, or some closing token is the
first that no extension can make part of a nested run, or else the text ends too early.

Main statement: `tokenize_diagnosis`.
-/

namespace GuardLang

/-- The token is the first to break a run: the tokens before it can be extended to a
nested run, but not by this closing token. -/
structure FirstBroken (tokens front : List Token) (closer : Token) : Prop where
  split : ∃ back, tokens = front ++ closer :: back
  closing : closer.kind.isClosing = true
  extensible : Extensible front
  broken : ¬ Extensible (front ++ [closer])

/-- What is to be found about the brackets among some tokens. -/
inductive Diagnosis (tokens : List Token) : Except Diagnostic Unit → Prop
  | nested : Nested (delimiters tokens) → Diagnosis tokens (.ok ())
  /-- A closing token where nothing is open. -/
  | unexpected {front : List Token} {closer : Token} : FirstBroken tokens front closer →
      Nested front →
      Diagnosis tokens (.error
        ⟨.grammar, "Unexpected closing delimiter " ++ Cause.tick (String.ofList closer.value),
          some closer.span⟩)
  /-- A closing token of another kind than the innermost open one. -/
  | mismatched {front : List Token} {opener closer : Token} : FirstBroken tokens front closer →
      InnermostOpen front opener →
      Diagnosis tokens (.error
        ⟨.grammar, "Mismatched closing delimiter " ++ Cause.tick (String.ofList closer.value) ++
            " for " ++ Cause.tick (String.ofList opener.value),
          some closer.span⟩)
  /-- A text that ends while a token is open. -/
  | unclosed {opener : Token} : (∀ front, front <+: tokens → Extensible front) →
      ¬ Nested (delimiters tokens) → InnermostOpen tokens opener →
      Diagnosis tokens (.error
        ⟨.grammar, "Unclosed delimiter " ++ Cause.tick (String.ofList opener.value),
          some opener.span⟩)

/-! ## Only one diagnosis -/

namespace FirstBroken

variable {tokens front front' : List Token} {closer closer' : Token}

theorem not_extensible (first : FirstBroken tokens front closer) : ¬ Extensible tokens := by
  rcases first.split with ⟨back, rfl⟩
  intro whole
  rw [List.append_cons] at whole
  exact first.broken whole.of_append

/-- A run that is broken is first broken in one place. -/
theorem unique (first : FirstBroken tokens front closer)
    (second : FirstBroken tokens front' closer') : front = front' ∧ closer = closer' := by
  rcases first.split with ⟨back, rfl⟩
  rcases second.split with ⟨back', same⟩
  rcases split_cases same with same | ⟨between, rfl, _⟩ | ⟨between, rfl, _⟩
  · exact same
  · have extensible := second.extensible
    rw [List.append_cons] at extensible
    exact absurd extensible.of_append first.broken
  · have extensible := first.extensible
    rw [List.append_cons] at extensible
    exact absurd extensible.of_append second.broken

end FirstBroken

/-- Tokens whose brackets are nested can be extended. -/
theorem extensible_of_nested {tokens : List Token} (nested : Nested tokens) : Extensible tokens :=
  ⟨[], by rwa [List.append_nil]⟩

theorem Extensible.kind_ne_eof {tokens : List Token} (extensible : Extensible tokens) :
    ∀ token ∈ tokens, token.kind ≠ .eof := by
  rcases extensible with ⟨more, nested⟩
  exact fun token member => nested.kind_ne_eof token (List.mem_append_left more member)

/-- There is one diagnosis at most. -/
theorem Diagnosis.unique {tokens : List Token} {outcome other : Except Diagnostic Unit}
    (marks : ∀ token ∈ tokens, token.kind ≠ .eof) (first : Diagnosis tokens outcome)
    (second : Diagnosis tokens other) : outcome = other := by
  have whole : Nested (delimiters tokens) → Extensible tokens := fun nested =>
    extensible_of_nested ((nested_delimiters_iff marks).1 nested)
  cases first with
  | nested nested =>
      cases second with
      | nested => rfl
      | unexpected broken _ => exact absurd (whole nested) broken.not_extensible
      | mismatched broken _ => exact absurd (whole nested) broken.not_extensible
      | unclosed _ not_nested _ => exact absurd nested not_nested
  | unexpected broken front_nested =>
      cases second with
      | nested nested => exact absurd (whole nested) broken.not_extensible
      | unexpected broken' _ =>
          rcases broken.unique broken' with ⟨rfl, rfl⟩
          rfl
      | mismatched broken' innermost =>
          rcases broken.unique broken' with ⟨rfl, rfl⟩
          exact absurd front_nested innermost.not_nested
      | unclosed extensible _ _ =>
          exact absurd (extensible tokens List.prefix_rfl) broken.not_extensible
  | mismatched broken innermost =>
      cases second with
      | nested nested => exact absurd (whole nested) broken.not_extensible
      | unexpected broken' front_nested =>
          rcases broken.unique broken' with ⟨rfl, rfl⟩
          exact absurd front_nested innermost.not_nested
      | mismatched broken' innermost' =>
          rcases broken.unique broken' with ⟨rfl, rfl⟩
          rw [innermost.unique innermost']
      | unclosed extensible _ _ =>
          exact absurd (extensible tokens List.prefix_rfl) broken.not_extensible
  | unclosed extensible not_nested innermost =>
      cases second with
      | nested nested => exact absurd nested not_nested
      | unexpected broken _ =>
          exact absurd (extensible tokens List.prefix_rfl) broken.not_extensible
      | mismatched broken _ =>
          exact absurd (extensible tokens List.prefix_rfl) broken.not_extensible
      | unclosed _ _ innermost' => rw [innermost.unique innermost']

/-! ## Lexemes alone -/

namespace Scanner

/-- Up to the end of its text the scanner reads the lexemes of these tokens.  No account
of brackets is kept. -/
inductive Lexes : Scanner → List Token → Prop
  | ended {scanner : Scanner} : scanner.skipBlanks.rest = [] → Lexes scanner []
  | token {scanner after : Scanner} {c : Char} {rest : Text} {lexeme : Lexeme}
      {tokens : List Token} :
      scanner.skipBlanks.rest = c :: rest →
      scanner.skipBlanks.accept (Lexeme.read c rest) = (.ok lexeme, after) →
      Lexes after tokens →
      Lexes scanner
        (⟨lexeme.kind, lexeme.value, .upTo scanner.skipBlanks.place after.place.offset⟩ :: tokens)

/-- Blanks are passed up to the end of the text or a character that is none. -/
theorem exists_skipBlanks (scanner : Scanner) :
    ∃ gap behind, scanner.rest = gap ++ behind ∧ gap.Blank ∧
      scanner.skipBlanks = scanner.past gap behind := by
  rcases Lexeme.takeWhile_split Text.isBlank scanner.rest with ⟨behind, split, blank, stops⟩
  exact ⟨_, behind, split, blank, skipBlanks_of_rest split blank stops⟩

/-- What is read lexeme by lexeme is lexed. -/
theorem Lexes.lexed {scanner : Scanner} {tokens : List Token} (lexes : scanner.Lexes tokens) :
    Lexed scanner.place scanner.rest tokens := by
  induction lexes with
  | @ended scanner empty =>
      rcases scanner.exists_skipBlanks with ⟨gap, behind, split, blank, skipped⟩
      rw [skipped] at empty
      cases empty
      rw [split, List.append_nil]
      exact .blank blank
  | @token scanner after c rest lexeme tokens ahead accepted _ ih =>
      rcases scanner.exists_skipBlanks with ⟨gap, behind, split, blank, skipped⟩
      rw [skipped] at ahead accepted ⊢
      cases ahead
      cases outcome : (Lexeme.read c rest).outcome with
      | error misread =>
          rw [accept_of_error _ outcome] at accepted
          cases accepted
      | ok read =>
          rcases Lexeme.exists_form_of_read outcome with ⟨written, after, same, taken, form⟩
          have ahead : (scanner.past gap (c :: rest)).rest = written ++ after := same
          rw [accept_of_ok _ outcome, taken, skip_of_rest ahead] at accepted
          cases accepted
          rw [split, same]
          exact .token blank form ih

end Scanner

/-- No token of a text marks its end. -/
theorem Lexed.kind_ne_eof {place : Position} {text : Text} {tokens : List Token}
    (lexed : Lexed place text tokens) : ∀ token ∈ tokens, token.kind ≠ .eof := by
  induction lexed with
  | blank _ => simp
  | token _ form _ ih =>
      intro token member
      rcases List.mem_cons.1 member with rfl | member
      · exact form.kind_ne_eof
      · exact ih token member

/-! ## The diagnosis of a scan -/

/-- A scan ends with the diagnosis of all its tokens. -/
theorem Scanner.Between.diagnosis {scanner : Scanner} {passed ahead : List Token}
    (between : Between passed ahead scanner) :
    Diagnosis (passed ++ ahead) (scanner.run.1.mapError Fault.diagnostic) := by
  induction ahead generalizing passed scanner with
  | nil =>
      have leaves := between.leaves
      rw [List.append_nil, run_of_next_none between.next_eq_none]
      cases stack : scanner.opened with
      | nil =>
          rw [stack] at leaves
          have closed : (scanner.past scanner.rest []).opened = [] := stack
          rw [finish_of_closed closed]
          cases leaves with
          | nested nested => exact .nested ((nested_delimiters_iff nested.kind_ne_eof).2 nested)
      | cons opener outer =>
          rw [stack] at leaves
          have extensible : Extensible passed := extensible_iff.2 ⟨_, leaves⟩
          have open_nested : ¬ Nested (delimiters passed) := by
            rw [nested_delimiters_iff extensible.kind_ne_eof]
            exact leaves.innermostOpen.not_nested
          have fault : (scanner.past scanner.rest []).finish.1 =
              .error (.located (.unclosed opener.value) opener.span) := by
            simp [finish, past, stack]
          rw [fault]
          refine .unclosed ?_ open_nested leaves.innermostOpen
          rintro front ⟨back, rfl⟩
          exact extensible.of_append
  | cons token ahead ih =>
      rcases between.cases with ⟨after, _, found, between'⟩ |
        ⟨closing, broken, fault, after, failed, refused⟩
      · rw [run_of_next_some found, List.append_cons]
        exact ih between'
      · rw [run_of_next_error failed]
        have first : FirstBroken (passed ++ token :: ahead) passed token :=
          ⟨⟨ahead, rfl⟩, closing, extensible_iff.2 ⟨_, between.leaves⟩, broken⟩
        cases refused with
        | unexpected nested => exact .unexpected first nested
        | mismatched innermost => exact .mismatched first innermost

theorem tokenize_map_unit (source : Text) :
    ((tokenize source).map fun _ => ()) = (Scanner.start source).run.1 := by
  unfold tokenize
  rcases (Scanner.start source).run with ⟨_ | _, _⟩ <;> rfl

/-- The diagnosis of delimiters is exact.  Let a text consist of the lexemes of some
tokens.  What comes of tokenizing it is what is to be found about the brackets among these
tokens, and nothing else is: success exactly if they are nested; otherwise a fault at the
first closing token that no extension can make part of a nested run, or, if there is none,
at the innermost token still open at the end. -/
theorem tokenize_diagnosis {source : Text} {tokens : List Token}
    (lexes : (Scanner.start source).Lexes tokens) (outcome : Except Diagnostic Unit) :
    ((tokenize source).map fun _ => ()).mapError Fault.diagnostic = outcome ↔
      Diagnosis tokens outcome := by
  have lexed : Lexed .start source tokens := lexes.lexed
  have found := (Scanner.between_start lexed).diagnosis
  rw [List.nil_append, ← tokenize_map_unit] at found
  constructor
  · rintro rfl
    exact found
  · exact found.unique lexed.kind_ne_eof

/-- The second bracket is the innermost open one where the third is refused. -/
theorem tokenize_diagnosis_crossed :
    Diagnosis
      [⟨.opening .round, ['('], ⟨0, 1, 1, 1⟩⟩, ⟨.opening .square, ['['], ⟨2, 3, 1, 3⟩⟩,
        ⟨.closing .round, [')'], ⟨4, 5, 2, 1⟩⟩]
      (.error ⟨.grammar, "Mismatched closing delimiter `)` for `[`", some ⟨4, 5, 2, 1⟩⟩) :=
  (@tokenize_diagnosis "( [\n)".toList _
    (.token rfl rfl (.token rfl rfl (.token rfl rfl (.ended rfl)))) _).1 (by decide +kernel)

end GuardLang

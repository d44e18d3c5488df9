import GuardLang.Proofs.Declaration.InStep
import GuardLang.Proofs.Scanner.Respaced

/-!
# Layout does not matter

An annotation that is written down again with other blanks between its tokens is
aligned with the old one, wherever the tokens have moved.  So both are refused
for the same cause, or both declare the same, but for the places and the bodies
of closures, which keep the blanks that stand in them.  A closure is known by its
span, so its body has one new layout (`Relaid.unique`).

Main statement: `parse_spacing`.
-/

namespace GuardLang

/-! ## Bodies of closures -/

/-- The body of the closure at a span, in the old layout and in the new.  It is the run of
tokens behind the second bar of the closure, up to its end.  In the old layout it is the text
that the run covers, in the new one the texts of the tokens with the new gaps between them. -/
inductive Relaid (source : Text) (tokens : List Token) (gaps : List Text) (span : Span) :
    Text → Text → Prop
  | closure {before params body after : List Token} {opening closing : Token} {inner : Span} :
      tokens = before ++ (opening :: (params ++ closing :: body) ++ after) →
      opening.kind = .pipe → closing.kind = .pipe → Unbroken body →
      cover? (opening :: (params ++ closing :: body)) = some span → cover? body = some inner →
      Relaid source tokens gaps span (inner.text source)
        (laid source body (gaps.drop (before.length + params.length + 2)))

/-- The body ends where the closure ends, so its length says where it begins. -/
theorem Relaid.exists_run {source : Text} {tokens : List Token} {gaps : List Text} {span : Span}
    {body other : Text} (relaid : Relaid source tokens gaps span body other)
    (lexed : Lexed .start source tokens) :
    ∃ before run after inner, tokens = before ++ (run ++ after) ∧ cover? run = some inner ∧
      inner.stop = span.stop ∧ inner.start + body.length = span.stop ∧
      other = laid source run (gaps.drop before.length) := by
  rcases relaid with
    @⟨before, params, run, after, opening, closing, inner, split, _, _, _, whole, covered⟩
  have place : tokens = (before ++ opening :: (params ++ [closing])) ++ (run ++ after) := by
    simp [split]
  have count : (before ++ opening :: (params ++ [closing])).length =
      before.length + params.length + 2 := by
    simp only [List.length_append, List.length_cons, List.length_nil]
    omega
  rcases cover?_eq_some_iff.1 covered with ⟨first, last, first_eq, last_eq, inner_eq⟩
  have stop_eq : inner.stop = span.stop := by
    rcases cover?_eq_some_iff.1 whole with ⟨_, ending, _, ending_eq, rfl⟩
    have last_eq' : (opening :: (params ++ closing :: run)).getLast? = some last := by
      simp [List.getLast?_cons, last_eq]
    cases last_eq'.symm.trans ending_eq
    rw [inner_eq, Span.through, Span.through]
  have whole_length : inner.start + (inner.text source).length = inner.stop := by
    have firstMember := List.mem_of_mem_head? first_eq
    have proper := lexed.ordered.proper first (by simp [place, firstMember])
    have within := (lexed.stands last (by simp [place, List.mem_of_getLast? last_eq])).located
    have ordered : Ordered run := (place ▸ lexed.ordered).right.left
    have stop_le := ordered.stop_le_getLast firstMember last_eq
    have length_eq : ((first.span.through last.span).text source).length =
        last.span.stop - first.span.start :=
      Span.length_text within.stop_le_length
    rw [inner_eq, length_eq, Span.through]
    dsimp only
    omega
  exact ⟨_, run, after, inner, place, covered, stop_eq, stop_eq ▸ whole_length, by rw [count]⟩

/-- A closure is told from others by its span, also from those that are written alike: its
body has one new layout. -/
theorem Relaid.unique {source : Text} {tokens : List Token} {gaps : List Text} {span : Span}
    {body other other' : Text} (lexed : Lexed .start source tokens)
    (relaid : Relaid source tokens gaps span body other)
    (relaid' : Relaid source tokens gaps span body other') : other = other' := by
  rcases relaid.exists_run lexed with ⟨before, run, after, inner, split, covered, stop, start, rfl⟩
  rcases relaid'.exists_run lexed with
    ⟨before', run', after', inner', split', covered', stop', start', rfl⟩
  have start_eq : inner.start = inner'.start := by omega
  have found := Ordered.filter_of_cover? (split ▸ lexed.ordered) covered
  have found' := Ordered.filter_of_cover? (split' ▸ lexed.ordered) covered'
  rw [← split, start_eq, stop] at found
  rw [← split', stop'] at found'
  rw [← found.1, ← found.2, found'.1, found'.2]

/-- The first few new tokens cover the text in which they are laid out. -/
theorem cover_text_respaced {source passed : Text} {run after : List Token} {gaps : List Text}
    {span : Span} (nonempty : run ≠ []) (length_le : run.length ≤ gaps.length)
    (covered : cover? ((respaced source (Position.start.walk passed) (run ++ after) gaps).take
      run.length) = some span) :
    span.text (passed ++ spread source (run ++ after) gaps) = laid source run gaps := by
  rcases @exists_getLast?_respaced source (Position.start.walk passed) gaps run after nonempty
    length_le with ⟨last, last_eq, stop_eq⟩
  rcases @exists_spread_eq_laid source gaps run after nonempty length_le with ⟨rest, split⟩
  rcases cover?_eq_some_iff.1 covered with ⟨first, other, first_eq, other_eq, rfl⟩
  cases last_eq.symm.trans other_eq
  have start_eq : first.span.start = passed.length := by
    rcases List.exists_cons_of_ne_nil nonempty with ⟨token, run, rfl⟩
    cases gaps with
    | nil => simp at length_le
    | cons gap gaps =>
        rw [List.cons_append, respaced, List.length_cons, List.take_succ_cons,
          List.head?_cons] at first_eq
        cases first_eq
        simp
  rw [Span.text, Span.through, start_eq, stop_eq, split]
  simp [Text.slice, List.take_append]

/-- A run of the new tokens covers the texts of the old ones with the new gaps between
them. -/
theorem text_of_zip {source passed : Text} {tokens : List Token} {gaps : List Text}
    (length_eq : gaps.length = tokens.length)
    (reordered : Ordered (respaced source (Position.start.walk passed) tokens gaps))
    {before run after : List (Token × Token)}
    (split : before ++ (run ++ after) =
      tokens.zip (respaced source (Position.start.walk passed) tokens gaps))
    {span : Span} (covered : Grammar.spanOf? (run.map Prod.snd) = some span) :
    span.text (passed ++ spread source tokens gaps) =
      laid source (run.map Prod.fst) (gaps.drop before.length) := by
  have sameLength := @respaced_length source (Position.start.walk passed) tokens gaps length_eq
  have firsts := congrArg (List.map Prod.fst) split
  have seconds := congrArg (List.map Prod.snd) split
  rw [List.map_fst_zip (Nat.le_of_eq sameLength.symm), List.map_append, List.map_append] at firsts
  rw [List.map_snd_zip (Nat.le_of_eq sameLength), List.map_append, List.map_append] at seconds
  subst firsts
  -- Cut the gaps where the run begins.
  have cut : (gaps.take before.length).length = (before.map Prod.fst).length := by
    simp only [List.length_append, List.length_map] at length_eq
    simp only [List.length_take, List.length_map]
    omega
  have enough : (run.map Prod.fst).length ≤ (gaps.drop before.length).length := by
    simp only [List.length_append, List.length_map] at length_eq
    simp only [List.length_drop, List.length_map]
    omega
  have gaps_eq := (List.take_append_drop before.length gaps).symm
  generalize gaps.take before.length = front at cut gaps_eq
  generalize gaps.drop before.length = back at enough gaps_eq ⊢
  subst gaps_eq
  rw [respaced_append cut, ← Position.walk_append] at seconds reordered
  rcases List.append_inj seconds (by rw [List.length_map, respaced_length cut, List.length_map])
    with ⟨_, behind⟩
  have run_eq : run.map Prod.snd = (respaced source
      (Position.start.walk (passed ++ spread source (before.map Prod.fst) front))
      (run.map Prod.fst ++ after.map Prod.fst) back).take (run.map Prod.fst).length := by
    rw [← behind, List.length_map, ← List.length_map Prod.snd, List.take_left]
  rw [run_eq, spanOf?_eq_cover? (reordered.right.sublist (List.take_sublist _ _))] at covered
  have nonempty : run.map Prod.fst ≠ [] := by
    intro empty
    rw [empty] at covered
    cases covered
  rw [spread_append cut, ← List.append_assoc]
  exact cover_text_respaced nonempty enough covered

/-! ## Aligning two layouts -/

/-- The tokens of an annotation in two layouts. -/
def Alignment.spacing (source : Text) {tokens : List Token} (spacing : Spacing tokens.length) :
    Alignment where
  toNearness := .anywhere
  left := source
  right := spacing.text source
  pairs := tokens.zip (spacing.tokens source)
  alike := by
    intro pair member
    rcases respaced_text pair member with ⟨kind_eq, value_eq, _⟩
    exact ⟨kind_eq, value_eq, trivial⟩
  text_eq := by
    intro pair member
    exact (respaced_text pair member).2.2

/-- Corresponding bodies are the same body in two layouts. -/
theorem Alignment.relaid_of_spacing {source : Text} {tokens : List Token}
    {spacing : Spacing tokens.length} (ordered : Ordered tokens)
    (reordered : Ordered (spacing.tokens source)) {span : Span} {body other : Text}
    (bodies : (Alignment.spacing source spacing).Bodies span body other) :
    Relaid source tokens spacing.gaps span body other := by
  rcases bodies with
    @⟨opening, closing, params, run, inner, inner', ⟨before, after, split⟩, isOpening, isClosing,
      unbroken, left, right, rfl⟩
  have sameLength : (spacing.tokens source).length = tokens.length :=
    respaced_length spacing.length_eq
  have shape : tokens = before.map Prod.fst ++
      (opening.1 :: (params.map Prod.fst ++ closing.1 :: run.map Prod.fst) ++
        after.map Prod.fst) := by
    have firsts := congrArg (List.map Prod.fst) split
    rw [show (Alignment.spacing source spacing).pairs.map Prod.fst = tokens from
      List.map_fst_zip (Nat.le_of_eq sameLength.symm)] at firsts
    simpa using firsts.symm
  have whole :
      Ordered ([opening.1] ++ (params.map Prod.fst ++ [closing.1] ++ run.map Prod.fst)) := by
    rw [shape] at ordered
    simpa using ordered.right.left
  rw [spanOf?_eq_cover? whole.right.right] at left
  have covered := whole.cover?_between rfl left
  rw [List.append_assoc, List.singleton_append, List.singleton_append] at covered
  have behind : before ++ opening :: (params ++ [closing]) ++ (run ++ after) =
      (Alignment.spacing source spacing).pairs := by
    simpa using split
  have count : (before ++ opening :: (params ++ [closing])).length =
      (before.map Prod.fst).length + (params.map Prod.fst).length + 2 := by
    simp only [List.length_append, List.length_cons, List.length_map, List.length_nil]
    omega
  have text_eq := text_of_zip spacing.length_eq reordered behind right
  rw [count] at text_eq
  change Relaid source tokens spacing.gaps (opening.1.span.join inner) (inner.text source)
    (inner'.text (spacing.lead ++ spread source tokens spacing.gaps))
  rw [text_eq]
  exact .closure shape isOpening isClosing unbroken covered left

/-- The feeds over the tokens in two layouts are in step. -/
theorem Alignment.spacing_inStep {source : Text} {tokens : List Token} (nested : Nested tokens)
    (spacing : Spacing tokens.length) {mark mark' : Token} (eof : mark.kind = .eof)
    (same : mark.Alike Nearness.anywhere.near mark') :
    (Alignment.spacing source spacing).InStep (.ofTokens (tokens ++ [mark]) source)
      (.ofTokens (spacing.tokens source ++ [mark']) (spacing.text source)) := by
  have sameLength : (spacing.tokens source).length = tokens.length :=
    respaced_length spacing.length_eq
  refine ⟨rfl, rfl, ?_, ?_, ⟨_, List.infix_refl _, ?_, ?_⟩, ?_⟩
  · rwa [Feed.ofTokens_last]
  · rwa [Feed.ofTokens_last, Feed.ofTokens_last]
  · rw [Feed.ofTokens_ahead]
    exact (List.map_fst_zip (Nat.le_of_eq sameLength.symm)).symm
  · rw [Feed.ofTokens_ahead]
    exact (List.map_snd_zip (Nat.le_of_eq sameLength)).symm
  · rwa [Feed.ofTokens_ahead]

/-! ## Whole annotations -/

/-- Layout does not matter: an annotation that is written down again with other
blanks has the same tokens, but for their places, and for every type and all
capabilities it is refused for the same cause, or declares the same but for places
and the bodies of closures, which are laid out anew, each in one way. -/
theorem parse_spacing {source : Text} {tokens : List Token} {mark : Token}
    (tokenized : tokenize source = .ok (tokens ++ [mark])) (spacing : Spacing tokens.length) :
    (∃ tokens', tokenize (spacing.text source) = .ok tokens' ∧
      tokens'.map (fun token => (token.kind, token.value)) =
        (tokens ++ [mark]).map fun token => (token.kind, token.value)) ∧
      (∀ family enabled,
        Outcome.Alike (fun _ _ => True)
            (RawDeclaration.Alike (fun _ _ => True) (Relaid source tokens spacing.gaps))
            (RawDeclaration.parse source family enabled).2
            (RawDeclaration.parse (spacing.text source) family enabled).2 ∧
          Outcome.Alike (fun _ _ => True)
            (Declaration.Alike (fun _ _ => True) (Somewhere (Relaid source tokens spacing.gaps)))
            (Declaration.parse source family enabled).2
            (Declaration.parse (spacing.text source) family enabled).2) ∧
      ∀ span body other other', Relaid source tokens spacing.gaps span body other →
        Relaid source tokens spacing.gaps span body other' → other = other' := by
  rcases tokenize_spacing tokenized spacing with ⟨relexed, retokenized⟩
  rcases tokenize_eq_ok_iff.1 tokenized with ⟨found, lexed, nested, same⟩
  rcases List.append_inj' same rfl with ⟨rfl, marks⟩
  cases marks
  refine ⟨?_, ?_, fun _ _ _ _ => Relaid.unique lexed⟩
  · refine ⟨_, retokenized, ?_⟩
    rw [List.map_append, List.map_append]
    exact congrArg (· ++ _) (respaced_map spacing.length_eq)
  · intro family enabled
    have step := @Alignment.spacing_inStep source tokens nested spacing
      (Scanner.endMark (Position.start.walk source))
      (Scanner.endMark (Position.start.walk (spacing.text source))) rfl ⟨rfl, rfl, trivial⟩
    have alike := (Alignment.readRaw_alike family enabled step).mono fun _ _ same =>
      same.mono fun _ _ _ => Alignment.relaid_of_spacing lexed.ordered relexed.ordered
    rw [Declaration.parse_snd, Declaration.parse_snd, RawDeclaration.parse_snd,
      RawDeclaration.parse_snd, tokenized, retokenized]
    exact ⟨alike, alike.bind fun _ _ same => same.check⟩

/-- The tokens of `sanitize(with=|x|f(x))`. -/
def sampleTokens : List Token :=
  [⟨.identifier, "sanitize".toList, ⟨0, 8, 1, 1⟩⟩, ⟨.opening .round, ['('], ⟨8, 9, 1, 9⟩⟩,
    ⟨.identifier, "with".toList, ⟨9, 13, 1, 10⟩⟩, ⟨.equals, ['='], ⟨13, 14, 1, 14⟩⟩,
    ⟨.pipe, ['|'], ⟨14, 15, 1, 15⟩⟩, ⟨.identifier, ['x'], ⟨15, 16, 1, 16⟩⟩,
    ⟨.pipe, ['|'], ⟨16, 17, 1, 17⟩⟩, ⟨.identifier, ['f'], ⟨17, 18, 1, 18⟩⟩,
    ⟨.opening .round, ['('], ⟨18, 19, 1, 19⟩⟩, ⟨.identifier, ['x'], ⟨19, 20, 1, 20⟩⟩,
    ⟨.closing .round, [')'], ⟨20, 21, 1, 21⟩⟩, ⟨.closing .round, [')'], ⟨21, 22, 1, 22⟩⟩]

/-- Blanks in front of these tokens and between them. -/
def sampleSpacing : Spacing sampleTokens.length where
  lead := ['\n']
  gaps := [[' '], [' '], [' '], [' '], [' '], [' '], [' '], ['\t'], ['\n'], [' '], [' '], []]
  length_eq := rfl
  lead_blank := Text.blank_iff_all.2 (by decide)
  gaps_blank := by simp [Text.Blank]; decide
  gaps_ne_nil := by decide

/-- A closure with blanks in its body and around it. -/
theorem parse_spacing_closure :
    tokenize "sanitize(with=|x|f(x))".toList =
        .ok (sampleTokens ++ [⟨.eof, [], ⟨22, 22, 1, 23⟩⟩]) ∧
      sampleSpacing.text "sanitize(with=|x|f(x))".toList =
        "\nsanitize ( with = | x | f\t(\nx ) )".toList ∧
      (∃ tokens, tokenize "\nsanitize ( with = | x | f\t(\nx ) )".toList = .ok tokens ∧
        tokens.map (fun token => (token.kind, token.value)) =
          sampleTokens.map (fun token => (token.kind, token.value)) ++ [(.eof, [])]) ∧
      (∃ declaration other,
        (Declaration.parse "sanitize(with=|x|f(x))".toList .string {}).2 = .ok declaration ∧
        (Declaration.parse "\nsanitize ( with = | x | f\t(\nx ) )".toList .string {}).2 =
          .ok other ∧
        declaration.Alike (fun _ _ => True)
          (Somewhere (Relaid "sanitize(with=|x|f(x))".toList sampleTokens sampleSpacing.gaps))
          other) ∧
      Relaid "sanitize(with=|x|f(x))".toList sampleTokens sampleSpacing.gaps ⟨14, 21, 1, 15⟩
        "f(x)".toList "f\t(\nx )".toList := by
  have tokenized : tokenize "sanitize(with=|x|f(x))".toList =
      .ok (sampleTokens ++ [⟨.eof, [], ⟨22, 22, 1, 23⟩⟩]) := by
    decide +kernel
  have text_eq : sampleSpacing.text "sanitize(with=|x|f(x))".toList =
      "\nsanitize ( with = | x | f\t(\nx ) )".toList := by
    decide +kernel
  have parsed : (RawDeclaration.parse "sanitize(with=|x|f(x))".toList .string {}).2 =
      .ok
        { guard := .string
            { sanitizers :=
                [⟨{ kind := .custom
                    function := some
                      { form := .closure, param := some ['x'], body := some "f(x)".toList
                        inputType := "String".toList } }, ⟨14, 21, 1, 15⟩⟩] }
          newUnchecked := false
          defaultValue := none } := by
    decide +kernel
  have reparsed :
      (RawDeclaration.parse "\nsanitize ( with = | x | f\t(\nx ) )".toList .string {}).2 =
        .ok
          { guard := .string
              { sanitizers :=
                  [⟨{ kind := .custom
                      function := some
                        { form := .closure, param := some ['x'], body := some "f\t(\nx )".toList
                          inputType := "String".toList } }, ⟨19, 32, 2, 19⟩⟩] }
            newUnchecked := false
            defaultValue := none } := by
    decide +kernel
  rcases parse_spacing tokenized sampleSpacing with ⟨retokenized, alike, _⟩
  rcases alike .string {} with ⟨raws, declarations⟩
  rw [text_eq] at retokenized raws declarations
  rw [List.map_append] at retokenized
  refine ⟨tokenized, text_eq, retokenized, declarations.exists_ok (by decide +kernel), ?_⟩
  rw [parsed, reparsed] at raws
  cases raws with
  | ok same =>
      cases same.guard with
      | string items =>
          cases items.sanitizers with
          | cons first _ =>
              cases first.item.function with
              | some function =>
                  cases function.body with
                  | some body => exact body

end GuardLang

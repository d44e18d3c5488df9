import GuardLang.Proofs.Grammar.Parts
import GuardLang.Proofs.Grammar.Rules
import GuardLang.Proofs.Parser.Reads

/-!
# Rules that are read exactly

Each parser of the grammar reads its rule.  A path goes on as long as separators
follow, and the body of a closure as long as no comma does, so these two and what
ends with them are read where an item ends.
-/

namespace GuardLang

/-! ## Paths -/

namespace Rule

variable {tokens : List Token} {text : Text}

/-- A path begins with a name. -/
theorem Path.starts (path : Path tokens text) : firstKind? tokens = some .identifier := by
  induction path with
  | name identifier => simp [identifier]
  | segment _ _ _ ih => exact firstKind?_append ih _

/-- No token of a path is a bracket or a comma. -/
theorem Path.unbroken (path : Path tokens text) : Unbroken tokens := by
  induction path with
  | name identifier => exact .of_kind identifier rfl (by simp) .nil
  | segment _ separates identifier ih =>
      refine ih.append ?_
      rcases separates with dot | colons
      · exact .of_kind dot rfl (by simp) (.of_kind identifier rfl (by simp) .nil)
      · exact .of_kind colons rfl (by simp) (.of_kind identifier rfl (by simp) .nil)

theorem Path.nested (path : Path tokens text) : Nested tokens :=
  path.unbroken.nested

theorem Path.exists_cover? (path : Path tokens text) : ∃ span, cover? tokens = some span := by
  cases tokens with
  | nil => cases path.starts
  | cons token tokens => exact exists_cover?_cons token tokens

theorem TypeName.exists_cover? (type : TypeName tokens text) :
    ∃ span, cover? tokens = some span := by
  cases type with
  | path path => exact path.exists_cover?
  | reference _ _ => exact exists_cover?_cons _ _
  | lifetime _ _ _ => exact exists_cover?_cons _ _

/-- No token of a type is a bracket or a comma. -/
theorem TypeName.unbroken (type : TypeName tokens text) : Unbroken tokens := by
  cases type with
  | path path => exact path.unbroken
  | reference ampersand path => exact .of_kind ampersand rfl (by simp) path.unbroken
  | lifetime ampersand lifetime path =>
      exact .of_kind ampersand rfl (by simp) (.of_kind lifetime rfl (by simp) path.unbroken)

theorem TypeName.nested (type : TypeName tokens text) : Nested tokens :=
  type.unbroken.nested

end Rule

/-- A place where a path ends: the next token is no separator. -/
def PathEnd (tokens : List Token) : Prop :=
  ∀ kind ∈ firstKind? tokens, Grammar.isSeparator kind = false

namespace Grammar

variable {source : Text}

theorem segments_of_pathEnd {tokens : List Token} (ending : PathEnd tokens) (read : Spanned Text) :
    segments read tokens = (.ok read, 0) := by
  rcases tokens with _ | ⟨separator, _ | ⟨name, more⟩⟩
  · rfl
  · rfl
  · rw [segments, if_neg (by simp [ending separator.kind rfl])]

/-- What segments add to a path makes a longer path. -/
theorem path_of_segments {passed tokens : List Token} {read value : Spanned Text} {taken : Nat}
    (ran : segments read tokens = (.ok value, taken)) (path : Rule.Path passed read.item)
    (covered : Ordered passed → cover? passed = some read.span) :
    Rule.Path (passed ++ tokens.take taken) value.item ∧
      (Ordered (passed ++ tokens.take taken) →
        cover? (passed ++ tokens.take taken) = some value.span) := by
  fun_induction segments read tokens generalizing passed taken with
  | case1 read separator name more isSep isName outcome n rec ih =>
      cases ran
      have longer := ih rec (path.segment (isSeparator_iff.1 isSep) isName) (fun ordered =>
        @Ordered.cover?_between passed [name] [separator] ordered _ _ (covered ordered.left)
          (cover?_singleton name))
      simpa using longer
  | case2 => cases ran
  | case3 =>
      cases ran
      simpa using ⟨path, covered⟩
  | case4 =>
      cases ran
      simpa using ⟨path, covered⟩

/-- A path is read from its first name on. -/
theorem segments_of_path {tokens : List Token} {text : Text} (path : Rule.Path tokens text)
    {first : Token} {rest : List Token} (split : tokens = first :: rest) (ordered : Ordered tokens)
    {span : Span} (covered : cover? tokens = some span) (more : List Token) :
    segments ⟨first.value, first.span⟩ (rest ++ more) =
      ((segments ⟨text, span⟩ more).1, (segments ⟨text, span⟩ more).2 + rest.length) := by
  induction path generalizing first rest span more with
  | @name name identifier =>
      cases split
      cases covered
      rfl
  | @segment tokens text separator name path separates identifier ih =>
      cases tokens with
      | nil => cases path.starts
      | cons other tokens =>
          rw [List.cons_append] at split
          rcases List.cons.inj split with ⟨rfl, rfl⟩
          rcases exists_cover?_cons other tokens with ⟨inner, inside⟩
          have joined := @Ordered.cover?_between _ [name] [separator] ordered _ _ inside
            (cover?_singleton name)
          cases covered.symm.trans joined
          have read := ih rfl ordered.left inside (separator :: name :: more)
          rw [segments, if_pos (isSeparator_iff.2 separates), if_pos identifier] at read
          simp only [List.append_assoc, List.cons_append, List.nil_append, read,
            List.length_append, List.length_cons, List.length_nil]
          congr 1
          omega

/-- A path is read up to where its separators end. -/
theorem path_reads : path.Reads source (Rule.Whole Rule.Path) PathEnd := by
  constructor
  · intro feed rest value tidy ran
    rcases Parser.run_bind_eq_ok_iff.1 ran with ⟨first, middle, expected, took⟩
    rcases Parser.cons_of_run_expect tidy.last_kind (by simp) expected with
      ⟨tokens, ahead, identifier, rfl⟩
    have behind : (feed.skip 1).ahead = tokens := by simp [ahead]
    rw [Parser.run_takeBy] at took
    rcases Prod.mk.inj took with ⟨outcome, rfl⟩
    generalize reading : segments ⟨first.value, first.span⟩ ((feed.skip 1).window 2) = read at *
    rcases read with ⟨_, taken⟩
    cases outcome
    rcases path_of_segments reading (.name identifier) (fun _ => rfl) with ⟨longer, covered⟩
    have fits : taken ≤ tokens.length := by
      have last : (feed.skip 1).last.kind = .eof := tidy.last_kind
      rw [← behind]
      apply Feed.le_of_take_window last
      intro token member
      exact longer.nested.kind_ne_eof token (List.mem_cons_of_mem _ member)
    have taken_eq : ((feed.skip 1).window 2).take taken = tokens.take taken := by
      rw [Feed.window, behind, List.take_append_of_le_length fits]
    rw [taken_eq] at longer covered
    have whole : feed.ahead = ([first] ++ tokens.take taken) ++ tokens.drop taken := by
      simp [ahead]
    refine ⟨_, _, whole, ?_, longer, covered (tidy.ordered_taken whole)⟩
    rw [Feed.skip_skip]
    simp [fits, Nat.add_comm]
  · rintro feed taken more ⟨text, span⟩ tidy ahead ⟨path, covered⟩ ending
    cases taken with
    | nil => cases path.starts
    | cons first rest =>
        have identifier : first.kind = .identifier := Option.some.inj path.starts
        have expected := Parser.run_expect_of_cons ahead identifier (by simp)
        have window : (feed.skip 1).window 2 = rest ++ (more ++ [feed.last, feed.last]) := by
          simp [Feed.window, ahead, List.replicate]
        have ending' : PathEnd (more ++ [feed.last, feed.last]) := by
          cases more with
          | nil => simp [PathEnd, tidy.last_kind, isSeparator]
          | cons token more => exact ending
        have read := segments_of_path path rfl (tidy.ordered_taken ahead) covered
          (more ++ [feed.last, feed.last])
        rw [segments_of_pathEnd ending'] at read
        rw [Grammar.path, Parser.run_bind, expected]
        dsimp only
        rw [Parser.run_takeBy, window, read, Feed.skip_skip]
        simp [Nat.add_comm]
  · rintro taken value ⟨path, _⟩
    exact path.nested

/-! ## Types -/

theorem reference_reads (ampersand : Token) (lifetime : Text) :
    (reference ampersand lifetime).Reads source
      (Rule.Mapped (Rule.Whole Rule.Path) fun referent =>
        ⟨'&' :: lifetime ++ referent.item, ampersand.span.join referent.span⟩) PathEnd :=
  path_reads.map _

/-- A type is read up to where its path ends. -/
theorem type_reads : type.Reads source (Rule.Whole Rule.TypeName) PathEnd := by
  rw [type_eq]
  refine (Parser.Reads.ifTaken rfl (fun ampersand => Parser.Reads.ifTaken rfl
    (fun lifetime => reference_reads ampersand (lifetime.value ++ [' ']))
    (reference_reads ampersand []) ?_) path_reads ?_).congr ?_ ?_
  · rintro taken more _ ⟨referent, ⟨path, _⟩, rfl⟩ _
    simp [firstKind?_append path.starts]
  · rintro taken more value ⟨path, _⟩ _
    simp [firstKind?_append path.starts]
  · intro tokens value ordered
    constructor
    · rintro (derived | derived)
      · rcases Rule.seq_single_iff.1 derived with ⟨ampersand, rest, rfl, isAmpersand, derived⟩
        rcases derived with derived | ⟨referent, ⟨path, covered⟩, rfl⟩
        · rcases Rule.seq_single_iff.1 derived with
            ⟨lifetime, rest, rfl, isLifetime, referent, ⟨path, covered⟩, rfl⟩
          exact ⟨.lifetime isAmpersand isLifetime path,
            @Ordered.cover?_between [ampersand] rest [lifetime] ordered _ _ rfl covered⟩
        · exact ⟨.reference isAmpersand path,
            @Ordered.cover?_append [ampersand] rest ordered _ _ rfl covered⟩
      · exact ⟨.path derived.1, derived.2⟩
    · rcases value with ⟨text, span⟩
      rintro ⟨derived, covered⟩
      cases derived with
      | path path => exact .inr ⟨path, covered⟩
      | @reference ampersand rest text isAmpersand path =>
          rcases path.exists_cover? with ⟨inner, inside⟩
          cases covered.symm.trans
            (@Ordered.cover?_append [ampersand] rest ordered _ _ rfl inside)
          exact .inl (Rule.seq_single_iff.2
            ⟨ampersand, rest, rfl, isAmpersand, .inr ⟨⟨text, inner⟩, ⟨path, inside⟩, rfl⟩⟩)
      | @lifetime ampersand lifetime rest text isAmpersand isLifetime path =>
          rcases path.exists_cover? with ⟨inner, inside⟩
          cases covered.symm.trans
            (@Ordered.cover?_between [ampersand] rest [lifetime] ordered _ _ rfl inside)
          exact .inl (Rule.seq_single_iff.2 ⟨ampersand, _, rfl, isAmpersand,
            .inl (Rule.seq_single_iff.2
              ⟨lifetime, rest, rfl, isLifetime, ⟨text, inner⟩, ⟨path, inside⟩, rfl⟩)⟩)
  · rintro taken value ⟨derived, _⟩
    exact derived.nested

end Grammar

/-! ## Functions -/

/-- Types are compared without blanks. -/
theorem Text.sameButWhitespace_iff {text other : Text} :
    text.SameButWhitespace other ↔ text.withoutBlanks = other.withoutBlanks := by
  have visible : (fun c : Char => decide (c.toNat ∉ whitespace)) = fun c => !isBlank c := by
    funext c
    rw [Bool.eq_iff_iff, decide_eq_true_iff, ← isBlank_iff]
    simp
  rw [SameButWhitespace, visible]
  exact Iff.rfl

/-- A function fits a slot if the type of its parameter is the one expected or is
left out. -/
theorem FunctionRef.bind_eq_ok_iff {function : FunctionRef} {expected : Text}
    {bound : BoundFunction} :
    function.bind expected = .ok bound ↔
      (∀ actual ∈ function.paramType, actual.SameButWhitespace expected) ∧
        bound = { form := function.form, path := function.path, param := function.param,
                  body := function.body, inputType := expected } := by
  simp only [Text.sameButWhitespace_iff]
  unfold FunctionRef.bind
  cases function.paramType with
  | none => simp [eq_comm]
  | some actual =>
      by_cases same : actual.withoutBlanks = expected.withoutBlanks
      · simp [same, eq_comm]
      · simp [same]

/-! ## Literals -/

/-- A type reads literals as what they denote, alone and behind a minus sign. -/
def LiteralType.Meets {α : Type} (type : LiteralType α) (denotes : Denotation α) : Prop :=
  ∀ {literal : Text}, Lexeme.IsNumber literal → ∀ negative value,
    type.read (Number.signText negative ++ Number.withoutUnderscores literal) = .ok value ↔
      denotes negative literal value

theorem IntegerType.literals_meet (type : IntegerType) : type.literals.Meets type.Denotes :=
  fun isNumber _ _ => read_literal_iff isNumber

theorem FloatType.literals_meet (type : FloatType) : type.literals.Meets type.Denotes :=
  fun isNumber _ _ => read_literal_iff isNumber

/-! ## Closures and functions -/

/-- No separator stands where an item ends. -/
theorem ItemEnd.pathEnd {tokens : List Token} (ending : ItemEnd tokens) : PathEnd tokens := by
  cases tokens with
  | nil => simp [PathEnd]
  | cons token tokens => simp [PathEnd, itemEnd_cons_iff.1 ending, Grammar.isSeparator]

namespace Rule

variable {source : Text} {tokens : List Token}

/-- The bar behind the parameter of a closure, and the body. -/
def ClosureEnd (source : Text) (opening param : Token) (paramType : Option Text)
    (tokens : List Token) (function : FunctionRef) : Prop :=
  ∃ closing body bodySpan, tokens = closing :: body ∧ closing.kind = .pipe ∧ Unbroken body ∧
    cover? body = some bodySpan ∧
    function = { form := .closure, param := some param.value, paramType,
                 body := some (bodySpan.text source), span := opening.span.join bodySpan }

theorem ClosureEnd.starts {opening param : Token} {paramType : Option Text}
    {function : FunctionRef} (closureEnd : ClosureEnd source opening param paramType tokens function) :
    firstKind? tokens = some .pipe := by
  rcases closureEnd with ⟨closing, body, bodySpan, rfl, pipe, _⟩
  rw [firstKind?_cons, pipe]

theorem ParamType.unbroken {paramType : Option Text} (typing : ParamType tokens paramType) :
    Unbroken tokens := by
  cases typing with
  | none => exact .nil
  | typed colon type => exact .of_kind colon rfl (by simp) type.unbroken

/-- All commas of a closure stand in brackets. -/
theorem Closure.unbroken {function : FunctionRef} (closure : Closure source tokens function) :
    Unbroken tokens := by
  cases closure with
  | closure opening param typing closing unbroken _ _ =>
      refine .of_kind opening rfl (by simp) (.of_kind param rfl (by simp) ?_)
      exact typing.unbroken.append (.of_kind closing rfl (by simp) unbroken)

theorem Closure.nested {function : FunctionRef} (closure : Closure source tokens function) :
    Nested tokens :=
  closure.unbroken.nested

theorem Closure.starts {function : FunctionRef} (closure : Closure source tokens function) :
    firstKind? tokens = some .pipe := by
  cases closure with
  | closure opening _ _ _ _ _ _ => rw [firstKind?_cons, opening]

/-- A closure goes from its first bar to the end of its body. -/
theorem closure_iff {function : FunctionRef} (ordered : Ordered tokens) :
    Closure source tokens function ↔
      ∃ opening param typing paramType rest,
        tokens = opening :: param :: (typing ++ rest) ∧ opening.kind = .pipe ∧
        param.kind = .identifier ∧ ParamType typing paramType ∧
        ClosureEnd source opening param paramType rest function := by
  have covers : ∀ {opening param closing : Token} {typing body : List Token} {span : Span},
      tokens = opening :: param :: (typing ++ closing :: body) → cover? body = some span →
      cover? tokens = some (opening.span.join span) := by
    intro opening param closing typing body span shape covered
    have split : tokens = [opening] ++ (param :: (typing ++ [closing]) ++ body) := by
      simp [shape]
    rw [split] at ordered ⊢
    exact ordered.cover?_between rfl covered
  constructor
  · intro closure
    cases closure with
    | closure opening param typing closing unbroken inside covered =>
        cases covered.symm.trans (covers rfl inside)
        exact ⟨_, _, _, _, _, rfl, opening, param, typing, _, _, _, rfl, closing, unbroken,
          inside, rfl⟩
  · rintro ⟨opening, param, typing, paramType, _, rfl, isOpening, isParam, annotated,
      closing, body, bodySpan, rfl, isClosing, unbroken, inside, rfl⟩
    exact .closure isOpening isParam annotated isClosing unbroken inside (covers rfl inside)

theorem Function.unbroken {function : FunctionRef} (derived : Function source tokens function) :
    Unbroken tokens := by
  cases derived with
  | path path _ => exact path.unbroken
  | closure closure => exact closure.unbroken

theorem Function.nested {function : FunctionRef} (derived : Function source tokens function) :
    Nested tokens :=
  derived.unbroken.nested

theorem Number.unbroken {α : Type} {denotes : Denotation α} {value : α}
    (number : Number denotes tokens value) : Unbroken tokens := by
  cases number with
  | plain isNumber _ => exact .of_kind isNumber rfl (by simp) .nil
  | negative minus isNumber _ =>
      exact .of_kind minus rfl (by simp) (.of_kind isNumber rfl (by simp) .nil)

theorem Number.nested {α : Type} {denotes : Denotation α} {value : α}
    (number : Number denotes tokens value) : Nested tokens :=
  number.unbroken.nested

theorem Pattern.unbroken {pattern : GuardLang.Pattern} (derived : Pattern tokens pattern) :
    Unbroken tokens := by
  cases derived with
  | literal string => exact .of_kind string rfl (by simp) .nil
  | path path => exact path.unbroken

theorem Pattern.nested {pattern : GuardLang.Pattern} (derived : Pattern tokens pattern) :
    Nested tokens :=
  derived.unbroken.nested

end Rule

namespace Grammar

variable {source : Text}

/-- The body of a closure is the run without a comma outside its brackets. -/
theorem closureBody_reads :
    closureBody.Reads source (fun tokens span => Unbroken tokens ∧ cover? tokens = span)
      ItemEnd := by
  have took : ∀ {feed : Feed} {body more : List Token}, feed.Tidy source →
      feed.ahead = body ++ more → Unbroken body → ItemEnd more →
      closureBody.run feed = (.ok (cover? body), feed.skip body.length) := by
    intro feed body more tidy ahead unbroken ending
    rw [closureBody, Parser.run_takeBy]
    dsimp only
    rw [ahead, bodyLength_of_unbroken unbroken ending, List.take_left,
      spanOf?_eq_cover? (tidy.ordered_taken ahead)]
  constructor
  · intro feed rest span tidy ran
    rcases tidy.nested.exists_unbroken with ⟨body, more, ahead, unbroken, ending⟩
    rw [took tidy ahead unbroken ending] at ran
    cases ran
    exact ⟨body, more, ahead, rfl, unbroken, rfl⟩
  · rintro feed body more span tidy ahead ⟨unbroken, rfl⟩ ending
    exact took tidy ahead unbroken ending
  · rintro body span ⟨unbroken, _⟩
    exact unbroken.nested

/-- What a closure with a given body is read as. -/
def closureOf (source : Text) (opening param : Token) (paramType : Option Text)
    (closing : Token) : Option Span → Except Fault FunctionRef
  | none => .error (.located .expectedClosureBody closing.span)
  | some body =>
    .ok { form := .closure, param := some param.value, paramType,
          body := some (body.text source), span := opening.span.join body }

/-- The end of a closure is read up to where the item ends. -/
theorem closureEnd_reads (opening param : Token) (paramType : Option Text) :
    (closureEnd opening param paramType).Reads source
      (Rule.ClosureEnd source opening param paramType) ItemEnd := by
  have reads : (closureEnd opening param paramType).Reads source
      (Rule.Seq (Rule.Single .pipe) fun closing =>
        Rule.Seq (fun tokens span => Unbroken tokens ∧ cover? tokens = span) fun body =>
          Rule.Given (closureOf source opening param paramType closing body)) ItemEnd := by
    refine Parser.Reads.expect_bind rfl fun closing =>
      closureBody_reads.bind (fun body => .given ?_) ?_
    · intro feed tidy
      rw [Parser.run_bind, Parser.run_feed]
      dsimp only
      rw [tidy.source_eq]
      cases body <;> rfl
    · rintro body _ more function ⟨rfl, _⟩ ending
      exact ending
  apply reads.congr
  · intro tokens function _
    rw [Rule.seq_single_iff]
    constructor
    · rintro ⟨closing, body, rfl, pipe, derived⟩
      rcases Rule.seq_given_iff.1 derived with ⟨_ | bodySpan, ⟨unbroken, covered⟩, finished⟩
      · cases finished
      · cases finished
        exact ⟨closing, body, bodySpan, rfl, pipe, unbroken, covered, rfl⟩
    · rintro ⟨closing, body, bodySpan, rfl, pipe, unbroken, covered, rfl⟩
      exact ⟨closing, body, rfl, pipe,
        Rule.seq_given_iff.2 ⟨some bodySpan, ⟨unbroken, covered⟩, rfl⟩⟩
  · rintro _ _ ⟨closing, body, bodySpan, rfl, pipe, unbroken, _, _⟩
    exact .plain (by rw [pipe]; rfl) unbroken.nested

/-- A closure is read up to where the item ends. -/
theorem closure_reads : closure.Reads source (Rule.Closure source) ItemEnd := by
  rw [closure_eq]
  refine (Parser.Reads.expect_bind rfl fun opening => Parser.Reads.expect_bind rfl fun param =>
    Parser.Reads.ifTaken rfl (fun _ => type_reads.bind
      (fun annotated => closureEnd_reads opening param (some annotated.item)) ?_)
    (closureEnd_reads opening param none) ?_).congr ?_ Rule.Closure.nested
  · intro annotated taken more function derived _
    simp [PathEnd, firstKind?_append derived.starts, isSeparator]
  · intro taken more function derived _
    simp [firstKind?_append derived.starts]
  · intro tokens function ordered
    rw [Rule.closure_iff ordered, Rule.seq_single_iff]
    simp only [Rule.seq_single_iff]
    constructor
    · rintro ⟨opening, _, rfl, isOpening, param, _, rfl, isParam, derived | derived⟩
      · rcases Rule.seq_single_iff.1 derived with
          ⟨colon, _, rfl, isColon, typing, rest, annotated, rfl, ⟨type, _⟩, ending⟩
        exact ⟨opening, param, colon :: typing, some annotated.item, rest, rfl, isOpening,
          isParam, .typed isColon type, ending⟩
      · exact ⟨opening, param, [], none, _, rfl, isOpening, isParam, .none, derived⟩
    · rintro ⟨opening, param, _, paramType, rest, rfl, isOpening, isParam, typing, ending⟩
      refine ⟨opening, _, rfl, isOpening, param, _, rfl, isParam, ?_⟩
      cases typing with
      | none => exact .inr ending
      | @typed colon typing text isColon type =>
          rcases type.exists_cover? with ⟨span, covered⟩
          exact .inl (Rule.seq_single_iff.2
            ⟨colon, _, rfl, isColon, typing, rest, ⟨text, span⟩, rfl, ⟨type, covered⟩, ending⟩)

/-- A function is read up to where the item ends. -/
theorem function_reads : function.Reads source (Rule.Function source) ItemEnd := by
  rw [function_eq]
  refine (Parser.Reads.ifAt (by simp) ((path_reads.weaken ItemEnd.pathEnd).map _)
    (Parser.Reads.ifAt (by simp) closure_reads (.fails ?_) Rule.Closure.starts ?_) ?_ ?_).congr
    ?_ Rule.Function.nested
  · intro feed rest function ran
    cases ran
  · intro taken more function derived
    exact derived.elim
  · rintro taken _ ⟨named, ⟨path, _⟩, rfl⟩
    exact path.starts
  · rintro taken more function (closure | none) _
    · simp [firstKind?_append closure.starts]
    · exact none.elim
  · intro tokens function ordered
    constructor
    · rintro (⟨named, ⟨path, covered⟩, rfl⟩ | closure | none)
      · exact .path path covered
      · exact .closure closure
      · exact none.elim
    · intro derived
      cases derived with
      | path path covered => exact .inl ⟨⟨_, _⟩, ⟨path, covered⟩, rfl⟩
      | closure closure => exact .inr (.inl closure)

/-- A function for a slot is read up to where the item ends. -/
theorem typedFunction_reads (expected : Text) :
    (typedFunction expected).Reads source (Rule.Custom source expected) ItemEnd := by
  refine (function_reads.bind (fun reference => .map (.given fun _ => rfl) _) ?_).congr ?_ ?_
  · rintro reference _ more function ⟨bound, ⟨rfl, _⟩, rfl⟩ ending
    exact ending
  · intro tokens function _
    constructor
    · rintro ⟨front, _, reference, rfl, derived, bound, ⟨rfl, fits⟩, rfl⟩
      rcases FunctionRef.bind_eq_ok_iff.1 fits with ⟨types, rfl⟩
      rw [List.append_nil]
      exact .function derived types
    · rintro ⟨derived, types⟩
      exact ⟨tokens, [], _, (List.append_nil _).symm, derived, _,
        ⟨rfl, FunctionRef.bind_eq_ok_iff.2 ⟨types, rfl⟩⟩, rfl⟩
  · rintro _ _ ⟨derived, _⟩
    exact derived.nested

/-! ## Numbers and patterns -/

theorem readLiteral_eq_ok_iff {α : Type} {type : LiteralType α} {sign : Text} {literal : Token}
    {span : Span} {value : Spanned α} :
    readLiteral type source sign literal span = .ok value ↔
      literal.kind = .number ∧ span = value.span ∧
        type.read (sign ++ Number.withoutUnderscores literal.value) = .ok value.item := by
  unfold readLiteral
  split
  · rename_i number
    cases type.read (sign ++ Number.withoutUnderscores literal.value) with
    | error _ => simp
    | ok read =>
        rcases value with ⟨item, place⟩
        simp [number, and_comm]
  · rename_i other
    simp [other]

/-- A literal of the source is read as what it denotes. -/
theorem readLiteral_iff_denotes {α : Type} {type : LiteralType α} {denotes : Denotation α}
    (meets : type.Meets denotes) {literal : Token} (stands : literal.Stands source)
    (negative : Bool) {other : Text} {span : Span} {value : Spanned α} :
    readLiteral type other (Number.signText negative) literal span = .ok value ↔
      literal.kind = .number ∧ span = value.span ∧ denotes negative literal.value value.item := by
  rw [readLiteral_eq_ok_iff]
  exact and_congr_right fun isNumber => and_congr_right fun _ =>
    meets (stands.isNumber isNumber) negative _

/-- A number is read wherever it stands. -/
theorem number_reads {α : Type} {type : LiteralType α} {denotes : Denotation α}
    (meets : type.Meets denotes) :
    (number type).Reads source (Rule.Whole (Rule.Number denotes)) Anywhere := by
  constructor
  · intro feed rest value tidy ran
    rcases tidy.current_cases with ⟨ahead, _⟩ | ⟨first, tokens, ahead, _, eof⟩
    · rw [run_number_of_nil ahead tidy.last_kind] at ran
      cases ran
    by_cases minus : first.kind = .minus
    · cases tokens with
      | nil =>
          rw [run_number_of_minus ahead minus tidy.last_kind] at ran
          cases ran
      | cons literal tokens =>
          have mark : literal.kind ≠ .eof := tidy.nested.kind_ne_eof literal (by simp [ahead])
          have sign := (tidy.stands first (by simp [ahead])).value_of_minus minus
          have stands := tidy.stands literal (by simp [ahead])
          rw [run_number_of_minus_cons ahead minus mark, sign] at ran
          rcases Prod.mk.inj ran with ⟨read, rfl⟩
          rcases (readLiteral_iff_denotes meets stands true).1 read with
            ⟨isNumber, span, denoted⟩
          refine ⟨[first, literal], tokens, ahead, rfl, .negative minus isNumber denoted, ?_⟩
          rw [← span]
          have ordered := @Feed.Tidy.ordered_taken _ _ ([first] ++ [literal]) tokens tidy ahead
          exact ordered.cover?_append rfl rfl
    · have stands := tidy.stands first (by simp [ahead])
      rw [run_number_of_cons ahead eof minus] at ran
      rcases Prod.mk.inj ran with ⟨read, rfl⟩
      rcases (readLiteral_iff_denotes meets stands false).1 read with
        ⟨isNumber, span, denoted⟩
      exact ⟨[first], tokens, ahead, rfl, .plain isNumber denoted, by rw [← span]; rfl⟩
  · rintro feed taken more ⟨item, span⟩ tidy ahead ⟨derived, covered⟩ _
    cases derived with
    | @plain literal _ isNumber denoted =>
        cases covered.symm.trans (cover?_singleton literal)
        have stands := tidy.stands literal (by simp [ahead])
        have read : readLiteral type feed.source [] literal literal.span =
            .ok ⟨item, literal.span⟩ :=
          (readLiteral_iff_denotes meets stands false).2 ⟨isNumber, rfl, denoted⟩
        rw [run_number_of_cons ahead (by simp [isNumber]) (by simp [isNumber]), read]
        rfl
    | @negative sign literal _ minus isNumber denoted =>
        have ordered := @Feed.Tidy.ordered_taken _ _ ([sign] ++ [literal]) more tidy ahead
        cases covered.symm.trans (ordered.cover?_append rfl rfl)
        have value := (tidy.stands sign (by simp [ahead])).value_of_minus minus
        have stands := tidy.stands literal (by simp [ahead])
        have read : readLiteral type feed.source ['-'] literal
            (sign.span.join literal.span) = .ok ⟨item, sign.span.join literal.span⟩ :=
          (readLiteral_iff_denotes meets stands true).2 ⟨isNumber, rfl, denoted⟩
        rw [run_number_of_minus_cons ahead minus (by simp [isNumber]), value, read]
        rfl
  · rintro taken value ⟨derived, _⟩
    exact derived.nested

/-- A pattern is chosen by the next token. -/
theorem pattern_sameValues :
    pattern.SameValues (do
      if ← Parser.isAt [.string] then
        let literal ← Parser.advance
        pure ⟨.literal literal.value, literal.span⟩
      else
        let constant ← path
        pure ⟨.path constant.item, constant.span⟩) := by
  intro feed rest value
  have missing : (Fault.located (.expectedToken .string feed.current.found)
      feed.current.span).isGrammatical = true := rfl
  by_cases string : feed.current.kind = .string
  · simp [pattern, Parser.run_attempt, Parser.run_expect, string, -bind_pure_comp]
  rcases ran : path.run feed with ⟨fault | constant, behind⟩
  · by_cases grammatical : fault.isGrammatical = true
    · simp [pattern, Parser.run_attempt, Parser.run_expect, string, ran, grammatical, missing,
        -bind_pure_comp]
    · simp [pattern, Parser.run_attempt, Parser.run_expect, string, ran, grammatical, missing,
        -bind_pure_comp]
  · simp [pattern, Parser.run_attempt, Parser.run_expect, string, ran, missing, -bind_pure_comp]

/-- A pattern is read up to where its path ends. -/
theorem pattern_reads : pattern.Reads source (Rule.Whole Rule.Pattern) PathEnd := by
  refine ((Parser.Reads.ifTaken rfl (fun literal => .given fun _ => rfl)
    (path_reads.map _) ?_).of_sameValues pattern_sameValues).congr ?_ ?_
  · rintro taken more _ ⟨constant, ⟨path, _⟩, rfl⟩ _
    simp [firstKind?_append path.starts]
  · intro tokens value _
    constructor
    · rintro (derived | ⟨constant, ⟨path, covered⟩, rfl⟩)
      · rcases Rule.seq_single_iff.1 derived with ⟨literal, _, rfl, string, rfl, same⟩
        cases same
        exact ⟨.literal string, rfl⟩
      · exact ⟨.path path, covered⟩
    · rcases value with ⟨item, span⟩
      rintro ⟨derived, covered⟩
      cases derived with
      | @literal literal string =>
          cases covered.symm.trans (cover?_singleton literal)
          exact .inl (Rule.seq_single_iff.2 ⟨literal, [], rfl, string, rfl, rfl⟩)
      | path path => exact .inr ⟨⟨_, span⟩, ⟨path, covered⟩, rfl⟩
  · rintro taken value ⟨derived, _⟩
    exact derived.nested

end Grammar

end GuardLang

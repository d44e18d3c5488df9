import GuardLang.Proofs.Declaration.Accepted
import GuardLang.Proofs.Declaration.Rereads
import GuardLang.Proofs.Grammar.Places

/-!
# Faithful spans

The span of an item says where the item stands.  The spans of a group follow one
another between its parentheses, and the text of each gives the item again when it is
scanned and parsed alone.  The span of a custom item is that of its function, so it is
the function that is read again.

Main statement: `parse_faithful`.
-/

namespace GuardLang

/-! ## Slots -/

/-- A kind of group: how its items are read, what it hands to custom functions, and
which of its items are custom. -/
structure Slot (α : Type) where
  item : Parser (Spanned α)
  inputType : Text
  IsCustom : α → Prop
  custom : BoundFunction → α

namespace Slot

/-- Sanitizers by a grammar. -/
def sanitizers {κ V D : Type} (grammar : Grammar (Sanitizer κ) V D) (custom : κ)
    (inputType : Text) : Slot (Sanitizer κ) where
  item := grammar.sanitizer
  inputType := inputType
  IsCustom item := item.kind = custom
  custom function := { kind := custom, function := some function }

/-- Validators of strings by a grammar. -/
def stringValidators {S D : Type} (grammar : Grammar S StringValidator D) (inputType : Text) :
    Slot StringValidator where
  item := grammar.validator
  inputType := inputType
  IsCustom item := item.kind = .custom
  custom function := { kind := .custom, function := some function }

/-- Validators of numbers by a grammar. -/
def numericValidators {S D α : Type} (grammar : Grammar S (NumericValidator α) D)
    (inputType : Text) : Slot (NumericValidator α) where
  item := grammar.validator
  inputType := inputType
  IsCustom item := item.kind = .custom
  custom function := { kind := .custom, function := some function }

variable {α : Type} {source : Text} {tokens run : List Token} {value : Spanned α} {slot : Slot α}
  {rule : List Token → Spanned α → Prop} {option : OptionKind}

/-- The spans of the items behind an option's keyword are faithful. -/
structure Faithful (slot : Slot α) (option : OptionKind) (source : Text) (tokens : List Token)
    (items : List (Spanned α)) : Prop where
  nonempty : ∀ item ∈ items, item.span.start < item.span.stop
  /-- Each item ends before the next one begins. -/
  increasing : items.Pairwise fun first second => first.span.stop < second.span.start
  /-- Items stand between the parentheses behind a keyword outside all brackets. -/
  inside : items = [] ∨ ∃ before keyword opener inner closer after,
    tokens = before ++ keyword :: opener :: (inner ++ closer :: after) ∧ Nested before ∧
      Rule.Keyworded option keyword ∧ opener.kind = .opening .round ∧ Nested inner ∧
      closer.kind = .closing .round ∧
      ∀ item ∈ items, opener.span.stop ≤ item.span.start ∧ item.span.stop ≤ closer.span.start
  rereads : ∀ item ∈ items, ¬ slot.IsCustom item.item → slot.item.Rereads source item
  rereads_custom : ∀ item ∈ items, slot.IsCustom item.item →
    ∃ function, item.item = slot.custom function ∧
      (Grammar.typedFunction slot.inputType).Rereads source ⟨function, item.span⟩

theorem Faithful.nil (slot : Slot α) (option : OptionKind) (source : Text)
    (tokens : List Token) : slot.Faithful option source tokens [] :=
  ⟨by simp, .nil, .inl rfl, by simp, by simp⟩

/-! ## Items -/

/-- An item spans its whole run; a custom one spans the function behind the equals
sign. -/
def SpansRun (slot : Slot α) (source : Text) (run : List Token) (value : Spanned α) : Prop :=
  (¬ slot.IsCustom value.item ∧ cover? run = some value.span) ∨
    slot.IsCustom value.item ∧ ∃ keyword equals tokens function,
      run = keyword :: equals :: tokens ∧ value.item = slot.custom function ∧
        Rule.Custom source slot.inputType tokens ⟨function, value.span⟩

end Slot

namespace Rule

variable {source : Text} {tokens : List Token}

/-- A function spans its tokens. -/
theorem Custom.cover?_eq {expected : Text} {function : Spanned BoundFunction}
    (custom : Custom source expected tokens function) : cover? tokens = some function.span := by
  rcases custom with ⟨derived, _⟩
  cases derived with
  | path _ covered => exact covered
  | closure closure =>
      cases closure with
      | closure _ _ _ _ _ _ covered => exact covered

theorem StringSanitizing.spansRun {V D : Type} {grammar : Grammar StringSanitizer V D}
    {value : Spanned StringSanitizer}
    (derived : StringSanitizing source tokens value) :
    (Slot.sanitizers grammar .custom "String".toList).SpansRun
      source tokens value := by
  cases derived with
  | plain plain _ => exact .inl ⟨plain, rfl⟩
  | custom _ _ function => exact .inr ⟨rfl, _, _, _, _, rfl, rfl, function⟩

theorem StringValidating.spansRun {S D : Type} {grammar : Grammar S StringValidator D}
    {enabled : Capabilities} {value : Spanned StringValidator}
    (derived : StringValidating source enabled tokens value) :
    (Slot.stringValidators grammar "&str".toList).SpansRun source tokens
      value := by
  cases derived with
  | notEmpty _ => exact .inl ⟨by simp [Slot.stringValidators], rfl⟩
  | length kind _ _ _ covered =>
      refine .inl ⟨?_, covered⟩
      rcases kind with rfl | rfl <;> simp [Slot.stringValidators]
  | custom _ _ function => exact .inr ⟨rfl, _, _, _, _, rfl, rfl, function⟩
  | regex _ _ _ _ covered => exact .inl ⟨by simp [Slot.stringValidators], covered⟩

theorem NumericSanitizing.spansRun {V D : Type} {grammar : Grammar NumericSanitizer V D}
    {inputType : Text} {value : Spanned NumericSanitizer}
    (derived : NumericSanitizing source inputType tokens value) :
    (Slot.sanitizers grammar .custom inputType).SpansRun source tokens value := by
  cases derived with
  | custom _ _ function => exact .inr ⟨rfl, _, _, _, _, rfl, rfl, function⟩

theorem NumericValidating.spansRun {S D α : Type} {grammar : Grammar S (NumericValidator α) D}
    {inputType : Text} {denotes : Denotation α} {known : List NumericValidatorKind}
    {value : Spanned (NumericValidator α)}
    (derived : NumericValidating source inputType denotes known tokens value) :
    (Slot.numericValidators grammar inputType).SpansRun source tokens value := by
  cases derived with
  | finite _ _ => exact .inl ⟨by simp [Slot.numericValidators], rfl⟩
  | bound _ kind _ _ _ covered =>
      refine .inl ⟨?_, covered⟩
      rintro rfl
      simp at kind
  | custom _ _ _ function => exact .inr ⟨rfl, _, _, _, _, rfl, rfl, function⟩

end Rule

/-! ## Groups -/

namespace Slot

variable {α : Type} {source : Text} {tokens run : List Token} {value : Spanned α} {slot : Slot α}
  {rule : List Token → Spanned α → Prop} {option : OptionKind}

/-- The span of an item lies in its run. -/
theorem SpansRun.spans (spansRun : slot.SpansRun source run value) (ordered : Ordered run) :
    value.span.Spans run := by
  rcases spansRun with ⟨_, covered⟩ | ⟨_, keyword, equals, tokens, function, rfl, _, custom⟩
  · exact .of_cover? ordered covered
  · have behind : tokens <:+ keyword :: equals :: tokens := ⟨[keyword, equals], rfl⟩
    exact (Span.Spans.of_cover? (ordered.sublist behind.sublist) custom.cover?_eq).mono
      fun _ member => behind.subset member

/-- The items of a slot are derived by a rule, span their runs and are read again from
their text. -/
structure Sound (slot : Slot α) (source : Text) (rule : List Token → Spanned α → Prop) :
    Prop where
  led : ∀ {run value}, rule run value → Rule.Led run
  spansRun : ∀ {run value}, rule run value → slot.SpansRun source run value
  repeats : slot.item.Repeats source rule

namespace Sound

/-- Functions of custom items are read again from their text. -/
theorem rereads_custom (sound : slot.Sound source rule) (lexed : Lexed .start source tokens)
    (among : run <:+: tokens) (derived : rule run value) (isCustom : slot.IsCustom value.item) :
    ∃ function, value.item = slot.custom function ∧
      (Grammar.typedFunction slot.inputType).Rereads source ⟨function, value.span⟩ := by
  rcases sound.spansRun derived with
    ⟨plain, _⟩ | ⟨_, keyword, equals, behind, function, rfl, same, custom⟩
  · exact absurd isCustom plain
  · have suffix : behind <:+ keyword :: equals :: behind := ⟨[keyword, equals], rfl⟩
    exact ⟨function, same,
      Grammar.typedFunction_repeats source _ lexed (suffix.isInfix.trans among) custom
        custom.cover?_eq⟩

/-- A list of items between parentheses is faithful. -/
theorem faithful (sound : slot.Sound source rule) (lexed : Lexed .start source tokens)
    {before inner after : List Token} {keyword opener closer : Token}
    {items : List (Spanned α)}
    (split : tokens = before ++ keyword :: opener :: (inner ++ closer :: after))
    (outside : Nested before) (keyworded : Rule.Keyworded option keyword)
    (opening : opener.kind = .opening .round) (listed : Rule.Listed rule inner items)
    (closing : closer.kind = .closing .round) : slot.Faithful option source tokens items := by
  have spans : ∀ {run value}, rule run value → Ordered run → value.span.Spans run :=
    fun derived => (sound.spansRun derived).spans
  -- The opening parenthesis stands before all else in its group, the closing one behind it.
  have group : opener :: (inner ++ [closer]) <:+: tokens :=
    ⟨before ++ [keyword], after, by simp [split]⟩
  have ordered := lexed.ordered.sublist group.sublist
  have ordered' := ordered.sublist (List.sublist_cons_self _ _)
  have front := (List.pairwise_append.1 ordered'.before).2.2
  have within := listed.spans spans ordered'.left
  have among : inner <:+: tokens := .trans ⟨[opener], [closer], by simp⟩ group
  refine ⟨fun item member => (within item member).1, listed.pairwise spans ordered'.left,
    .inr ⟨before, keyword, opener, inner, closer, after, split, outside, keyworded, opening,
      listed.nested sound.led, closing, ?inside⟩, ?plain, ?custom⟩
  case inside =>
    intro item member
    constructor
    · exact (within item member).stop_le_start
        fun token member => List.rel_of_pairwise_cons ordered.before (by simp [member])
    · exact (within item member).stop_le_of_before
        fun token member => front token member closer (by simp)
  case plain =>
    intro item member plain
    rcases listed.exists_run item member with ⟨run, part, derived⟩
    rcases sound.spansRun derived with ⟨_, covered⟩ | ⟨isCustom, _⟩
    · exact sound.repeats lexed (part.trans among) derived covered
    · exact absurd isCustom plain
  case custom =>
    intro item member isCustom
    rcases listed.exists_run item member with ⟨run, part, derived⟩
    exact sound.rereads_custom lexed (part.trans among) derived isCustom

end Sound

end Slot

/-! ## Families -/

namespace Slot

/-- Sanitizers of strings. -/
theorem sound_stringSanitizers (source : Text) (enabled : Capabilities) :
    (sanitizers (.ofStrings enabled) .custom "String".toList).Sound source
      (Rules.ofStrings source enabled).sanitizer where
  led := Rule.StringSanitizing.led
  spansRun := Rule.StringSanitizing.spansRun
  repeats := .of_steady (Grammar.ofStrings_reads source enabled).sanitizer
    (fun _ => (Alignment.steady_ofStrings enabled).sanitizer)
    fun equal alike => Sanitizer.Alike.eq equal alike

theorem sound_stringValidators (source : Text) (enabled : Capabilities) :
    (stringValidators (.ofStrings enabled) "&str".toList).Sound source
      (Rules.ofStrings source enabled).validator where
  led := Rule.StringValidating.led
  spansRun := Rule.StringValidating.spansRun
  repeats := .of_steady (Grammar.ofStrings_reads source enabled).validator
    (fun _ => (Alignment.steady_ofStrings enabled).validator)
    fun equal alike => StringValidator.Alike.eq equal alike

variable {α : Type} (source : Text) {type : LiteralType α} {denotes : Denotation α}
  (meets : type.Meets denotes) (known : List NumericValidatorKind)

include meets

theorem sound_numericSanitizers :
    (sanitizers (.ofNumbers type known) .custom type.name.toList).Sound source
      (Rules.ofNumbers source type.name.toList denotes known).sanitizer where
  led := Rule.NumericSanitizing.led
  spansRun := Rule.NumericSanitizing.spansRun
  repeats := .of_steady (Grammar.ofNumbers_reads source meets known).sanitizer
    (fun _ => (Alignment.steady_ofNumbers type known).sanitizer)
    fun equal alike => Sanitizer.Alike.eq equal alike

theorem sound_numericValidators :
    (numericValidators (.ofNumbers type known) type.name.toList).Sound source
      (Rules.ofNumbers source type.name.toList denotes known).validator where
  led := Rule.NumericValidating.led
  spansRun := Rule.NumericValidating.spansRun
  repeats := .of_steady (Grammar.ofNumbers_reads source meets known).validator
    (fun _ => (Alignment.steady_ofNumbers type known).validator)
    fun equal alike => NumericValidator.Alike.eq equal alike

end Slot

/-- The spans of a draft are faithful, those of its items and that of its default
value. -/
structure Draft.Faithful {S V D : Type} (sanitizers : Slot S) (validators : Slot V)
    (defaultValue : Parser (Spanned D)) (source : Text) (tokens : List Token)
    (draft : Draft S V D) : Prop where
  sanitizers : sanitizers.Faithful .sanitize source tokens draft.items.sanitizers
  validators : validators.Faithful .validate source tokens draft.items.validators
  defaultValue : ∀ value ∈ draft.defaultValue, defaultValue.Rereads source value

/-- What was said by options that stand among the tokens is faithful. -/
theorem Rule.Holds.faithful {S V D : Type} {source : Text} {rules : Rules S V D}
    {enabled : Capabilities} {tokens : List Token} {draft : Draft S V D} {sanitizers : Slot S}
    {validators : Slot V} {defaultValue : Parser (Spanned D)}
    (holds : Holds rules enabled tokens draft) (lexed : Lexed .start source tokens)
    (sanitizing : sanitizers.Sound source rules.sanitizer)
    (validating : validators.Sound source rules.validator)
    (repeats : defaultValue.Repeats source rules.defaultValue)
    (covers : ∀ {run value}, rules.defaultValue run value → cover? run = some value.span) :
    draft.Faithful sanitizers validators defaultValue source tokens := by
  constructor
  case sanitizers =>
    rcases holds.sanitizers with none | ⟨before, _, after, split, nested, sets⟩
    · rw [none]
      exact .nil _ _ _ _
    · cases sets with
      | sanitize keyworded opening listed closing =>
          exact sanitizing.faithful lexed (by simpa using split) nested keyworded opening listed
            closing
  case validators =>
    rcases holds.validators with none | ⟨before, _, after, split, nested, sets⟩
    · rw [none]
      exact .nil _ _ _ _
    · cases sets with
      | validate keyworded opening listed closing =>
          exact validating.faithful lexed (by simpa using split) nested keyworded opening listed
            closing
  case defaultValue =>
    intro value member
    rcases holds.defaultValue value member with ⟨before, _, after, split, _, sets⟩
    cases sets with
    | @default keyword equals run _ _ _ derived =>
        have among : run <:+: tokens := ⟨before ++ [keyword, equals], after, by simp [split]⟩
        exact repeats lexed among derived (covers derived)

namespace Family

/-- The spans of what an annotation declares for a family are faithful. -/
def Faithful (family : Family) (enabled : Capabilities) (source : Text) (tokens : List Token)
    (raw : RawDeclaration) : Prop :=
  match family with
  | string =>
    ∃ draft : Draft StringSanitizer StringValidator Text, raw = .ofDraft .string .text draft ∧
      draft.Faithful
        (.sanitizers (.ofStrings enabled) .custom "String".toList)
        (.stringValidators (.ofStrings enabled) "&str".toList)
        (Grammar.ofStrings enabled).defaultValue source tokens
  | integer type =>
    ∃ draft : Draft NumericSanitizer (NumericValidator Int) Int,
      raw = .ofDraft (.integer type) (.number ∘ .integer) draft ∧
      draft.Faithful (.sanitizers (.ofIntegers type) .custom type.name.toList)
        (.numericValidators (.ofIntegers type) type.name.toList)
        (Grammar.ofIntegers type).defaultValue source tokens
  | float type =>
    ∃ draft : Draft NumericSanitizer (NumericValidator Binary64) Binary64,
      raw = .ofDraft (.float type) (.number ∘ .float) draft ∧
      draft.Faithful (.sanitizers (.ofFloats type) .custom type.name.toList)
        (.numericValidators (.ofFloats type) type.name.toList)
        (Grammar.ofFloats type).defaultValue source tokens

/-- What the grammar of a number type derives is faithful. -/
theorem faithful_numbers {α : Type} {source : Text} {tokens : List Token} {type : LiteralType α}
    {denotes : Denotation α} (meets : type.Meets denotes) {known : List NumericValidatorKind}
    {enabled : Capabilities} {draft : Draft NumericSanitizer (NumericValidator α) α}
    (lexed : Lexed .start source tokens)
    (annotated : Rule.Annotated (.ofNumbers source type.name.toList denotes known) enabled tokens
      draft) :
    draft.Faithful (.sanitizers (.ofNumbers type known) .custom type.name.toList)
      (.numericValidators (.ofNumbers type known) type.name.toList)
      (Grammar.ofNumbers type known).defaultValue source tokens := by
  have reads := Grammar.ofNumbers_reads source meets known
  exact (annotated.holds reads).faithful lexed (Slot.sound_numericSanitizers source meets known)
    (Slot.sound_numericValidators source meets known)
    (reads.repeats_default fun _ => (Alignment.steady_ofNumbers type known).defaultValue)
    fun derived => derived.2

/-- What the grammar of a family derives is faithful. -/
theorem Derives.faithful {family : Family} {enabled : Capabilities} {source : Text}
    {tokens : List Token} {raw : RawDeclaration} (lexed : Lexed .start source tokens)
    (derives : family.Derives enabled source tokens raw) :
    family.Faithful enabled source tokens raw := by
  cases family with
  | string =>
      rcases derives with ⟨draft, annotated, rfl⟩
      have reads := Grammar.ofStrings_reads source enabled
      refine ⟨draft, rfl, (annotated.holds reads).faithful lexed
        (Slot.sound_stringSanitizers source enabled) (Slot.sound_stringValidators source enabled)
        (reads.repeats_default fun _ => (Alignment.steady_ofStrings enabled).defaultValue) ?_⟩
      exact fun derived => derived.2
  | integer type =>
      rcases derives with ⟨draft, annotated, rfl⟩
      rw [Rules.ofIntegers, ← type.name_eq] at annotated
      exact ⟨draft, rfl, faithful_numbers type.literals_meet lexed annotated⟩
  | float type =>
      rcases derives with ⟨draft, annotated, rfl⟩
      rw [Rules.ofFloats, ← type.name_eq] at annotated
      exact ⟨draft, rfl, faithful_numbers type.literals_meet lexed annotated⟩

end Family

/-- Spans are faithful.  Let an annotation be read for a family, whether or not its
guard passes its check.  In each group the spans of the items are nonempty, come one
behind the other and stand inside the parentheses.  The text of each, scanned alone,
gives the item again and leaves nothing over, and so does that of the default value. -/
theorem parse_faithful {source : Text} {family : Family} {enabled : Capabilities}
    {raw : RawDeclaration} (parsed : (RawDeclaration.parse source family enabled).2 = .ok raw) :
    ∃ tokens mark, tokenize source = .ok (tokens ++ [mark]) ∧
      family.Faithful enabled source tokens raw := by
  rw [RawDeclaration.parse_snd, Except.bind_eq_ok_iff] at parsed
  rcases parsed with ⟨stream, tokenized, read⟩
  rcases tokenize_eq_ok_iff.1 tokenized with ⟨tokens, lexed, nested, rfl⟩
  have derives := (family.readRaw_iff_derives (tidy_of_tokenize tokenized).1 enabled raw).1 read
  rw [Feed.ofTokens_ahead] at derives
  exact ⟨tokens, _, tokenized, derives.faithful lexed⟩

/-- A bound over two lines, a closure with a comma in its body, and a default value. -/
theorem parse_faithful_closure :
    ∃ tokens mark,
      tokenize "validate(less =\n -1, with=|x: i8| f(x, 1)), default = -5".toList =
        .ok (tokens ++ [mark]) ∧
      (Family.integer .i8).Faithful {}
        "validate(less =\n -1, with=|x: i8| f(x, 1)), default = -5".toList tokens
        { guard := .integer .i8
            { validators :=
                [⟨{ kind := .less, value := some (-1) }, ⟨9, 19, 1, 10⟩⟩,
                  ⟨{ kind := .custom
                     function := some
                      { form := .closure
                        param := some ['x']
                        body := some "f(x, 1)".toList
                        inputType := "i8".toList } }, ⟨26, 41, 2, 11⟩⟩] }
          newUnchecked := false
          defaultValue := some ⟨.number (.integer (-5)), ⟨54, 56, 2, 39⟩⟩ } :=
  parse_faithful (by decide +kernel)

end GuardLang

import GuardLang.Proofs.Declaration.Accepted
import GuardLang.Proofs.Grammar.Writes

/-!
# Declarations are read back

A guard for strings or integers that passes its check and can be written is read
back from what is printed for it, with its default value and its flag.  The options
are written one by one; what they are read as differs from them only in its places,
which no check depends on.

Main statement: `parse_printed`.
-/

namespace GuardLang

open Lexeme Text

/-! ## Options at other places -/

section

variable {S V D : Type}

/-- Two options that say the same, but for the places of what they hold. -/
inductive Setting.Same : Setting S V D → Setting S V D → Prop
  | sanitize {items others : List (Spanned S)} : items.map (·.item) = others.map (·.item) →
      Same (.sanitize items) (.sanitize others)
  | validate {items others : List (Spanned V)} : items.map (·.item) = others.map (·.item) →
      Same (.validate items) (.validate others)
  | default {value other : Spanned D} : value.item = other.item →
      Same (.default value) (.default other)
  | newUnchecked : Same .newUnchecked .newUnchecked

/-- Two drafts that say the same, but for the places of what they hold. -/
structure Draft.Same (draft other : Draft S V D) : Prop where
  items : draft.items.items = other.items.items
  newUnchecked : draft.newUnchecked = other.newUnchecked
  defaultValue : draft.defaultValue.map (·.item) = other.defaultValue.map (·.item)

namespace Setting

theorem Same.kind_eq {setting other : Setting S V D} (same : setting.Same other) :
    setting.kind = other.kind := by
  cases same <;> rfl

/-- Options that say the same add the same to a draft. -/
theorem Same.addTo {setting other : Setting S V D} (same : setting.Same other)
    {draft draft' : Draft S V D} (drafts : draft.Same draft') :
    (setting.addTo draft).Same (other.addTo draft') := by
  obtain ⟨sanitizers, validators⟩ := Items.mk.inj drafts.items
  cases same with
  | sanitize items => exact { drafts with items := congrArg₂ Items.mk items validators }
  | validate items => exact { drafts with items := congrArg₂ Items.mk sanitizers items }
  | default value => exact { drafts with defaultValue := congrArg some value }
  | newUnchecked => exact { drafts with newUnchecked := rfl }

theorem same_draft {settings others : List (Setting S V D)}
    (same : List.Forall₂ Same settings others) : (draft settings).Same (draft others) := by
  have folded : ∀ {first second : Draft S V D}, first.Same second →
      (settings.foldl addTo first).Same (others.foldl addTo second) := by
    induction same with
    | nil => exact fun drafts => drafts
    | cons head _ ih => exact fun drafts => ih (head.addTo drafts)
  exact folded ⟨rfl, rfl, rfl⟩

end Setting

/-- The options that say what a draft says. -/
def Draft.settings (draft : Draft S V D) : List (Setting S V D) :=
  [.sanitize draft.items.sanitizers, .validate draft.items.validators] ++
    (draft.defaultValue.map .default).toList ++
    if draft.newUnchecked then [.newUnchecked] else []

theorem Draft.nodup_settings (draft : Draft S V D) : (draft.settings.map Setting.kind).Nodup := by
  rcases draft with ⟨items, _ | _, _ | value⟩ <;> simp [settings, Setting.kind]

theorem Setting.draft_settings (draft : Draft S V D) : Setting.draft draft.settings = draft := by
  rcases draft with ⟨items, _ | _, _ | value⟩ <;> rfl

/-! ## Options in writing -/

/-- A rule for options, wherever what they hold is placed. -/
def Rule.SetsSame (rules : Rules S V D) (enabled : Capabilities) (tokens : List Token)
    (setting : Setting S V D) : Prop :=
  ∃ other, Sets rules enabled tokens other ∧ other.Same setting

/-- Items that are derived in a list are derived at some places. -/
theorem Rule.Listed.exists_spanned {α : Type} {rule : List Token → Spanned α → Prop}
    {tokens : List Token} {values : List α} (listed : Listed (Unplaced rule) tokens values) :
    ∃ items, Listed rule tokens items ∧ items.map (·.item) = values := by
  induction listed with
  | nil => exact ⟨[], .nil, rfl⟩
  | last derived =>
      obtain ⟨span, derived⟩ := derived
      exact ⟨_, .last derived, rfl⟩
  | more derived isComma _ ih =>
      obtain ⟨span, derived⟩ := derived
      obtain ⟨items, listed, rfl⟩ := ih
      exact ⟨_, .more derived isComma listed, rfl⟩

/-- Options with commas between them are options. -/
theorem Rule.Listed.exists_options {rules : Rules S V D} {enabled : Capabilities}
    {tokens : List Token} {settings : List (Setting S V D)}
    (listed : Listed (SetsSame rules enabled) tokens settings) :
    ∃ others, Options rules enabled tokens others ∧ List.Forall₂ Setting.Same others settings := by
  induction listed with
  | nil => exact ⟨[], .nil, .nil⟩
  | last derived =>
      obtain ⟨other, sets, same⟩ := derived
      have options := Options.option sets .none .nil
      rw [List.append_nil, List.append_nil] at options
      exact ⟨[other], options, .cons same .nil⟩
  | more derived isComma _ ih =>
      obtain ⟨other, sets, same⟩ := derived
      obtain ⟨others, options, behind⟩ := ih
      have more := Options.option sets (.comma isComma) options
      rw [List.append_assoc] at more
      exact ⟨other :: others, more, .cons same behind⟩

variable {rules : Text → Rules S V D} {sanitizer : S → Text} {validator : V → Text}
  {literal : D → Text} {enabled : Capabilities} {draft : Draft S V D}

/-- An option in writing, if items and default values are written like this. -/
def Setting.printed (sanitizer : S → Text) (validator : V → Text) (literal : D → Text) :
    Setting S V D → Text
  | sanitize items =>
    .grouped (Keyword.name OptionKind.sanitize) (items.map fun item => sanitizer item.item)
  | validate items =>
    .grouped (Keyword.name OptionKind.validate) (items.map fun item => validator item.item)
  | default value => .keyed (Keyword.name OptionKind.default) (some (literal value.item))
  | newUnchecked => .keyed (Keyword.name OptionKind.newUnchecked) none

namespace Draft

/-- A draft all of which can be written. -/
abbrev Written (rules : Text → Rules S V D) (sanitizer : S → Text) (validator : V → Text)
    (literal : D → Text) (enabled : Capabilities) (draft : Draft S V D) : Prop :=
  draft.Meets enabled
    (fun item => Writes (fun source => Rule.Unplaced (rules source).sanitizer) (sanitizer item) item)
    (fun item => Writes (fun source => Rule.Unplaced (rules source).validator) (validator item) item)
    (fun value =>
      Writes (fun source => Rule.Unplaced (rules source).defaultValue) (literal value) value)

/-- Each option of a draft is written as it is printed. -/
theorem Written.setting (written : draft.Written rules sanitizer validator literal enabled) :
    ∀ setting ∈ draft.settings, Writes (fun source => Rule.SetsSame (rules source) enabled)
      (setting.printed sanitizer validator literal) setting := by
  intro setting member
  simp only [settings, List.cons_append, List.nil_append, List.mem_cons, List.mem_append,
    Option.mem_toList, Option.map_eq_some_iff] at member
  rcases member with rfl | rfl | ⟨value, given, rfl⟩ | flag
  · apply (Writes.items written.sanitizers).grouped
    intro source keyword opener tokens closer keyed opening listed closing
    obtain ⟨items, listed, same⟩ := listed.exists_spanned
    exact ⟨_, .sanitize keyed opening listed closing, .sanitize same⟩
  · apply (Writes.items written.validators).grouped
    intro source keyword opener tokens closer keyed opening listed closing
    obtain ⟨items, listed, same⟩ := listed.exists_spanned
    exact ⟨_, .validate keyed opening listed closing, .validate same⟩
  · apply (written.defaultValue value given).assigned (OptionKind.isName_name .default)
    rintro source keyword equals tokens keyed isEquals ⟨span, derived⟩
    exact ⟨_, .default keyed isEquals derived, .default rfl⟩
  · split at flag
    · rename_i given
      obtain rfl := List.mem_singleton.1 flag
      apply Writes.keyword (OptionKind.isName_name .newUnchecked)
      intro source token keyed
      exact ⟨_, .newUnchecked (written.newUnchecked given) keyed, .newUnchecked⟩
    · cases flag

/-- The options of a draft are scanned and derived from what is printed for them. -/
theorem Written.exists_annotated
    (written : draft.Written rules sanitizer validator literal enabled) {text : Text}
    (printed : text =
      commaSeparated (draft.settings.map (Setting.printed sanitizer validator literal))) :
    ∃ tokens other, Lexed .start text tokens ∧ Rule.Annotated (rules text) enabled tokens other ∧
      other.Same draft := by
  have source_eq : text = [] ++ (commaSeparated
      (draft.settings.map (Setting.printed sanitizer validator literal)) ++ []) := by
    simp [printed]
  obtain ⟨tokens, scans, listed⟩ := Writes.listed written.setting source_eq bounds_nil
  obtain ⟨others, options, same⟩ := listed.exists_options
  have kinds : others.map Setting.kind = draft.settings.map Setting.kind := by
    rw [← List.forall₂_eq_eq_eq, List.forall₂_map_left_iff, List.forall₂_map_right_iff]
    exact same.imp fun _ _ same => same.kind_eq
  refine ⟨tokens, Setting.draft others, ?_, ⟨others, options, ?_, rfl⟩, ?_⟩
  · rw [← printed] at scans
    exact scans.lexed
  · rw [kinds]
    exact draft.nodup_settings
  · have drafts := Setting.same_draft same
    rwa [Setting.draft_settings] at drafts

end Draft

end

/-! ## Default values -/

/-- Default values that all come from one type. -/
theorem exists_map_literal {D : Type} {literal : D → Literal} {given : Option (Spanned Literal)}
    (each : ∀ value ∈ given, ∃ inner, value.item = literal inner) :
    ∃ inner : Option (Spanned D), given = inner.map (·.map literal) := by
  rcases given with _ | ⟨item, span⟩
  · exact ⟨none, rfl⟩
  · obtain ⟨inner, rfl⟩ := each _ rfl
    exact ⟨some ⟨inner, span⟩, rfl⟩

theorem Literal.Fits.exists_text {literal : Literal} (fits : literal.Fits .string) :
    ∃ text, literal = .text text := by
  cases fits
  exact ⟨_, rfl⟩

theorem Literal.Fits.exists_integer {type : IntegerType} {literal : Literal}
    (fits : literal.Fits (.integer type)) :
    ∃ value, literal = .number (.integer value) := by
  cases fits
  exact ⟨_, rfl⟩

theorem Literal.Fits.inRange {type : IntegerType} {value : Int}
    (fits : Literal.Fits (.integer type) (.number (.integer value))) : type.InRange value := by
  cases fits with
  | integer inRange => exact inRange

/-! ## Whole declarations -/

section

variable {S V D : Type} {rules : Text → Rules S V D} {sanitizer : S → Text} {validator : V → Text}
  {literal : D → Literal} {enabled : Capabilities} {draft : Draft S V D}

/-- A declaration is printed option by option. -/
theorem Declaration.printed_ofDraft {guard : Guard}
    (sanitizers : guard.printedSanitizers = draft.items.items.sanitizers.map sanitizer)
    (validators : guard.printedValidators = draft.items.items.validators.map validator) :
    Declaration.printed ⟨guard, draft.newUnchecked, draft.defaultValue.map (·.map literal)⟩ =
      commaSeparated (draft.settings.map
        (Setting.printed sanitizer validator fun value => (literal value).printed)) := by
  rw [Declaration.printed]
  rcases draft with ⟨items, _ | _, _ | value⟩ <;>
    simp [printedOptions, Draft.settings, Setting.printed, sanitizers, validators, Spanned.map,
      RawItems.items, Function.comp_def]

/-- A draft that can be written and whose guard passes at all places is read back. -/
theorem Draft.Written.exists_parsed {family : Family} {grammar : Grammar S V D}
    {raw : RawItems S V → RawGuard} {guard : Guard} {text : Text}
    (written : draft.Written rules sanitizer validator (fun value => (literal value).printed)
      enabled)
    (printed : text = commaSeparated (draft.settings.map
      (Setting.printed sanitizer validator fun value => (literal value).printed)))
    (reads : grammar.Reads text (rules text))
    (derives : ∀ {tokens other}, Rule.Annotated (rules text) enabled tokens other →
      family.Derives enabled text tokens (.ofDraft raw literal other))
    (passes : ∀ {other : Draft S V D}, other.Same draft → (raw other.items).check.2 = .ok guard) :
    ∃ read, (Declaration.parse text family enabled).2 = .ok read ∧ read.guard = guard ∧
      read.newUnchecked = draft.newUnchecked ∧
      read.defaultValue.map (·.item) = (draft.defaultValue.map (·.map literal)).map (·.item) := by
  obtain ⟨tokens, other, lexed, annotated, same⟩ := written.exists_annotated printed
  have nested : Nested tokens := by
    obtain ⟨settings, options, _⟩ := annotated
    exact options.nested reads
  have checked : (RawDeclaration.ofDraft raw literal other).check.2 =
      .ok ⟨guard, other.newUnchecked, other.defaultValue.map (·.map literal)⟩ :=
    RawDeclaration.check_eq_ok_iff.2 ⟨guard, passes same, rfl⟩
  have parsed := Declaration.parse_eq_ok_iff.2
    ⟨tokens, _, lexed, nested, derives annotated, checked⟩
  refine ⟨_, parsed, rfl, same.newUnchecked, ?_⟩
  have items := congrArg (Option.map literal) same.defaultValue
  simpa [Option.map_map, Function.comp_def, Spanned.map] using items

end

/-- What is printed for a guard for strings is read back. -/
theorem Guard.Writable.exists_parsed_strings {enabled : Capabilities} {newUnchecked : Bool}
    {items : RawItems StringSanitizer StringValidator} {texts : Option (Spanned Text)}
    (writable : Guard.Writable enabled (.string items.items))
    (allowed : newUnchecked = true → enabled.allows .newUnchecked = true)
    (passed : checkStrings items.validators = .ok ()) :
    ∃ read, (Declaration.parse (Declaration.printed ⟨.string items.items, newUnchecked,
        texts.map (·.map .text)⟩) .string enabled).2 = .ok read ∧
      read.guard = .string items.items ∧ read.newUnchecked = newUnchecked ∧
      read.defaultValue.map (·.item) = (texts.map (·.map .text)).map (·.item) := by
  cases writable with
  | string sanitizers validators =>
      have written : Draft.Written (fun source => .ofStrings source enabled) Sanitizer.printed
          StringValidator.printed (fun text => (Literal.text text).printed) enabled
          ⟨items, newUnchecked, texts⟩ := by
        constructor
        · intro item member
          obtain ⟨fits, functions⟩ := sanitizers item.item (List.mem_map_of_mem member)
          exact StringSanitizer.writes fits functions
        · intro item member
          obtain ⟨fits, functions, patterns⟩ := validators item.item (List.mem_map_of_mem member)
          exact fits.writes functions patterns
        · intro text _
          exact text.item.writes_stringDefault.whole Rule.StringDefault.exists_cover?
        · exact allowed
      apply written.exists_parsed (Declaration.printed_ofDraft rfl rfl)
        (Grammar.ofStrings_reads _ enabled)
      · intro tokens other annotated
        exact ⟨other, annotated, rfl⟩
      · intro other same
        obtain ⟨_, validators_eq⟩ := Items.mk.inj same.items
        rw [RawGuard.check_string, checkStrings_of_map_item_eq validators_eq.symm passed,
          same.items]
        rfl

/-- What is printed for a guard for integers is read back. -/
theorem Guard.Writable.exists_parsed_integers {enabled : Capabilities} {newUnchecked : Bool}
    {type : IntegerType} {items : RawItems NumericSanitizer (NumericValidator Int)}
    {numbers : Option (Spanned Int)} (writable : Guard.Writable enabled (.integer type items.items))
    (allowed : newUnchecked = true → enabled.allows .newUnchecked = true)
    (inRange : ∀ number ∈ numbers, type.InRange number.item)
    (passed : checkNumeric Limit.emptyDiscrete items.validators = .ok ()) :
    ∃ read, (Declaration.parse (Declaration.printed ⟨.integer type items.items, newUnchecked,
        numbers.map (·.map (.number ∘ .integer))⟩) (.integer type) enabled).2 = .ok read ∧
      read.guard = .integer type items.items ∧ read.newUnchecked = newUnchecked ∧
      read.defaultValue.map (·.item) =
        (numbers.map (·.map (.number ∘ .integer))).map (·.item) := by
  cases writable with
  | integer sanitizers validators =>
      have written : Draft.Written
          (fun source => .ofIntegers source type)
          Sanitizer.printed NumericValidator.printed
          (fun number => (Literal.number (.integer number)).printed) enabled
          ⟨items, newUnchecked, numbers⟩ := by
        constructor
        · intro item member
          obtain ⟨fits, functions⟩ := sanitizers item.item (List.mem_map_of_mem member)
          rw [type.name_eq] at fits
          exact NumericSanitizer.writes fits functions
        · intro item member
          obtain ⟨fits, functions⟩ := validators item.item (List.mem_map_of_mem member)
          exact fits.writes functions
        · intro number given
          exact (inRange number given).writes.whole Rule.Number.exists_cover?
        · exact allowed
      apply written.exists_parsed (Declaration.printed_ofDraft rfl rfl)
        (Grammar.ofIntegers_reads _ type)
      · intro tokens other annotated
        exact ⟨other, annotated, rfl⟩
      · intro other same
        obtain ⟨_, validators_eq⟩ := Items.mk.inj same.items
        rw [RawGuard.check_integer, checkNumeric_of_map_item_eq validators_eq.symm passed,
          same.items]
        rfl

/-- A declaration for strings or integers whose guard passes its check, and which can
be written and is enabled, is read back from what is printed for it: the guard, the
flag and the default value. -/
theorem parse_printed {raw : RawDeclaration} {declaration : Declaration} {enabled : Capabilities}
    (accepted : raw.check.2 = .ok declaration) (writable : declaration.Writable enabled) :
    ∃ read, (Declaration.parse declaration.printed declaration.guard.family enabled).2 = .ok read ∧
      read.guard = declaration.guard ∧ read.newUnchecked = declaration.newUnchecked ∧
      read.defaultValue.map (·.item) = declaration.defaultValue.map (·.item) := by
  obtain ⟨guard, passed, rfl⟩ := RawDeclaration.check_eq_ok_iff.1 accepted
  obtain ⟨rawGuard, newUnchecked, defaultValue⟩ := raw
  obtain ⟨items, allowed, values⟩ := writable
  cases rawGuard with
  | string raw =>
      obtain ⟨_, consistent, rfl⟩ :=
        Except.map_eq_ok_iff.1 ((RawGuard.check_string _).symm.trans passed)
      obtain ⟨texts, rfl⟩ := @exists_map_literal _ Literal.text defaultValue fun value given =>
        (values value given).exists_text
      exact items.exists_parsed_strings allowed consistent
  | integer type raw =>
      obtain ⟨_, consistent, rfl⟩ :=
        Except.map_eq_ok_iff.1 ((RawGuard.check_integer _ _).symm.trans passed)
      obtain ⟨numbers, rfl⟩ := @exists_map_literal _ (Literal.number ∘ Number.integer) defaultValue
        fun value given => (values value given).exists_integer
      apply items.exists_parsed_integers allowed _ consistent
      intro number given
      exact (values _ (Option.mem_map_of_mem _ given)).inRange
  | float type raw =>
      obtain ⟨_, _, rfl⟩ := Except.map_eq_ok_iff.1 ((RawGuard.check_float _ _).symm.trans passed)
      cases items

/-- A closure, a pattern with a quote and a backslash, and a comma as the default
value. -/
theorem parse_printed_closure :
    ∃ declaration read : Declaration,
      declaration.printed = ("sanitize(trim), validate(min_len = 3, with = |s| f(s, \")\"), " ++
        "regex = \"\\\"\\\\\"), default = \",\", new_unchecked").toList ∧
      (Declaration.parse declaration.printed .string { regex := true, newUnchecked := true }).2 =
        .ok read ∧
      read.guard = declaration.guard ∧ read.newUnchecked = declaration.newUnchecked ∧
      read.defaultValue.map (·.item) = declaration.defaultValue.map (·.item) := by
  have accepted : (RawDeclaration.mk
      (.string
        { sanitizers := [⟨{ kind := .trim }, ⟨0, 0, 1, 1⟩⟩]
          validators :=
            [⟨{ kind := .minLen, length := some 3 }, ⟨0, 0, 1, 1⟩⟩,
              ⟨{ kind := .custom
                 function := some
                  { form := .closure, param := some ['s']
                    body := some ['f', '(', 's', ',', ' ', '"', ')', '"', ')']
                    inputType := "&str".toList } },
                ⟨0, 0, 1, 1⟩⟩,
              ⟨{ kind := .regex, pattern := some (.literal ['"', '\\']) }, ⟨0, 0, 1, 1⟩⟩] })
      true (some ⟨.text [','], ⟨0, 0, 1, 1⟩⟩)).check.2 = .ok _ := rfl
  obtain ⟨read, parsed, same⟩ := @parse_printed _ _ { regex := true, newUnchecked := true } accepted
    (by
      refine ⟨.string ?_ ?_, fun _ => rfl, ?_⟩
      · intro sanitizer member
        obtain rfl := List.mem_singleton.1 member
        exact ⟨.plain (by simp), by simp⟩
      · intro validator member
        simp only [RawItems.items, List.map_cons, List.map_nil, List.mem_cons, List.not_mem_nil,
          or_false] at member
        rcases member with rfl | rfl | rfl
        · exact ⟨.length (.inl rfl) (by decide) (by decide), by simp, by simp⟩
        · refine ⟨.custom (.closure (by simp)), ?_, by simp⟩
          rintro _ ⟨⟩
          exact ⟨by simp, by rintro _ ⟨⟩; rfl, by rintro _ ⟨⟩; exact isBody_call⟩
        · refine ⟨.regex rfl, by simp, ?_⟩
          rintro _ ⟨⟩
          exact .literal
      · rintro _ ⟨⟩
        exact .text)
  exact ⟨_, read, by decide +kernel, parsed, same⟩

end GuardLang

import GuardLang.Proofs.Grammar.Reads

/-!
# Items that are read exactly

An item is known by its keyword.  Its kind, which is looked up in a list of names,
says what follows: nothing, or behind an equals sign a number, a function or a
pattern.  The parsers of all sanitizers and validators read their rules, and so do
those of default values.
-/

namespace GuardLang

/-! ## Keywords -/

/-- The keywords of a list are found by their names. -/
theorem Keyword.find?_eq_some_iff {κ : Type} [Keyword κ]
    (injective : ∀ {first second : κ}, name first = name second → first = second)
    {known : List κ} {written : String} {kind : κ} :
    find? known written = some kind ↔ kind ∈ known ∧ name kind = written := by
  constructor
  · exact mem_and_name_of_find?
  · rintro ⟨member, same⟩
    cases found : find? known written with
    | none => exact absurd same (find?_eq_none_iff.1 found kind member)
    | some other =>
        rcases mem_and_name_of_find? found with ⟨_, same'⟩
        rw [injective (same'.trans same.symm)]

theorem OptionKind.name_injective {first second : OptionKind}
    (same : Keyword.name first = Keyword.name second) : first = second := by
  cases first <;> cases second <;> first | rfl | simp [Keyword.name] at same

theorem StringSanitizerKind.name_injective {first second : StringSanitizerKind}
    (same : Keyword.name first = Keyword.name second) : first = second := by
  cases first <;> cases second <;> first | rfl | simp [Keyword.name] at same

theorem StringValidatorKind.name_injective {first second : StringValidatorKind}
    (same : Keyword.name first = Keyword.name second) : first = second := by
  cases first <;> cases second <;> first | rfl | simp [Keyword.name] at same

theorem NumericValidatorKind.name_injective {first second : NumericValidatorKind}
    (same : Keyword.name first = Keyword.name second) : first = second := by
  cases first <;> cases second <;> first | rfl | simp [Keyword.name] at same

namespace Rule

/-- The keyword of a kind has the name by which the kind is looked up. -/
theorem keyworded_iff {κ : Type} [Keyword κ] [Worded κ] {kind : κ} {token : Token} :
    Keyworded kind token ↔
      token.kind = .identifier ∧ String.ofList token.value = Keyword.name kind := by
  rw [Keyworded, Worded.name_eq]
  refine and_congr_right fun _ => ?_
  constructor
  · intro word
    rw [word, String.ofList_toList]
  · intro name
    rw [← name, String.toList_ofList]

theorem Keyworded.name_eq {κ : Type} [Keyword κ] [Worded κ] {kind : κ} {token : Token}
    (keyed : Keyworded kind token) : String.ofList token.value = Keyword.name kind :=
  (keyworded_iff.1 keyed).2

/-! ## Shapes of items -/

variable {α β κ : Type}

/-- A keyword, and behind it a run whose brackets match. -/
def Led (tokens : List Token) : Prop :=
  ∃ keyword rest, tokens = keyword :: rest ∧ keyword.kind = .identifier ∧ Nested rest

theorem Led.nested {tokens : List Token} (led : Led tokens) : Nested tokens := by
  rcases led with ⟨keyword, rest, rfl, identifier, nested⟩
  exact .plain (by rw [identifier]; rfl) nested

/-- An equals sign and a rule behind it. -/
def Assigned (rule : List Token → α → Prop) : List Token → α → Prop :=
  Seq (Single .equals) fun _ => rule

theorem assigned_iff {rule : List Token → α → Prop} {tokens : List Token} {value : α} :
    Assigned rule tokens value ↔
      ∃ equals rest, tokens = equals :: rest ∧ equals.kind = .equals ∧ rule rest value :=
  seq_single_iff

/-- An item with a value, which goes from its keyword to the end of the value. -/
def ValueItem (rule : List Token → α → Prop) (keyword : Token) (item : α → β) :
    List Token → Spanned β → Prop :=
  Assigned (Mapped (Whole rule) fun read => ⟨item read.item, keyword.span.join read.span⟩)

theorem valueItem_iff {rule : List Token → α → Prop} {keyword : Token} {item : α → β}
    {tokens : List Token} {value : Spanned β} (ordered : Ordered (keyword :: tokens))
    (covers : ∀ {tokens value}, rule tokens value → ∃ span, cover? tokens = some span) :
    ValueItem rule keyword item tokens value ↔
      ∃ equals rest read, tokens = equals :: rest ∧ equals.kind = .equals ∧ rule rest read ∧
        cover? (keyword :: equals :: rest) = some value.span ∧ item read = value.item := by
  unfold ValueItem
  rw [assigned_iff]
  constructor
  · rintro ⟨equals, rest, rfl, isEquals, read, ⟨derived, covered⟩, rfl⟩
    exact ⟨equals, rest, read.item, rfl, isEquals, derived,
      @Ordered.cover?_between [keyword] rest [equals] ordered _ _ rfl covered, rfl⟩
  · rcases value with ⟨_, span⟩
    rintro ⟨equals, rest, read, rfl, isEquals, derived, covered, rfl⟩
    rcases covers derived with ⟨inner, inside⟩
    cases covered.symm.trans
      (@Ordered.cover?_between [keyword] rest [equals] ordered _ _ rfl inside)
    exact ⟨equals, rest, rfl, isEquals, ⟨read, inner⟩, ⟨derived, inside⟩, rfl⟩

/-- An item with a function, which has the span of the function. -/
def FunctionItem (source inputType : Text) (item : BoundFunction → β) :
    List Token → Spanned β → Prop :=
  Assigned (Mapped (Custom source inputType) fun function =>
    ⟨item function.item, function.span⟩)

theorem functionItem_iff {source inputType : Text} {item : BoundFunction → β}
    {tokens : List Token} {value : Spanned β} :
    FunctionItem source inputType item tokens value ↔
      ∃ equals rest function, tokens = equals :: rest ∧ equals.kind = .equals ∧
        Custom source inputType rest function ∧ ⟨item function.item, function.span⟩ = value := by
  unfold FunctionItem
  rw [assigned_iff]
  constructor
  · rintro ⟨equals, rest, rfl, isEquals, function, derived, rfl⟩
    exact ⟨equals, rest, function, rfl, isEquals, derived, rfl⟩
  · rintro ⟨equals, rest, function, rfl, isEquals, derived, rfl⟩
    exact ⟨equals, rest, rfl, isEquals, function, derived, rfl⟩

/-- A rule that needs a capability. -/
def Allowed (enabled : Capabilities) (capability : Capability) (rule : List Token → α → Prop)
    (tokens : List Token) (value : α) : Prop :=
  enabled.allows capability = true ∧ rule tokens value

/-- The keyword of a known kind, and the rule of this kind. -/
def Keyed [Keyword κ] [Worded κ] (known : List κ) (rule : κ → Token → List Token → α → Prop)
    (tokens : List Token) (value : α) : Prop :=
  ∃ kind ∈ known, ∃ keyword rest, tokens = keyword :: rest ∧ Keyworded kind keyword ∧
    rule kind keyword rest value

end Rule

namespace Grammar

variable {α β κ : Type} {source : Text}

theorem itemName_sameValues (role : Role) :
    (itemName role).SameValues (Parser.expect .identifier) := by
  intro feed rest keyword
  by_cases identifier : feed.current.kind = .identifier
  · simp [itemName, Parser.run_expect, identifier]
  · simp [itemName, Parser.run_expect, identifier]

/-- To require an equals sign and then pass it is to expect it. -/
theorem requireEquals_sameValues {keyword : Token} {next behind : Parser α}
    (passes : ∀ {feed : Feed}, feed.current.kind = .equals →
      next.run feed = behind.run feed.advance.2) :
    (requireEquals keyword >>= fun _ => next).SameValues
      (Parser.expect .equals >>= fun _ => behind) := by
  intro feed rest value
  by_cases equals : feed.current.kind = .equals
  · simp [requireEquals, Parser.run_expect, equals, passes equals]
  · simp [requireEquals, Parser.run_expect, equals]

/-- What needs a capability is read where it is enabled. -/
theorem requireCapability_reads {rule : List Token → α → Prop} {stop : List Token → Prop}
    {parser : Parser α} (enabled : Capabilities) (capability : Capability) (span : Span)
    (reads : parser.Reads source rule stop) :
    (requireCapability enabled capability span >>= fun _ => parser).Reads source
      (Rule.Allowed enabled capability rule) stop := by
  by_cases allowed : enabled.allows capability = true
  · have same : (requireCapability enabled capability span >>= fun _ => parser) = parser := by
      funext feed
      change (requireCapability enabled capability span >>= fun _ => parser).run feed = _
      rw [Parser.run_bind, requireCapability, Parser.run_ofExcept, Capabilities.require,
        if_pos allowed]
      rfl
    rw [same]
    apply reads.congr
    · simp [Rule.Allowed, allowed]
    · rintro tokens value ⟨_, derived⟩
      exact reads.nested derived
  · refine (Parser.Reads.fails ?_).congr (by simp [Rule.Allowed, allowed])
      (by simp [Rule.Allowed, allowed])
    intro feed rest value ran
    rw [Parser.run_bind, requireCapability, Parser.run_ofExcept, Capabilities.require,
      if_neg allowed] at ran
    cases ran

/-- Items of known kinds are read by their keywords. -/
theorem keyed_reads [Keyword κ] [Worded κ]
    (injective : ∀ {first second : κ}, Keyword.name first = Keyword.name second → first = second)
    (role : Role) {known : List κ} {itemOf : Token → Option κ → Parser α}
    {rule : κ → Token → List Token → α → Prop}
    (reads : ∀ kind keyword, (itemOf keyword (some kind)).Reads source (rule kind keyword) ItemEnd)
    (unknown : ∀ (keyword : Token) (feed rest : Feed) (value : α),
      (itemOf keyword none).run feed ≠ (.ok value, rest)) :
    (itemName role >>= fun keyword =>
      itemOf keyword (Keyword.find? known (String.ofList keyword.value))).Reads source
      (Rule.Keyed known rule) ItemEnd := by
  have found_reads : ∀ (keyword : Token) (found : Option κ),
      (itemOf keyword found).Reads source
        (fun tokens value => ∃ kind, found = some kind ∧ rule kind keyword tokens value)
        ItemEnd := by
    intro keyword found
    cases found with
    | none => exact (Parser.Reads.fails (unknown keyword)).congr (by simp) (by simp)
    | some kind =>
        apply (reads kind keyword).congr
        · simp
        · rintro tokens value ⟨_, same, derived⟩
          cases same
          exact (reads kind keyword).nested derived
  have named_reads := (Parser.Reads.expect_bind rfl fun keyword => found_reads keyword
    (Keyword.find? known (String.ofList keyword.value))).of_sameValues
    ((itemName_sameValues role).bind fun _ => .refl _)
  have same : ∀ {tokens value}, Rule.Seq (Rule.Single .identifier) (fun keyword tokens value =>
        ∃ kind, Keyword.find? known (String.ofList keyword.value) = some kind ∧
          rule kind keyword tokens value) tokens value ↔
      Rule.Keyed known rule tokens value := by
    intro tokens value
    rw [Rule.seq_single_iff]
    simp only [Keyword.find?_eq_some_iff injective]
    constructor
    · rintro ⟨keyword, rest, rfl, identifier, kind, ⟨member, named⟩, derived⟩
      exact ⟨kind, member, keyword, rest, rfl, Rule.keyworded_iff.2 ⟨identifier, named.symm⟩, derived⟩
    · rintro ⟨kind, member, keyword, rest, rfl, keyed, derived⟩
      exact ⟨keyword, rest, rfl, keyed.1, kind, ⟨member, keyed.name_eq.symm⟩, derived⟩
  exact named_reads.of_iff same

/-- An item with a number. -/
theorem numberItem_reads {type : LiteralType α} {denotes : Denotation α}
    (meets : type.Meets denotes) (keyword : Token) (item : α → β) :
    (numberItem type keyword item).Reads source
      (Rule.ValueItem (Rule.Number denotes) keyword item) ItemEnd := by
  have reads := (@number_reads source α type denotes meets).map fun number =>
    (⟨item number.item, keyword.span.join number.span⟩ : Spanned β)
  refine ((Parser.Reads.expect_bind rfl fun _ => reads).weaken fun _ => trivial).of_sameValues
    (requireEquals_sameValues ?_)
  intro feed equals
  rw [Parser.run_bind, run_assignedNumber_of_equals equals]
  rfl

/-- An item with a function. -/
theorem functionItem_reads (inputType : Text) (keyword : Token) (item : BoundFunction → β) :
    (functionItem inputType keyword item).Reads source
      (Rule.FunctionItem source inputType item) ItemEnd := by
  have reads := (@typedFunction_reads source inputType).map fun function =>
    (⟨item function.item, function.span⟩ : Spanned β)
  rw [functionItem, customFunction, bind_assoc]
  refine (Parser.Reads.expect_bind rfl fun _ => reads).of_sameValues
    (requireEquals_sameValues ?_)
  intro feed equals
  simp [-bind_pure_comp]

/-- An item with a pattern. -/
theorem patternItem_reads (keyword : Token) (item : Pattern → β) :
    (patternItem keyword item).Reads source
      (Rule.ValueItem Rule.Pattern keyword item) ItemEnd := by
  have reads := ((@pattern_reads source).weaken ItemEnd.pathEnd).map fun pattern =>
    (⟨item pattern.item, keyword.span.join pattern.span⟩ : Spanned β)
  refine (Parser.Reads.expect_bind rfl fun _ => reads).of_sameValues
    (requireEquals_sameValues ?_)
  intro feed equals
  simp [-bind_pure_comp]

end Grammar

/-! ## Sanitizers -/

namespace Rule

variable {source : Text} {tokens : List Token}

theorem Custom.unbroken {expected : Text} {function : Spanned BoundFunction}
    (custom : Custom source expected tokens function) : Unbroken tokens := by
  cases custom with
  | function derived _ => exact derived.unbroken

theorem Custom.nested {expected : Text} {function : Spanned BoundFunction}
    (custom : Custom source expected tokens function) : Nested tokens :=
  custom.unbroken.nested

/-- What follows an equals sign is behind a keyword. -/
theorem Led.assigned {keyword equals : Token} {κ : Type} [Keyword κ] [Worded κ] {kind : κ}
    (keyed : Keyworded kind keyword) (isEquals : equals.kind = .equals) (nested : Nested tokens) :
    Led (keyword :: equals :: tokens) :=
  ⟨keyword, equals :: tokens, rfl, keyed.1, .plain (by rw [isEquals]; rfl) nested⟩

/-- What follows the keyword of a string sanitizer. -/
def StringSanitizingOf (source : Text) :
    StringSanitizerKind → Token → List Token → Spanned StringSanitizer → Prop
  | .custom, _ =>
    FunctionItem source "String".toList fun function =>
      { kind := .custom, function := some function }
  | kind, keyword => Given (.ok ⟨{ kind }, keyword.span⟩)

theorem keyed_stringSanitizingOf_iff {value : Spanned StringSanitizer} :
    Keyed Keyword.all (StringSanitizingOf source) tokens value ↔
      StringSanitizing source tokens value := by
  constructor
  · rintro ⟨kind, _, keyword, rest, rfl, keyed, derived⟩
    cases kind with
    | custom =>
        rw [StringSanitizingOf, functionItem_iff] at derived
        rcases derived with ⟨equals, rest, function, rfl, isEquals, custom, rfl⟩
        exact .custom keyed isEquals custom
    | _ =>
        rcases derived with ⟨rfl, same⟩
        cases same
        exact .plain (by simp) keyed
  · intro derived
    cases derived with
    | @plain keyword kind other keyed =>
        refine ⟨kind, by cases kind <;> simp [Keyword.all], keyword, [], rfl, keyed, ?_⟩
        cases kind with
        | custom => exact absurd rfl other
        | _ => exact ⟨rfl, rfl⟩
    | custom keyed isEquals custom =>
        refine ⟨.custom, by simp [Keyword.all], _, _, rfl, keyed, ?_⟩
        rw [StringSanitizingOf, functionItem_iff]
        exact ⟨_, _, _, rfl, isEquals, custom, rfl⟩

theorem StringSanitizing.led {value : Spanned StringSanitizer}
    (derived : StringSanitizing source tokens value) : Led tokens := by
  cases derived with
  | plain _ keyed => exact ⟨_, [], rfl, keyed.1, .nil⟩
  | custom keyed isEquals custom => exact .assigned keyed isEquals custom.nested

/-- What follows the keyword of a numeric sanitizer. -/
def NumericSanitizingOf (source inputType : Text) :
    NumericSanitizerKind → Token → List Token → Spanned NumericSanitizer → Prop
  | .custom, _ =>
    FunctionItem source inputType fun function => { kind := .custom, function := some function }

theorem keyed_numericSanitizingOf_iff {inputType : Text} {value : Spanned NumericSanitizer} :
    Keyed Keyword.all (NumericSanitizingOf source inputType) tokens value ↔
      NumericSanitizing source inputType tokens value := by
  constructor
  · rintro ⟨⟨⟩, _, keyword, rest, rfl, keyed, derived⟩
    rw [NumericSanitizingOf, functionItem_iff] at derived
    rcases derived with ⟨equals, rest, function, rfl, isEquals, custom, rfl⟩
    exact .custom keyed isEquals custom
  · rintro ⟨keyed, isEquals, custom⟩
    refine ⟨.custom, by simp [Keyword.all], _, _, rfl, keyed, ?_⟩
    rw [NumericSanitizingOf, functionItem_iff]
    exact ⟨_, _, _, rfl, isEquals, custom, rfl⟩

theorem NumericSanitizing.led {inputType : Text} {value : Spanned NumericSanitizer}
    (derived : NumericSanitizing source inputType tokens value) : Led tokens := by
  cases derived with
  | custom keyed isEquals custom => exact .assigned keyed isEquals custom.nested

end Rule

namespace Grammar

variable {source : Text}

theorem stringSanitizer_reads :
    stringSanitizer.Reads source (Rule.StringSanitizing source) ItemEnd := by
  rw [stringSanitizer_eq]
  have reads : ∀ (kind : StringSanitizerKind) (keyword : Token),
      (stringSanitizerOf keyword (some kind)).Reads source
        (Rule.StringSanitizingOf source kind keyword) ItemEnd := by
    intro kind keyword
    cases kind with
    | custom =>
        rw [Rule.StringSanitizingOf]
        exact functionItem_reads _ keyword _
    | _ => exact .given fun _ => rfl
  refine (keyed_reads StringSanitizerKind.name_injective .sanitizer reads ?_).congr
    (fun _ => Rule.keyed_stringSanitizingOf_iff) fun derived => derived.led.nested
  intro keyword feed rest value ran
  cases ran

theorem numericSanitizer_reads (inputType : Text) :
    (numericSanitizer inputType).Reads source (Rule.NumericSanitizing source inputType)
      ItemEnd := by
  rw [numericSanitizer_eq]
  have reads : ∀ (kind : NumericSanitizerKind) (keyword : Token),
      (numericSanitizerOf inputType keyword (some kind)).Reads source
        (Rule.NumericSanitizingOf source inputType kind keyword) ItemEnd := by
    rintro ⟨⟩ keyword
    rw [Rule.NumericSanitizingOf]
    exact functionItem_reads inputType keyword _
  refine (keyed_reads (fun _ => rfl) .sanitizer reads ?_).congr
    (fun _ => Rule.keyed_numericSanitizingOf_iff) fun derived => derived.led.nested
  intro keyword feed rest value ran
  cases ran

end Grammar

/-! ## Validators -/

namespace Rule

variable {α : Type} {source : Text} {tokens : List Token}

theorem Number.exists_cover? {denotes : Denotation α} {value : α}
    (number : Number denotes tokens value) : ∃ span, cover? tokens = some span := by
  cases number with
  | plain _ _ => exact exists_cover?_cons _ _
  | negative _ _ _ => exact exists_cover?_cons _ _

theorem Pattern.exists_cover? {pattern : GuardLang.Pattern} (derived : Pattern tokens pattern) :
    ∃ span, cover? tokens = some span := by
  cases derived with
  | literal _ => exact exists_cover?_cons _ _
  | path path => exact path.exists_cover?

/-- What follows the keyword of a string validator. -/
def StringValidatingOf (source : Text) (enabled : Capabilities) :
    StringValidatorKind → Token → List Token → Spanned StringValidator → Prop
  | .notEmpty, keyword => Given (.ok ⟨{ kind := .notEmpty }, keyword.span⟩)
  | .custom, _ =>
    FunctionItem source "&str".toList fun function =>
      { kind := .custom, function := some function }
  | .regex, keyword =>
    Allowed enabled .regex (ValueItem Pattern keyword fun pattern =>
      { kind := .regex, pattern := some pattern })
  | kind, keyword =>
    ValueItem (Number IntegerType.usize.Denotes) keyword fun length =>
      { kind, length := some length }

theorem keyed_stringValidatingOf_iff {enabled : Capabilities} {value : Spanned StringValidator}
    (ordered : Ordered tokens) :
    Keyed Keyword.all (StringValidatingOf source enabled) tokens value ↔
      StringValidating source enabled tokens value := by
  constructor
  · rintro ⟨kind, _, keyword, rest, rfl, keyed, derived⟩
    rcases value with ⟨item, span⟩
    cases kind with
    | notEmpty =>
        rcases derived with ⟨rfl, same⟩
        cases same
        exact .notEmpty keyed
    | custom =>
        rw [StringValidatingOf, functionItem_iff] at derived
        rcases derived with ⟨equals, rest, function, rfl, isEquals, custom, same⟩
        cases same
        exact .custom keyed isEquals custom
    | regex =>
        rcases derived with ⟨allowed, derived⟩
        rcases (valueItem_iff ordered Pattern.exists_cover?).1 derived with
          ⟨equals, rest, pattern, rfl, isEquals, isPattern, covered, rfl⟩
        exact .regex allowed keyed isEquals isPattern covered
    | minLen =>
        simp only [StringValidatingOf, valueItem_iff ordered Number.exists_cover?] at derived
        rcases derived with ⟨equals, rest, length, rfl, isEquals, number, covered, rfl⟩
        exact .length (.inl rfl) keyed isEquals number covered
    | maxLen =>
        simp only [StringValidatingOf, valueItem_iff ordered Number.exists_cover?] at derived
        rcases derived with ⟨equals, rest, length, rfl, isEquals, number, covered, rfl⟩
        exact .length (.inr rfl) keyed isEquals number covered
  · intro derived
    cases derived with
    | notEmpty keyed => exact ⟨.notEmpty, by simp [Keyword.all], _, [], rfl, keyed, rfl, rfl⟩
    | @length keyword equals kind rest length span bound keyed isEquals number covered =>
        refine ⟨kind, by cases kind <;> simp [Keyword.all], keyword, _, rfl, keyed, ?_⟩
        rcases bound with rfl | rfl
        · simp only [StringValidatingOf, valueItem_iff ordered Number.exists_cover?]
          exact ⟨equals, rest, length, rfl, isEquals, number, covered, rfl⟩
        · simp only [StringValidatingOf, valueItem_iff ordered Number.exists_cover?]
          exact ⟨equals, rest, length, rfl, isEquals, number, covered, rfl⟩
    | custom keyed isEquals custom =>
        refine ⟨.custom, by simp [Keyword.all], _, _, rfl, keyed, ?_⟩
        rw [StringValidatingOf, functionItem_iff]
        exact ⟨_, _, _, rfl, isEquals, custom, rfl⟩
    | regex allowed keyed isEquals isPattern covered =>
        exact ⟨.regex, by simp [Keyword.all], _, _, rfl, keyed, allowed,
          (valueItem_iff ordered Pattern.exists_cover?).2
            ⟨_, _, _, rfl, isEquals, isPattern, covered, rfl⟩⟩

theorem StringValidating.led {enabled : Capabilities} {value : Spanned StringValidator}
    (derived : StringValidating source enabled tokens value) : Led tokens := by
  cases derived with
  | notEmpty keyed => exact ⟨_, [], rfl, keyed.1, .nil⟩
  | length _ keyed isEquals number _ => exact .assigned keyed isEquals number.nested
  | custom keyed isEquals custom => exact .assigned keyed isEquals custom.nested
  | regex _ keyed isEquals isPattern _ => exact .assigned keyed isEquals isPattern.nested

/-- What follows the keyword of a numeric validator. -/
def NumericValidatingOf (source inputType : Text) (denotes : Denotation α) :
    NumericValidatorKind → Token → List Token → Spanned (NumericValidator α) → Prop
  | .finite, keyword => Given (.ok ⟨{ kind := .finite }, keyword.span⟩)
  | .custom, _ =>
    FunctionItem source inputType fun function =>
      { kind := .custom, function := some function }
  | kind, keyword => ValueItem (Number denotes) keyword fun value => { kind, value := some value }

theorem keyed_numericValidatingOf_iff {inputType : Text} {denotes : Denotation α}
    {known : List NumericValidatorKind} {value : Spanned (NumericValidator α)}
    (ordered : Ordered tokens) :
    Keyed known (NumericValidatingOf source inputType denotes) tokens value ↔
      NumericValidating source inputType denotes known tokens value := by
  constructor
  · rintro ⟨kind, member, keyword, rest, rfl, keyed, derived⟩
    rcases value with ⟨item, span⟩
    cases kind with
    | finite =>
        rcases derived with ⟨rfl, same⟩
        cases same
        exact .finite member keyed
    | custom =>
        rw [NumericValidatingOf, functionItem_iff] at derived
        rcases derived with ⟨equals, rest, function, rfl, isEquals, custom, same⟩
        cases same
        exact .custom member keyed isEquals custom
    | _ =>
        simp only [NumericValidatingOf, valueItem_iff ordered Number.exists_cover?] at derived
        rcases derived with ⟨equals, rest, bound, rfl, isEquals, number, covered, rfl⟩
        exact .bound member (by simp) keyed isEquals number covered
  · intro derived
    cases derived with
    | finite member keyed => exact ⟨.finite, member, _, [], rfl, keyed, rfl, rfl⟩
    | @bound keyword equals kind rest bound span member limits keyed isEquals number covered =>
        refine ⟨kind, member, keyword, _, rfl, keyed, ?_⟩
        cases kind with
        | finite => simp at limits
        | custom => simp at limits
        | _ =>
            simp only [NumericValidatingOf, valueItem_iff ordered Number.exists_cover?]
            exact ⟨equals, rest, bound, rfl, isEquals, number, covered, rfl⟩
    | custom member keyed isEquals custom =>
        refine ⟨.custom, member, _, _, rfl, keyed, ?_⟩
        rw [NumericValidatingOf, functionItem_iff]
        exact ⟨_, _, _, rfl, isEquals, custom, rfl⟩

theorem NumericValidating.led {inputType : Text} {denotes : Denotation α}
    {known : List NumericValidatorKind} {value : Spanned (NumericValidator α)}
    (derived : NumericValidating source inputType denotes known tokens value) : Led tokens := by
  cases derived with
  | finite _ keyed => exact ⟨_, [], rfl, keyed.1, .nil⟩
  | bound _ _ keyed isEquals number _ => exact .assigned keyed isEquals number.nested
  | custom _ keyed isEquals custom => exact .assigned keyed isEquals custom.nested

end Rule

namespace Grammar

variable {α : Type} {source : Text}

theorem stringValidator_reads (enabled : Capabilities) :
    (stringValidator enabled).Reads source (Rule.StringValidating source enabled) ItemEnd := by
  rw [stringValidator_eq]
  have reads : ∀ (kind : StringValidatorKind) (keyword : Token),
      (stringValidatorOf enabled keyword (some kind)).Reads source
        (Rule.StringValidatingOf source enabled kind keyword) ItemEnd := by
    intro kind keyword
    cases kind with
    | notEmpty => exact .given fun _ => rfl
    | custom =>
        rw [Rule.StringValidatingOf]
        exact functionItem_reads _ keyword _
    | regex => exact requireCapability_reads enabled .regex _ (patternItem_reads keyword _)
    | _ =>
        simp only [Rule.StringValidatingOf]
        exact numberItem_reads IntegerType.usize.literals_meet keyword _
  refine (keyed_reads StringValidatorKind.name_injective .validator reads ?_).congr
    Rule.keyed_stringValidatingOf_iff fun derived => derived.led.nested
  intro keyword feed rest value ran
  cases ran

theorem numericValidator_reads {type : LiteralType α} {denotes : Denotation α}
    (meets : type.Meets denotes) (known : List NumericValidatorKind) :
    (numericValidator type known).Reads source
      (Rule.NumericValidating source type.name.toList denotes known) ItemEnd := by
  rw [numericValidator_eq]
  have reads : ∀ (kind : NumericValidatorKind) (keyword : Token),
      (numericValidatorOf type known keyword (some kind)).Reads source
        (Rule.NumericValidatingOf source type.name.toList denotes kind keyword) ItemEnd := by
    intro kind keyword
    cases kind with
    | finite => exact .given fun _ => rfl
    | custom =>
        rw [Rule.NumericValidatingOf]
        exact functionItem_reads _ keyword _
    | _ =>
        simp only [Rule.NumericValidatingOf]
        exact numberItem_reads meets keyword _
  refine (keyed_reads NumericValidatorKind.name_injective .validator reads ?_).congr
    Rule.keyed_numericValidatingOf_iff fun derived => derived.led.nested
  intro keyword feed rest value ran
  cases ran

/-! ## Families -/

theorem stringDefault_sameValues :
    stringDefault.SameValues (Parser.expect .string >>= fun token =>
      pure ⟨token.value, token.span⟩) := by
  intro feed rest value
  by_cases string : feed.current.kind = .string
  · simp [stringDefault, Parser.run_expect, string, -bind_pure_comp]
  · simp [stringDefault, Parser.run_expect, string, -bind_pure_comp]

/-- The default value of a string type is read wherever it stands. -/
theorem stringDefault_reads :
    stringDefault.Reads source (Rule.Whole Rule.StringDefault) Anywhere := by
  refine (((Parser.Reads.expect rfl).map _).of_sameValues stringDefault_sameValues).congr ?_ ?_
  · intro tokens value _
    constructor
    · rintro ⟨literal, ⟨rfl, string⟩, rfl⟩
      exact ⟨.literal string, rfl⟩
    · rcases value with ⟨text, span⟩
      rintro ⟨⟨string⟩, covered⟩
      cases covered.symm.trans (cover?_singleton _)
      exact ⟨_, ⟨rfl, string⟩, rfl⟩
  · rintro _ ⟨text, span⟩ ⟨⟨string⟩, _⟩
    exact .plain (by rw [string]; rfl) .nil

end Grammar

/-- A grammar reads the rules of a family. -/
structure Grammar.Reads {S V D : Type} (source : Text) (rules : Rules S V D)
    (grammar : Grammar S V D) : Prop where
  sanitizer : grammar.sanitizer.Reads source rules.sanitizer ItemEnd
  sanitizer_led : ∀ {tokens value}, rules.sanitizer tokens value → Rule.Led tokens
  validator : grammar.validator.Reads source rules.validator ItemEnd
  validator_led : ∀ {tokens value}, rules.validator tokens value → Rule.Led tokens
  defaultValue : grammar.defaultValue.Reads source rules.defaultValue Anywhere

theorem Grammar.ofStrings_reads (source : Text) (enabled : Capabilities) :
    (Grammar.ofStrings enabled).Reads source (.ofStrings source enabled) where
  sanitizer := stringSanitizer_reads
  sanitizer_led := Rule.StringSanitizing.led
  validator := stringValidator_reads enabled
  validator_led := Rule.StringValidating.led
  defaultValue := stringDefault_reads

theorem Grammar.ofNumbers_reads {α : Type} (source : Text) {type : LiteralType α}
    {denotes : Denotation α} (meets : type.Meets denotes) (known : List NumericValidatorKind) :
    (Grammar.ofNumbers type known).Reads source
      (.ofNumbers source type.name.toList denotes known) where
  sanitizer := numericSanitizer_reads type.name.toList
  sanitizer_led := Rule.NumericSanitizing.led
  validator := numericValidator_reads meets known
  validator_led := Rule.NumericValidating.led
  defaultValue := number_reads meets

theorem Grammar.ofIntegers_reads (source : Text) (type : IntegerType) :
    (Grammar.ofIntegers type).Reads source (.ofIntegers source type) := by
  rw [Rules.ofIntegers, ← type.name_eq]
  exact Grammar.ofNumbers_reads source type.literals_meet _

theorem Grammar.ofFloats_reads (source : Text) (type : FloatType) :
    (Grammar.ofFloats type).Reads source (.ofFloats source type) := by
  rw [Rules.ofFloats, ← type.name_eq]
  exact Grammar.ofNumbers_reads source type.literals_meet _

end GuardLang

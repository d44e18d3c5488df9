import GuardLang.Proofs.Located
import GuardLang.Proofs.Grammar.Rules

/-!
# Items with what their kind calls for

An item that the grammar derives has exactly what its kind calls for: a length, a
bound, a function or a pattern, and nothing else.  Lengths and bounds are in the
range of their type, functions take what their slot hands to them, and the body of
a closure is not empty.

What the grammar ensures of single items it ensures of a whole annotation
(`Rule.Annotated.meets`).
-/

namespace GuardLang

/-! ## Items -/

/-- A function for a slot that hands it values of the given type: a path without
the parts of a closure, or a closure with a body and without a path. -/
inductive BoundFunction.Fits (inputType : Text) : BoundFunction → Prop
  | path {path : Text} : Fits inputType { form := .path, path := some path, inputType }
  | closure {param body : Text} : body ≠ [] →
      Fits inputType { form := .closure, param := some param, body := some body, inputType }

/-- A sanitizer that has a function exactly if it is custom. -/
inductive Sanitizer.Fits {κ : Type} (custom : κ) (inputType : Text) : Sanitizer κ → Prop
  | plain {kind : κ} : kind ≠ custom → Fits custom inputType { kind }
  | custom {function : BoundFunction} : function.Fits inputType →
      Fits custom inputType { kind := custom, function := some function }

/-- A validator of strings that has what its kind calls for.  Patterns need a
capability. -/
inductive StringValidator.Fits (enabled : Capabilities) : StringValidator → Prop
  | length {kind : StringValidatorKind} {length : Int} : kind = .minLen ∨ kind = .maxLen →
      0 ≤ length → length ≤ (Nat.pow 2 64 : Int) - 1 →
      Fits enabled { kind, length := some length }
  | notEmpty : Fits enabled { kind := .notEmpty }
  | custom {function : BoundFunction} : function.Fits "&str".toList →
      Fits enabled { kind := .custom, function := some function }
  | regex {pattern : Pattern} : enabled.allows .regex = true →
      Fits enabled { kind := .regex, pattern := some pattern }

/-- A validator of numbers that has what its kind calls for.  Only some types can
be checked to be finite. -/
inductive NumericValidator.Fits {α : Type} (inRange : α → Prop) (inputType : Text)
    (finite : Prop) : NumericValidator α → Prop
  | bound {kind : NumericValidatorKind} {value : α} : kind.isLower = true ∨ kind.isUpper = true →
      inRange value → Fits inRange inputType finite { kind, value := some value }
  | custom {function : BoundFunction} : function.Fits inputType →
      Fits inRange inputType finite { kind := .custom, function := some function }
  | finite : finite → Fits inRange inputType finite { kind := .finite }

/-- No length is negative. -/
theorem StringValidator.Fits.length_nonneg {enabled : Capabilities} {validator : StringValidator}
    (fits : validator.Fits enabled) {length : Int} (given : length ∈ validator.length) :
    0 ≤ length := by
  cases fits with
  | length _ nonneg _ =>
      cases given
      exact nonneg
  | notEmpty | custom | regex => cases given

/-- A validator that bounds numbers has a bound, and it is in range. -/
theorem NumericValidator.Fits.exists_value {α : Type} {inRange : α → Prop} {inputType : Text}
    {finite : Prop} {validator : NumericValidator α}
    (fits : validator.Fits inRange inputType finite)
    (bounds : validator.kind.isLower = true ∨ validator.kind.isUpper = true) :
    ∃ value ∈ validator.value, inRange value := by
  cases fits with
  | bound _ within => exact ⟨_, rfl, within⟩
  | custom => simp [NumericValidatorKind.isLower, NumericValidatorKind.isUpper] at bounds
  | finite => simp [NumericValidatorKind.isLower, NumericValidatorKind.isUpper] at bounds

/-! ## Ranges -/

/-- The integers that a type holds. -/
def IntegerType.InRange (type : IntegerType) (value : Int) : Prop :=
  type.minimum ≤ value ∧ value ≤ type.maximum

/-- The doubles that a type does not exceed. -/
def FloatType.InRange (type : FloatType) (value : Binary64) : Prop :=
  value.exceeds type.maximumUnits = false

/-- A default value of the family. -/
inductive Literal.Fits : Family → Literal → Prop
  | text {value : Text} : Fits .string (.text value)
  | integer {type : IntegerType} {value : Int} : type.InRange value →
      Fits (.integer type) (.number (.integer value))
  | float {type : FloatType} {value : Binary64} : type.InRange value →
      Fits (.float type) (.number (.float value))

/-- Two steps succeed exactly if both do. -/
theorem Except.bind_eq_ok_iff {ε α β : Type} {outcome : Except ε α} {next : α → Except ε β}
    {value : β} :
    outcome >>= next = .ok value ↔ ∃ first, outcome = .ok first ∧ next first = .ok value := by
  cases outcome with
  | error fault => simp [bind, Except.bind]
  | ok first => simp [bind, Except.bind]

theorem IntegerType.Denotes.inRange {type : IntegerType} {negative : Bool} {literal : Text}
    {value : Int} (denotes : type.Denotes negative literal value) : type.InRange value :=
  ⟨denotes.least, denotes.greatest⟩

theorem FloatType.Denotes.inRange {type : FloatType} {negative : Bool} {literal : Text}
    {value : Binary64} (denotes : type.Denotes negative literal value) : type.InRange value := by
  cases denotes with
  | finite _ _ within =>
      rw [InRange, exceeds_finite, decide_eq_false_iff_not, Nat.not_lt]
      exact within

/-! ## Tokens within a text -/

/-- Tokens in order that end within a text. -/
structure Within (source : Text) (tokens : List Token) : Prop where
  ordered : Ordered tokens
  stop_le : ∀ token ∈ tokens, token.span.stop ≤ source.length

namespace Within

variable {source : Text} {tokens part : List Token}

theorem sublist (within : Within source tokens) (sub : part.Sublist tokens) :
    Within source part :=
  ⟨within.ordered.sublist sub, fun token member => within.stop_le token (sub.subset member)⟩

/-- The tokens behind a keyword and the sign that follows it. -/
theorem assigned {keyword sign : Token} (within : Within source (keyword :: sign :: tokens)) :
    Within source tokens :=
  within.sublist ((List.sublist_cons_self _ _).trans (List.sublist_cons_self _ _))

/-- Tokens cover some text. -/
theorem text_ne_nil (within : Within source tokens) {span : Span}
    (covered : cover? tokens = some span) : span.text source ≠ [] := by
  obtain ⟨first, last, head, ending, rfl⟩ := cover?_eq_some_iff.1 covered
  have proper := within.ordered.proper first (List.mem_of_mem_head? head)
  have reaches := within.ordered.stop_le_getLast (List.mem_of_mem_head? head) ending
  have inside := within.stop_le last (List.mem_of_getLast? ending)
  have length_eq : ((first.span.through last.span).text source).length =
      last.span.stop - first.span.start :=
    Span.length_text inside
  apply List.ne_nil_of_length_pos
  omega

end Within

/-! ## Derived items -/

namespace Rule

variable {source : Text} {tokens : List Token}

theorem Custom.fits {expected : Text} {function : Spanned BoundFunction}
    (custom : Custom source expected tokens function) (within : Within source tokens) :
    function.item.Fits expected := by
  obtain ⟨derived, _⟩ := custom
  cases derived with
  | path => exact .path
  | closure closure =>
      obtain @⟨opening, param, closing, typing, body, _, _, _, _, _, _, _, _, covered, _⟩ := closure
      have suffix : body <:+ opening :: param :: (typing ++ closing :: body) :=
        ⟨opening :: param :: (typing ++ [closing]), by simp⟩
      exact .closure ((within.sublist suffix.sublist).text_ne_nil covered)

theorem StringSanitizing.fits {sanitizer : Spanned StringSanitizer}
    (derived : StringSanitizing source tokens sanitizer) (within : Within source tokens) :
    sanitizer.item.Fits .custom "String".toList := by
  cases derived with
  | plain plain => exact .plain plain
  | custom _ _ function => exact .custom (function.fits within.assigned)

theorem NumericSanitizing.fits {inputType : Text} {sanitizer : Spanned NumericSanitizer}
    (derived : NumericSanitizing source inputType tokens sanitizer)
    (within : Within source tokens) : sanitizer.item.Fits .custom inputType := by
  cases derived with
  | custom _ _ function => exact .custom (function.fits within.assigned)

/-- A number that is derived is denoted by a literal. -/
theorem Number.exists_denotes {α : Type} {denotes : Denotation α} {value : α}
    (derived : Number denotes tokens value) :
    ∃ negative literal, denotes negative literal value := by
  cases derived with
  | plain _ denoted => exact ⟨_, _, denoted⟩
  | negative _ _ denoted => exact ⟨_, _, denoted⟩

theorem StringValidating.fits {enabled : Capabilities} {validator : Spanned StringValidator}
    (derived : StringValidating source enabled tokens validator)
    (within : Within source tokens) : validator.item.Fits enabled := by
  cases derived with
  | notEmpty => exact .notEmpty
  | length kind _ _ number =>
      obtain ⟨_, _, denotes⟩ := number.exists_denotes
      exact .length kind denotes.least denotes.greatest
  | custom _ _ function => exact .custom (function.fits within.assigned)
  | regex allowed => exact .regex allowed

theorem NumericValidating.fits {α : Type} {inputType : Text} {denotes : Denotation α}
    {known : List NumericValidatorKind} {inRange : α → Prop}
    (inRange_of_denotes : ∀ negative literal value, denotes negative literal value →
      inRange value)
    {validator : Spanned (NumericValidator α)}
    (derived : NumericValidating source inputType denotes known tokens validator)
    (within : Within source tokens) :
    validator.item.Fits inRange inputType (.finite ∈ known) := by
  cases derived with
  | finite known => exact .finite known
  | bound _ kind _ _ number =>
      obtain ⟨_, _, denoted⟩ := number.exists_denotes
      exact .bound (mem_bounds_iff.1 kind) (inRange_of_denotes _ _ _ denoted)
  | custom _ _ _ function => exact .custom (function.fits within.assigned)

end Rule

/-! ## Whole annotations -/

section

variable {S V D : Type} {source : Text} {sanitizer : S → Prop} {validator : V → Prop}
  {defaultValue : D → Prop}

/-- What rules derive from tokens within a text has the given properties. -/
structure Rules.Ensure (source : Text) (sanitizer : S → Prop) (validator : V → Prop)
    (defaultValue : D → Prop) (rules : Rules S V D) : Prop where
  sanitizer : ∀ {tokens value}, rules.sanitizer tokens value → Within source tokens →
    sanitizer value.item
  validator : ∀ {tokens value}, rules.validator tokens value → Within source tokens →
    validator value.item
  defaultValue : ∀ {tokens value}, rules.defaultValue tokens value → Within source tokens →
    defaultValue value.item

/-- All that a draft holds has the given properties, and is enabled. -/
structure Draft.Meets (enabled : Capabilities) (sanitizer : S → Prop) (validator : V → Prop)
    (defaultValue : D → Prop) (draft : Draft S V D) : Prop where
  sanitizers : ∀ item ∈ draft.items.sanitizers, sanitizer item.item
  validators : ∀ item ∈ draft.items.validators, validator item.item
  defaultValue : ∀ value ∈ draft.defaultValue, defaultValue value.item
  newUnchecked : draft.newUnchecked = true → enabled.allows .newUnchecked = true

namespace Rule

variable {rules : Rules S V D} {enabled : Capabilities} {tokens : List Token}

/-- What holds of all items that are derived holds of the items of a list. -/
theorem Listed.forall_item {α : Type} {item : List Token → Spanned α → Prop} {holds : α → Prop}
    (ensured : ∀ {tokens value}, item tokens value → Within source tokens → holds value.item)
    {values : List (Spanned α)} (listed : Listed item tokens values)
    (within : Within source tokens) : ∀ value ∈ values, holds value.item := by
  induction listed with
  | nil => simp
  | last derived => simpa using ensured derived within
  | @more tokens rest comma value values derived _ _ ih =>
      intro found member
      rcases List.mem_cons.1 member with rfl | member
      · exact ensured derived (within.sublist (List.sublist_append_left _ _))
      · have behind : rest.Sublist (tokens ++ comma :: rest) :=
          (List.sublist_cons_self _ _).trans (List.sublist_append_right _ _)
        exact ih (within.sublist behind) found member

/-- An option adds to a draft only what is ensured. -/
theorem Sets.meets (ensure : rules.Ensure source sanitizer validator defaultValue)
    {setting : Setting S V D} (sets : Sets rules enabled tokens setting)
    (within : Within source tokens) {draft : Draft S V D}
    (meets : draft.Meets enabled sanitizer validator defaultValue) :
    (setting.addTo draft).Meets enabled sanitizer validator defaultValue := by
  have inside : ∀ {keyword opener closer : Token} {inner : List Token},
      Within source (keyword :: opener :: (inner ++ [closer])) → Within source inner :=
    fun within => within.assigned.sublist (List.sublist_append_left _ _)
  cases sets with
  | sanitize _ _ listed _ =>
      exact { meets with sanitizers := listed.forall_item ensure.sanitizer (inside within) }
  | validate _ _ listed _ =>
      exact { meets with validators := listed.forall_item ensure.validator (inside within) }
  | default _ _ derived =>
      refine { meets with defaultValue := ?_ }
      rintro _ ⟨⟩
      exact ensure.defaultValue derived within.assigned
  | newUnchecked allowed _ => exact { meets with newUnchecked := fun _ => allowed }

theorem Options.meets (ensure : rules.Ensure source sanitizer validator defaultValue)
    {settings : List (Setting S V D)} (options : Options rules enabled tokens settings)
    (within : Within source tokens) {draft : Draft S V D}
    (meets : draft.Meets enabled sanitizer validator defaultValue) :
    (settings.foldl Setting.addTo draft).Meets enabled sanitizer validator defaultValue := by
  induction options generalizing draft with
  | nil => exact meets
  | option sets _ _ ih =>
      apply ih (within.sublist (List.sublist_append_right _ _))
      rw [List.append_assoc] at within
      exact sets.meets ensure (within.sublist (List.sublist_append_left _ _)) meets

/-- An annotation declares only what is ensured. -/
theorem Annotated.meets (ensure : rules.Ensure source sanitizer validator defaultValue)
    {draft : Draft S V D} (annotated : Annotated rules enabled tokens draft)
    (within : Within source tokens) :
    draft.Meets enabled sanitizer validator defaultValue := by
  obtain ⟨settings, options, _, rfl⟩ := annotated
  apply options.meets ensure within
  exact ⟨by simp, by simp, by simp, by simp⟩

end Rule

end

namespace Rules

variable (source : Text)

theorem ofStrings_ensure (enabled : Capabilities) :
    (ofStrings source enabled).Ensure source
      (·.Fits .custom "String".toList) (·.Fits enabled) fun _ => True :=
  ⟨Rule.StringSanitizing.fits, Rule.StringValidating.fits, fun _ _ => trivial⟩

theorem ofNumbers_ensure {α : Type} (inputType : Text) {denotes : Denotation α}
    {inRange : α → Prop} (known : List NumericValidatorKind)
    (inRange_of_denotes : ∀ negative literal value, denotes negative literal value →
      inRange value) :
    (ofNumbers source inputType denotes known).Ensure source (·.Fits .custom inputType)
      (·.Fits inRange inputType (.finite ∈ known)) inRange := by
  refine ⟨Rule.NumericSanitizing.fits, Rule.NumericValidating.fits inRange_of_denotes, ?_⟩
  rintro tokens value ⟨derived, _⟩ _
  obtain ⟨_, _, denoted⟩ := derived.exists_denotes
  exact inRange_of_denotes _ _ _ denoted

/-- Integers are always finite, so there is nothing to check. -/
theorem ofIntegers_ensure (type : IntegerType) :
    (ofIntegers source type).Ensure source
      (·.Fits .custom type.word.toList) (·.Fits type.InRange type.word.toList False)
      type.InRange := by
  have unlisted : (NumericValidatorKind.finite ∈ NumericValidatorKind.ofIntegers) = False := by
    decide
  rw [← unlisted]
  exact ofNumbers_ensure source type.word.toList _ fun _ _ _ => IntegerType.Denotes.inRange

theorem ofFloats_ensure (type : FloatType) :
    (ofFloats source type).Ensure source (·.Fits .custom type.word.toList)
      (·.Fits type.InRange type.word.toList True) type.InRange := by
  have listed : (NumericValidatorKind.finite ∈ Keyword.all) = True := by
    decide
  rw [← listed]
  exact ofNumbers_ensure source type.word.toList _ fun _ _ _ => FloatType.Denotes.inRange

end Rules

end GuardLang

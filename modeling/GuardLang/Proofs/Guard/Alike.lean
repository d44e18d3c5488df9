import GuardLang.Declaration
import GuardLang.Proofs.Alike
import Mathlib.Data.List.Forall2

/-!
# Guards that differ in spans and bodies

Two declarations are alike if they are the same up to their spans and the bodies
of their closures.  How spans and bodies may differ is a parameter.  As long as
functions have spans, how their bodies may differ can depend on these: where a
function stands tells it from others that are written alike.

Checking a guard looks at no body, and at spans only to join them or to see
which starts later.  So alike guards are both accepted, or both refused for the
same cause (`RawGuard.Alike.check`).
-/

namespace GuardLang

variable (near : Span → Span → Prop) (bodies : Text → Text → Prop)
  (placed : Span → Text → Text → Prop)

/-! ## Functions -/

/-- Two references to functions that differ at most in their spans and bodies. -/
structure FunctionRef.Alike (function other : FunctionRef) : Prop where
  form_eq : function.form = other.form
  path_eq : function.path = other.path
  param_eq : function.param = other.param
  paramType_eq : function.paramType = other.paramType
  body : Option.Rel (placed function.span) function.body other.body
  span : near function.span other.span

/-- Two functions that differ at most in their bodies. -/
structure BoundFunction.Alike (function other : BoundFunction) : Prop where
  form_eq : function.form = other.form
  path_eq : function.path = other.path
  param_eq : function.param = other.param
  inputType_eq : function.inputType = other.inputType
  body : Option.Rel bodies function.body other.body

/-! ## Items -/

/-- Two sanitizers that differ at most in the bodies of their functions. -/
structure Sanitizer.Alike {κ : Type} (sanitizer other : Sanitizer κ) : Prop where
  kind_eq : sanitizer.kind = other.kind
  function : Option.Rel (BoundFunction.Alike bodies) sanitizer.function other.function

/-- Two validators of strings that differ at most in the bodies of their
functions. -/
structure StringValidator.Alike (validator other : StringValidator) : Prop where
  kind_eq : validator.kind = other.kind
  length_eq : validator.length = other.length
  pattern_eq : validator.pattern = other.pattern
  function : Option.Rel (BoundFunction.Alike bodies) validator.function other.function

/-- Two validators of numbers that differ at most in the bodies of their
functions. -/
structure NumericValidator.Alike {α : Type} (validator other : NumericValidator α) : Prop where
  kind_eq : validator.kind = other.kind
  value_eq : validator.value = other.value
  function : Option.Rel (BoundFunction.Alike bodies) validator.function other.function

/-- Related values with spans near each other. -/
structure Spanned.Alike {α : Type} (related : α → α → Prop) (value other : Spanned α) : Prop where
  item : related value.item other.item
  span : near value.span other.span

/-- Values with spans near each other, related in a way that depends on where the
first one stands. -/
abbrev Spanned.AlikeAt {α : Type} (related : Span → α → α → Prop) (value other : Spanned α) :
    Prop :=
  value.Alike near (related value.span) other

/-- Lists of items that are related one by one. -/
structure Items.Alike {S V : Type} (sanitizer : S → S → Prop) (validator : V → V → Prop)
    (items others : Items S V) : Prop where
  sanitizers : List.Forall₂ sanitizer items.sanitizers others.sanitizers
  validators : List.Forall₂ validator items.validators others.validators

/-! ## Guards and declarations -/

/-- Two guards that differ at most in the bodies of their functions. -/
inductive Guard.Alike : Guard → Guard → Prop
  | string {items others : Items StringSanitizer StringValidator} :
      items.Alike (Sanitizer.Alike bodies) (StringValidator.Alike bodies) others →
      Alike (.string items) (.string others)
  | integer {type : IntegerType} {items others : Items NumericSanitizer (NumericValidator Int)} :
      items.Alike (Sanitizer.Alike bodies) (NumericValidator.Alike bodies) others →
      Alike (.integer type items) (.integer type others)
  | float {type : FloatType} {items others : Items NumericSanitizer (NumericValidator Binary64)} :
      items.Alike (Sanitizer.Alike bodies) (NumericValidator.Alike bodies) others →
      Alike (.float type items) (.float type others)

/-- Lists of items with spans that are related one by one. -/
abbrev RawItems.Alike {S V : Type} (sanitizer : Span → S → S → Prop)
    (validator : Span → V → V → Prop) (items others : RawItems S V) : Prop :=
  Items.Alike (Spanned.AlikeAt near sanitizer) (Spanned.AlikeAt near validator) items others

/-- Two guards that differ at most in spans and bodies, before they are checked. -/
inductive RawGuard.Alike : RawGuard → RawGuard → Prop
  | string {items others : RawItems StringSanitizer StringValidator} :
      items.Alike near (fun span => Sanitizer.Alike (placed span))
        (fun span => StringValidator.Alike (placed span)) others →
      Alike (.string items) (.string others)
  | integer {type : IntegerType}
      {items others : RawItems NumericSanitizer (NumericValidator Int)} :
      items.Alike near (fun span => Sanitizer.Alike (placed span))
        (fun span => NumericValidator.Alike (placed span)) others →
      Alike (.integer type items) (.integer type others)
  | float {type : FloatType}
      {items others : RawItems NumericSanitizer (NumericValidator Binary64)} :
      items.Alike near (fun span => Sanitizer.Alike (placed span))
        (fun span => NumericValidator.Alike (placed span)) others →
      Alike (.float type items) (.float type others)

/-- Two declarations that differ at most in spans and bodies, before their guards
are checked. -/
structure RawDeclaration.Alike (raw other : RawDeclaration) : Prop where
  guard : raw.guard.Alike near placed other.guard
  newUnchecked_eq : raw.newUnchecked = other.newUnchecked
  defaultValue : Option.Rel (Spanned.Alike near Eq) raw.defaultValue other.defaultValue

/-- Bodies that are related for some place. -/
def Somewhere (body other : Text) : Prop := ∃ span, placed span body other

/-- Two declarations that differ at most in spans and bodies. -/
structure Declaration.Alike (declaration other : Declaration) : Prop where
  guard : declaration.guard.Alike bodies other.guard
  newUnchecked_eq : declaration.newUnchecked = other.newUnchecked
  defaultValue : Option.Rel (Spanned.Alike near Eq) declaration.defaultValue other.defaultValue

variable {near : Span → Span → Prop} {bodies : Text → Text → Prop}
  {placed : Span → Text → Text → Prop}

/-! ## Weaker relations between bodies -/

theorem optionRel_mono {α β : Type} {related related' : α → β → Prop} {value : Option α}
    {other : Option β} (alike : Option.Rel related value other)
    (weaker : ∀ value other, related value other → related' value other) :
    Option.Rel related' value other := by
  cases alike with
  | none => exact .none
  | some same => exact .some (weaker _ _ same)

section

variable {bodies' : Text → Text → Prop} (weaker : ∀ body other, bodies body other → bodies' body other)

include weaker

theorem BoundFunction.Alike.mono {function other : BoundFunction}
    (alike : function.Alike bodies other) : function.Alike bodies' other :=
  ⟨alike.form_eq, alike.path_eq, alike.param_eq, alike.inputType_eq, optionRel_mono alike.body weaker⟩

theorem Sanitizer.Alike.mono {κ : Type} {sanitizer other : Sanitizer κ}
    (alike : sanitizer.Alike bodies other) : sanitizer.Alike bodies' other :=
  ⟨alike.kind_eq, optionRel_mono alike.function fun _ _ same => same.mono weaker⟩

theorem StringValidator.Alike.mono {validator other : StringValidator}
    (alike : validator.Alike bodies other) : validator.Alike bodies' other :=
  ⟨alike.kind_eq, alike.length_eq, alike.pattern_eq,
    optionRel_mono alike.function fun _ _ same => same.mono weaker⟩

theorem NumericValidator.Alike.mono {α : Type} {validator other : NumericValidator α}
    (alike : validator.Alike bodies other) : validator.Alike bodies' other :=
  ⟨alike.kind_eq, alike.value_eq, optionRel_mono alike.function fun _ _ same => same.mono weaker⟩

end

theorem RawItems.Alike.mono {S V : Type} {sanitizer sanitizer' : Span → S → S → Prop}
    {validator validator' : Span → V → V → Prop} {items others : RawItems S V}
    (alike : items.Alike near sanitizer validator others)
    (sanitizers : ∀ span item other, sanitizer span item other → sanitizer' span item other)
    (validators : ∀ span item other, validator span item other → validator' span item other) :
    items.Alike near sanitizer' validator' others :=
  ⟨alike.sanitizers.imp fun _ _ same => ⟨sanitizers _ _ _ same.item, same.span⟩,
    alike.validators.imp fun _ _ same => ⟨validators _ _ _ same.item, same.span⟩⟩

section

variable {placed' : Span → Text → Text → Prop}
  (weaker : ∀ span body other, placed span body other → placed' span body other)

include weaker

theorem RawGuard.Alike.mono {guard other : RawGuard} (alike : guard.Alike near placed other) :
    guard.Alike near placed' other := by
  cases alike with
  | string items =>
      exact .string (items.mono (fun span _ _ => Sanitizer.Alike.mono (weaker span))
        fun span _ _ => StringValidator.Alike.mono (weaker span))
  | integer items =>
      exact .integer (items.mono (fun span _ _ => Sanitizer.Alike.mono (weaker span))
        fun span _ _ => NumericValidator.Alike.mono (weaker span))
  | float items =>
      exact .float (items.mono (fun span _ _ => Sanitizer.Alike.mono (weaker span))
        fun span _ _ => NumericValidator.Alike.mono (weaker span))

/-- Declarations that are alike stay so when more bodies are related. -/
theorem RawDeclaration.Alike.mono {raw other : RawDeclaration}
    (alike : raw.Alike near placed other) : raw.Alike near placed' other :=
  ⟨alike.guard.mono weaker, alike.newUnchecked_eq, alike.defaultValue⟩

end

/-! ## Equal bodies -/

section

variable (equal : ∀ body other, bodies body other → body = other)

include equal

theorem BoundFunction.Alike.eq {function other : BoundFunction}
    (alike : function.Alike bodies other) : function = other := by
  rcases function with ⟨form, path, param, body, inputType⟩
  rcases other with ⟨form', path', param', body', inputType'⟩
  rcases alike with ⟨rfl, rfl, rfl, rfl, same⟩
  cases same with
  | none => rfl
  | some same => rw [equal _ _ same]

/-- Functions that are alike or missing on both sides are equal. -/
theorem BoundFunction.Alike.option_eq {function other : Option BoundFunction}
    (alike : Option.Rel (BoundFunction.Alike bodies) function other) : function = other := by
  cases alike with
  | none => rfl
  | some same => rw [same.eq equal]

theorem Sanitizer.Alike.eq {κ : Type} {sanitizer other : Sanitizer κ}
    (alike : sanitizer.Alike bodies other) : sanitizer = other := by
  rcases sanitizer with ⟨kind, function⟩
  rcases other with ⟨kind', function'⟩
  rcases alike with ⟨rfl, same⟩
  cases BoundFunction.Alike.option_eq equal same
  rfl

theorem StringValidator.Alike.eq {validator other : StringValidator}
    (alike : validator.Alike bodies other) : validator = other := by
  rcases validator with ⟨kind, length, function, pattern⟩
  rcases other with ⟨kind', length', function', pattern'⟩
  rcases alike with ⟨rfl, rfl, rfl, same⟩
  cases BoundFunction.Alike.option_eq equal same
  rfl

theorem NumericValidator.Alike.eq {α : Type} {validator other : NumericValidator α}
    (alike : validator.Alike bodies other) : validator = other := by
  rcases validator with ⟨kind, value, function⟩
  rcases other with ⟨kind', value', function'⟩
  rcases alike with ⟨rfl, rfl, same⟩
  cases BoundFunction.Alike.option_eq equal same
  rfl

end

/-! ## Binding -/

/-- Alike references are bound alike. -/
theorem FunctionRef.Alike.bind {function other : FunctionRef}
    (alike : function.Alike near placed other) (expected : Text) :
    Outcome.Alike near (BoundFunction.Alike (placed function.span)) (function.bind expected)
      (other.bind expected) := by
  rcases function with ⟨form, path, param, paramType, body, span⟩
  rcases other with ⟨form', path', param', paramType', body', span'⟩
  rcases alike with ⟨rfl, rfl, rfl, rfl, same, close⟩
  unfold FunctionRef.bind
  dsimp only
  split
  · exact .ok ⟨rfl, rfl, rfl, rfl, same⟩
  · split
    · exact .ok ⟨rfl, rfl, rfl, rfl, same⟩
    · exact .error ⟨rfl, by simp⟩ close

/-! ## Checking -/

/-- Searches in related lists find related items. -/
theorem find?_rel {α β : Type} {related : α → β → Prop} {p : α → Bool} {q : β → Bool}
    {list : List α} {others : List β} (alike : List.Forall₂ related list others)
    (same : ∀ item other, related item other → p item = q other) :
    Option.Rel related (list.find? p) (others.find? q) := by
  induction alike with
  | nil => exact .none
  | @cons item other list others first _ ih =>
      rw [List.find?_cons, List.find?_cons, same item other first]
      cases q other with
      | true => exact .some first
      | false => exact ih

namespace Guard

variable {κ V : Type} [DecidableEq κ] [Keyword κ] {kind : V → κ}
  {validators others : List (Spanned V)}

/-- Validators of the same kinds are repeated alike. -/
theorem checkRepeated_alike
    (alike : List.Forall₂ (Spanned.Alike near fun item other => kind item = kind other)
      validators others) (seen : List κ) :
    Outcome.Alike near (fun _ _ => True) (checkRepeated kind seen validators)
      (checkRepeated kind seen others) := by
  induction alike generalizing seen with
  | nil => exact .ok trivial
  | @cons validator other validators others first _ ih =>
      rw [checkRepeated, checkRepeated, ← first.item]
      split
      · exact .error ⟨rfl, by simp⟩ first.span
      · exact ih _

omit [Keyword κ] in
theorem find?_alike {related : V → V → Prop}
    (alike : List.Forall₂ (Spanned.Alike near related) validators others)
    (same : ∀ item other, related item other → kind item = kind other) (wanted : κ) :
    Option.Rel (Spanned.Alike near related) (find? kind validators wanted)
      (find? kind others wanted) := by
  refine find?_rel alike ?_
  intro validator other first
  rw [same _ _ first.item]

/-- Validators of the same kinds exclude each other alike. -/
theorem checkExclusive_alike {nearness : Nearness} {related : V → V → Prop}
    (alike : List.Forall₂ (Spanned.Alike nearness.near related) validators others)
    (same : ∀ item other, related item other → kind item = kind other) (first second : κ) :
    Outcome.Alike nearness.near (fun _ _ => True) (checkExclusive kind validators first second)
      (checkExclusive kind others first second) := by
  have one := find?_alike alike same first
  have two := find?_alike alike same second
  unfold checkExclusive
  generalize find? kind validators first = a at one
  generalize find? kind others first = a' at one
  generalize find? kind validators second = b at two
  generalize find? kind others second = b' at two
  cases one with
  | none => exact .ok trivial
  | @some a a' one =>
      cases two with
      | none => exact .ok trivial
      | @some b b' two =>
          have later : ∀ a b : Spanned V,
              (if b.span.start < a.span.start then a else b).span = a.span.later b.span := by
            intro a b
            unfold Span.later
            split <;> rfl
          dsimp only
          rw [later, later]
          exact .error ⟨rfl, by simp⟩ (nearness.near_later one.span two.span)

end Guard

/-! ### Numbers -/

namespace Guard

variable {α : Type} {nearness : Nearness} {validators others : List (Spanned (NumericValidator α))}

theorem findBound?_alike
    (alike : List.Forall₂ (Spanned.Alike near (NumericValidator.Alike bodies)) validators others)
    (condition : NumericValidatorKind → Bool) :
    Option.Rel (Spanned.Alike near Eq) (findBound? condition validators)
      (findBound? condition others) := by
  have found : Option.Rel (Spanned.Alike near (NumericValidator.Alike bodies))
      (validators.find? fun validator => condition validator.item.kind)
      (others.find? fun validator => condition validator.item.kind) := by
    refine find?_rel alike ?_
    intro validator other first
    rw [first.item.kind_eq]
  unfold findBound?
  generalize validators.find? _ = validator at found
  generalize others.find? _ = other at found
  cases found with
  | none => exact .none
  | @some validator other first =>
      rw [Option.bind_some, Option.bind_some, ← first.item.kind_eq, ← first.item.value_eq]
      cases validator.item.value with
      | none => exact .none
      | some value => exact .some ⟨rfl, first.span⟩

/-- Alike validators of numbers are checked alike. -/
theorem checkNumeric_alike [Quantity α] (isEmpty : Limit α → Limit α → Bool)
    (alike : List.Forall₂ (Spanned.Alike nearness.near (NumericValidator.Alike bodies))
      validators others) :
    Outcome.Alike nearness.near (fun _ _ => True) (checkNumeric isEmpty validators)
      (checkNumeric isEmpty others) := by
  have kinds : ∀ item other, NumericValidator.Alike bodies item other →
      (item : NumericValidator α).kind = other.kind := fun _ _ same => same.kind_eq
  have sameKinds := alike.imp fun _ _ same => (⟨same.item.kind_eq, same.span⟩ :
    Spanned.Alike nearness.near (fun item other => item.kind = other.kind) _ _)
  unfold checkNumeric
  apply Outcome.Alike.bind (checkRepeated_alike sameKinds [])
  intro _ _ _
  apply Outcome.Alike.bind (checkExclusive_alike alike kinds .greater .greaterOrEqual)
  intro _ _ _
  apply Outcome.Alike.bind (checkExclusive_alike alike kinds .less .lessOrEqual)
  intro _ _ _
  have lower := findBound?_alike alike (·.isLower)
  have upper := findBound?_alike alike (·.isUpper)
  generalize findBound? _ validators = a at lower
  generalize findBound? _ others = a' at lower
  generalize findBound? _ validators = b at upper
  generalize findBound? _ others = b' at upper
  cases lower with
  | none => exact .ok trivial
  | @some a a' lower =>
      cases upper with
      | none => exact .ok trivial
      | @some b b' upper =>
          dsimp only
          rw [← lower.item, ← upper.item]
          split
          · exact .error ⟨rfl, by simp⟩ (nearness.near_join lower.span upper.span)
          · exact .ok trivial

end Guard

/-! ### Strings -/

namespace Guard

variable {nearness : Nearness} {validators others : List (Spanned StringValidator)}

theorem findLength?_alike
    (alike : List.Forall₂ (Spanned.Alike near (StringValidator.Alike bodies)) validators others)
    (kind : StringValidatorKind) :
    Option.Rel (Spanned.Alike near Eq) (findLength? validators kind) (findLength? others kind) := by
  have found := find?_alike alike (fun _ _ same => same.kind_eq) kind
  unfold findLength?
  generalize find? _ validators kind = validator at found
  generalize find? _ others kind = other at found
  cases found with
  | none => exact .none
  | @some validator other first =>
      rw [Option.bind_some, Option.bind_some, ← first.item.length_eq]
      cases validator.item.length with
      | none => exact .none
      | some value => exact .some ⟨rfl, first.span⟩

/-- Alike validators of strings are checked alike. -/
theorem checkStrings_alike
    (alike : List.Forall₂ (Spanned.Alike nearness.near (StringValidator.Alike bodies))
      validators others) :
    Outcome.Alike nearness.near (fun _ _ => True) (checkStrings validators)
      (checkStrings others) := by
  have sameKinds := alike.imp fun _ _ same => (⟨same.item.kind_eq, same.span⟩ :
    Spanned.Alike nearness.near (fun item other => item.kind = other.kind) _ _)
  unfold checkStrings
  apply Outcome.Alike.bind (checkRepeated_alike sameKinds [])
  intro _ _ _
  have least := findLength?_alike alike .minLen
  have most := findLength?_alike alike .maxLen
  generalize findLength? validators .minLen = a at least
  generalize findLength? others .minLen = a' at least
  generalize findLength? validators .maxLen = b at most
  generalize findLength? others .maxLen = b' at most
  cases least with
  | none => exact .ok trivial
  | @some a a' least =>
      cases most with
      | none => exact .ok trivial
      | @some b b' most =>
          dsimp only
          rw [← least.item, ← most.item]
          split
          · exact .error ⟨rfl, by simp⟩ (nearness.near_join least.span most.span)
          · exact .ok trivial

end Guard

/-! ### Whole guards -/

/-- Lists stay related when their spans are left out, if where items stand does not
matter. -/
theorem RawItems.Alike.items {S V : Type} {sanitizer : S → S → Prop} {validator : V → V → Prop}
    {raw other : RawItems S V}
    (alike : raw.Alike near (fun _ => sanitizer) (fun _ => validator) other) :
    raw.items.Alike sanitizer validator other.items := by
  constructor
  · exact List.forall₂_map_left_iff.2 (List.forall₂_map_right_iff.2
      (alike.sanitizers.imp fun _ _ same => same.item))
  · exact List.forall₂_map_left_iff.2 (List.forall₂_map_right_iff.2
      (alike.validators.imp fun _ _ same => same.item))

namespace RawGuard

/-- A guard for strings is accepted if its validators are. -/
theorem check_string (items : RawItems StringSanitizer StringValidator) :
    (string items).check.2 =
      (Guard.checkStrings items.validators).map fun _ => .string items.items := by
  unfold check
  cases outcome : Guard.checkStrings items.validators <;> simp only [outcome] <;> rfl

/-- A guard for integers is accepted if its validators are. -/
theorem check_integer (type : IntegerType)
    (items : RawItems NumericSanitizer (NumericValidator Int)) :
    (integer type items).check.2 =
      (Guard.checkNumeric Limit.emptyDiscrete items.validators).map fun _ =>
        .integer type items.items := by
  unfold check
  cases outcome : Guard.checkNumeric Limit.emptyDiscrete items.validators <;>
    simp only [outcome] <;> rfl

/-- A guard for floating point numbers is accepted if its validators are. -/
theorem check_float (type : FloatType)
    (items : RawItems NumericSanitizer (NumericValidator Binary64)) :
    (float type items).check.2 =
      (Guard.checkNumeric Limit.emptyDense items.validators).map fun _ =>
        .float type items.items := by
  unfold check
  cases outcome : Guard.checkNumeric Limit.emptyDense items.validators <;>
    simp only [outcome] <;> rfl

/-- Alike guards are both accepted, or both refused for the same cause. -/
theorem Alike.check {nearness : Nearness} {raw other : RawGuard}
    (alike : raw.Alike nearness.near placed other) :
    Outcome.Alike nearness.near (Guard.Alike (Somewhere placed)) raw.check.2 other.check.2 := by
  have somewhere : raw.Alike nearness.near (fun _ => Somewhere placed) other :=
    alike.mono fun span _ _ same => ⟨span, same⟩
  cases somewhere with
  | string items =>
      rw [check_string, check_string]
      exact (Guard.checkStrings_alike items.validators).map fun _ _ _ => .string items.items
  | integer items =>
      rw [check_integer, check_integer]
      exact (Guard.checkNumeric_alike _ items.validators).map fun _ _ _ => .integer items.items
  | float items =>
      rw [check_float, check_float]
      exact (Guard.checkNumeric_alike _ items.validators).map fun _ _ _ => .float items.items

end RawGuard

/-- Alike declarations are both accepted, or both refused for the same cause. -/
theorem RawDeclaration.Alike.check {nearness : Nearness} {raw other : RawDeclaration}
    (alike : raw.Alike nearness.near placed other) :
    Outcome.Alike nearness.near (Declaration.Alike nearness.near (Somewhere placed)) raw.check.2
      other.check.2 := by
  refine alike.guard.check.map ?_
  intro guard guard' same
  exact ⟨same, alike.newUnchecked_eq, alike.defaultValue⟩

/-! ### Guards at other places -/

theorem optionRel_self {α : Type} {related : α → α → Prop} (refl : ∀ value, related value value)
    (value : Option α) : Option.Rel related value value := by
  cases value with
  | none => exact .none
  | some value => exact .some (refl value)

theorem BoundFunction.Alike.refl (function : BoundFunction) : function.Alike Eq function :=
  ⟨rfl, rfl, rfl, rfl, optionRel_self (fun _ => rfl) _⟩

/-- Equal items at any places are alike. -/
theorem forall₂_alike_of_map_item_eq {α : Type} {related : α → α → Prop}
    (refl : ∀ item, related item item) {values others : List (Spanned α)}
    (same : values.map (·.item) = others.map (·.item)) :
    List.Forall₂ (Spanned.Alike Nearness.anywhere.near related) values others := by
  rw [← List.forall₂_eq_eq_eq, List.forall₂_map_left_iff, List.forall₂_map_right_iff] at same
  apply same.imp
  intro value other same
  exact ⟨same ▸ refl value.item, trivial⟩

namespace Guard

/-- Whether validators of strings pass does not depend on their places. -/
theorem checkStrings_of_map_item_eq {validators others : List (Spanned StringValidator)}
    (same : validators.map (·.item) = others.map (·.item))
    (passed : checkStrings validators = .ok ()) : checkStrings others = .ok () := by
  have refl : ∀ item : StringValidator, item.Alike Eq item :=
    fun item => ⟨rfl, rfl, rfl, optionRel_self BoundFunction.Alike.refl _⟩
  have alike := checkStrings_alike (forall₂_alike_of_map_item_eq refl same)
  rcases alike.exists_ok (by rw [passed]; rfl) with ⟨_, _, _, same, _⟩
  exact same

/-- Whether validators of numbers pass does not depend on their places. -/
theorem checkNumeric_of_map_item_eq {α : Type} [Quantity α] {isEmpty : Limit α → Limit α → Bool}
    {validators others : List (Spanned (NumericValidator α))}
    (same : validators.map (·.item) = others.map (·.item))
    (passed : checkNumeric isEmpty validators = .ok ()) :
    checkNumeric isEmpty others = .ok () := by
  have refl : ∀ item : NumericValidator α, item.Alike Eq item :=
    fun item => ⟨rfl, rfl, optionRel_self BoundFunction.Alike.refl _⟩
  have alike := checkNumeric_alike isEmpty (forall₂_alike_of_map_item_eq refl same)
  rcases alike.exists_ok (by rw [passed]; rfl) with ⟨_, _, _, same, _⟩
  exact same

end Guard

end GuardLang

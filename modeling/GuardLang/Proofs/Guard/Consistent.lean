import GuardLang.Guard.Check
import Mathlib.Data.List.Nodup
import Mathlib.Order.Basic

/-!
# What a check accepts

The checks of a guard, said without the order in which they are made.  Validators
pass if no kind is repeated, no direction is bounded both with and without the
bound itself, and the two bounds that are left have a number between them.

Main statements: `checkNumeric_eq_ok_iff` and `checkStrings_eq_ok_iff`, and for
integers `exists_between`: what a check accepts, some number passes.
-/

namespace GuardLang

/-! ## Numbers between bounds -/

/-- What a validator of a kind asks of a number, if it is given a bound. -/
def NumericValidatorKind.Holds (kind : NumericValidatorKind) (bound number : Int) : Prop :=
  match kind with
  | greater => bound < number
  | greaterOrEqual => bound ≤ number
  | less => number < bound
  | lessOrEqual => number ≤ bound
  | custom | finite => True

namespace NumericValidatorKind

variable {kind : NumericValidatorKind} {bound number : Int}

/-- What is no bound asks nothing of a number. -/
theorem holds_of_not_bound (isLower : kind.isLower = false) (isUpper : kind.isUpper = false) :
    kind.Holds bound number := by
  cases kind with
  | greater | greaterOrEqual => cases isLower
  | less | lessOrEqual => cases isUpper
  | custom | finite => trivial

theorem le_of_isLower (isLower : kind.isLower = true) (holds : kind.Holds bound number) :
    bound ≤ number := by
  cases kind with
  | greater => exact Int.le_of_lt holds
  | greaterOrEqual => exact holds
  | less | lessOrEqual | custom | finite => cases isLower

theorem le_of_isUpper (isUpper : kind.isUpper = true) (holds : kind.Holds bound number) :
    number ≤ bound := by
  cases kind with
  | less => exact Int.le_of_lt holds
  | lessOrEqual => exact holds
  | greater | greaterOrEqual | custom | finite => cases isUpper

end NumericValidatorKind

/-- A number passes a validator, as far as its bound is concerned. -/
def NumericValidator.Admits (validator : NumericValidator Int) (number : Int) : Prop :=
  ∀ bound ∈ validator.value, validator.kind.Holds bound number

/-- Two bounds are found to cross exactly if no integer lies between them. -/
theorem Limit.emptyDiscrete_eq_false_iff {lower upper : NumericValidatorKind} {low high : Int}
    (isLower : lower.isLower = true) (isUpper : upper.isUpper = true) :
    Limit.emptyDiscrete ⟨low, lower.isStrict⟩ ⟨high, upper.isStrict⟩ = false ↔
      ∃ number, lower.Holds low number ∧ upper.Holds high number := by
  have found : ∀ {first last : Int}, (decide (last < first) = false) ↔
      ∃ number, first ≤ number ∧ number ≤ last := by
    intro first last
    rw [decide_eq_false_iff_not, Int.not_lt]
    constructor
    · intro reaches
      exact ⟨first, Int.le_refl first, reaches⟩
    · rintro ⟨number, above, below⟩
      exact Int.le_trans above below
  cases lower <;> cases isLower <;> cases upper <;> cases isUpper <;>
    simp only [emptyDiscrete, Quantity.lt, Quantity.addInt, NumericValidatorKind.isStrict,
      NumericValidatorKind.Holds, if_true, Bool.false_eq_true, if_false, found,
      Int.add_one_le_iff, ← Int.sub_eq_add_neg, Int.le_sub_one_iff]

namespace Guard

/-! ## Checks for all families -/

section

variable {κ V : Type} {kind : V → κ} {validators : List (Spanned V)}

/-- The kinds of validators, in their order. -/
def kinds (kind : V → κ) (validators : List (Spanned V)) : List κ :=
  validators.map fun validator => kind validator.item

theorem kind_mem_kinds {validator : Spanned V} (member : validator ∈ validators) :
    kind validator.item ∈ kinds kind validators :=
  List.mem_map_of_mem member

/-- Where no kind is repeated, a validator is known by its kind. -/
theorem eq_of_kind_eq (distinct : (kinds kind validators).Nodup) {one two : Spanned V}
    (member : one ∈ validators) (member' : two ∈ validators)
    (same : kind one.item = kind two.item) : one = two :=
  List.inj_on_of_nodup_map distinct member member' same

variable [DecidableEq κ]

theorem find?_eq_none_iff {wanted : κ} :
    find? kind validators wanted = none ↔ wanted ∉ kinds kind validators := by
  simp [find?, kinds, List.find?_eq_none]

/-- Where no kind is repeated, what is found by its kind is what has that kind. -/
theorem find?_eq_some_iff (distinct : (kinds kind validators).Nodup) {wanted : κ}
    {validator : Spanned V} :
    find? kind validators wanted = some validator ↔
      validator ∈ validators ∧ kind validator.item = wanted := by
  constructor
  · intro found
    exact ⟨List.mem_of_find?_eq_some found, by simpa using List.find?_some found⟩
  · rintro ⟨member, rfl⟩
    cases found : find? kind validators (kind validator.item) with
    | none => exact absurd (kind_mem_kinds member) (find?_eq_none_iff.1 found)
    | some first =>
        have same : kind first.item = kind validator.item := by
          simpa using List.find?_some found
        rw [eq_of_kind_eq distinct (List.mem_of_find?_eq_some found) member same]

variable [Keyword κ]

/-- Nothing is repeated exactly if all kinds differ from each other and from those
seen before. -/
theorem checkRepeated_eq_ok_iff {seen : List κ} :
    checkRepeated kind seen validators = .ok () ↔
      (kinds kind validators).Nodup ∧ ∀ found ∈ kinds kind validators, found ∉ seen := by
  induction validators generalizing seen with
  | nil => simp [checkRepeated, kinds]
  | cons validator validators ih =>
      rw [checkRepeated, kinds, List.map_cons, List.nodup_cons]
      split
      · rename_i repeated
        simp [repeated]
      · rename_i fresh
        rw [ih]
        constructor
        · rintro ⟨distinct, unseen⟩
          constructor
          · exact ⟨fun member => unseen _ member List.mem_cons_self, distinct⟩
          · intro found member
            rcases List.mem_cons.1 member with rfl | member
            · exact fresh
            · exact fun before => unseen found member (List.mem_cons_of_mem _ before)
        · rintro ⟨⟨absent, distinct⟩, unseen⟩
          constructor
          · exact distinct
          · intro found member before
            rcases List.mem_cons.1 before with rfl | before
            · exact absent member
            · exact unseen found (List.mem_cons_of_mem _ member) before

/-- Two kinds exclude each other exactly if both occur. -/
theorem checkExclusive_eq_ok_iff {first second : κ} :
    checkExclusive kind validators first second = .ok () ↔
      ¬ (first ∈ kinds kind validators ∧ second ∈ kinds kind validators) := by
  rw [checkExclusive]
  cases one : find? kind validators first with
  | none => simp [find?_eq_none_iff.1 one]
  | some a =>
      cases two : find? kind validators second with
      | none => simp [find?_eq_none_iff.1 two]
      | some b =>
          have present : first ∈ kinds kind validators := by
            simpa [one] using (not_congr (@find?_eq_none_iff _ _ kind validators _ first)).1
          have present' : second ∈ kinds kind validators := by
            simpa [two] using (not_congr (@find?_eq_none_iff _ _ kind validators _ second)).1
          simp [present, present']

end

/-! ## Numbers -/

section

variable {α : Type} {validators : List (Spanned (NumericValidator α))}

/-- At most one validator has a kind for which the condition holds. -/
def Single (condition : NumericValidatorKind → Bool)
    (validators : List (Spanned (NumericValidator α))) : Prop :=
  ∀ one ∈ validators, ∀ two ∈ validators, condition one.item.kind = true →
    condition two.item.kind = true → one = two

/-- The single bound in a direction is the one that is found. -/
theorem Single.findBound?_eq_some_iff {condition : NumericValidatorKind → Bool}
    (single : Single condition validators) {bound : Spanned (NumericValidatorKind × α)} :
    findBound? condition validators = some bound ↔
      ∃ validator ∈ validators, condition validator.item.kind = true ∧
        ∃ value ∈ validator.item.value, bound = ⟨(validator.item.kind, value), validator.span⟩ := by
  simp only [findBound?, Option.bind_eq_some_iff, Option.map_eq_some_iff]
  constructor
  · rintro ⟨validator, found, value, given, rfl⟩
    have holds := List.find?_some found
    exact ⟨validator, List.mem_of_find?_eq_some found, holds, value, given, rfl⟩
  · rintro ⟨validator, member, holds, value, given, rfl⟩
    cases found : validators.find? fun validator => condition validator.item.kind with
    | none => exact absurd holds (List.find?_eq_none.1 found validator member)
    | some first =>
        have first_holds := List.find?_some found
        have same : first = validator :=
          single first (List.mem_of_find?_eq_some found) validator member first_holds holds
        exact ⟨first, rfl, value, by rw [same]; exact given, by rw [same]⟩

theorem findBound?_condition {condition : NumericValidatorKind → Bool}
    {bound : Spanned (NumericValidatorKind × α)}
    (found : findBound? condition validators = some bound) : condition bound.item.1 = true := by
  simp only [findBound?, Option.bind_eq_some_iff, Option.map_eq_some_iff] at found
  obtain ⟨validator, first, value, _, rfl⟩ := found
  simpa using List.find?_some first

/-- No kind is repeated, and in no direction is there a bound with and one without
itself. -/
structure NumericConsistent (kinds : List NumericValidatorKind) : Prop where
  distinct : kinds.Nodup
  lower : ¬ (.greater ∈ kinds ∧ .greaterOrEqual ∈ kinds)
  upper : ¬ (.less ∈ kinds ∧ .lessOrEqual ∈ kinds)

/-- Two kinds that exclude each other are one at most. -/
theorem single_of_exclusive {condition : NumericValidatorKind → Bool}
    {first second : NumericValidatorKind} (distinct : (kinds (·.kind) validators).Nodup)
    (exclusive : ¬ (first ∈ kinds (·.kind) validators ∧ second ∈ kinds (·.kind) validators))
    (condition_iff : ∀ kind, condition kind = true ↔ kind = first ∨ kind = second) :
    Single condition validators := by
  intro one member two member' holds holds'
  apply eq_of_kind_eq distinct member member'
  have listed : one.item.kind ∈ kinds (·.kind) validators := kind_mem_kinds member
  have listed' : two.item.kind ∈ kinds (·.kind) validators := kind_mem_kinds member'
  rcases (condition_iff _).1 holds with one_eq | one_eq <;>
    rcases (condition_iff _).1 holds' with two_eq | two_eq <;>
    rw [one_eq] at listed ⊢ <;> rw [two_eq] at listed' ⊢
  · exact absurd ⟨listed, listed'⟩ exclusive
  · exact absurd ⟨listed', listed⟩ exclusive

namespace NumericConsistent

/-- Consistent validators bound numbers from below at most once. -/
theorem single_isLower (consistent : NumericConsistent (kinds (·.kind) validators)) :
    Single (·.isLower) validators :=
  single_of_exclusive consistent.distinct consistent.lower (by rintro (_ | _) <;> decide)

/-- Consistent validators bound numbers from above at most once. -/
theorem single_isUpper (consistent : NumericConsistent (kinds (·.kind) validators)) :
    Single (·.isUpper) validators :=
  single_of_exclusive consistent.distinct consistent.upper (by rintro (_ | _) <;> decide)

end NumericConsistent

variable [Quantity α] {isEmpty : Limit α → Limit α → Bool}

/-- Validators of numbers are accepted exactly if they are consistent and the two
bounds that are found leave something. -/
theorem checkNumeric_eq_ok_iff :
    checkNumeric isEmpty validators = .ok () ↔
      NumericConsistent (kinds (·.kind) validators) ∧
      ∀ lower ∈ findBound? (·.isLower) validators, ∀ upper ∈ findBound? (·.isUpper) validators,
        isEmpty ⟨lower.item.2, lower.item.1.isStrict⟩
          ⟨upper.item.2, upper.item.1.isStrict⟩ = false := by
  have consistent : NumericConsistent (kinds (·.kind) validators) ↔
      checkRepeated (·.kind) [] validators = .ok () ∧
      checkExclusive (·.kind) validators .greater .greaterOrEqual = .ok () ∧
      checkExclusive (·.kind) validators .less .lessOrEqual = .ok () := by
    rw [checkRepeated_eq_ok_iff, checkExclusive_eq_ok_iff, checkExclusive_eq_ok_iff]
    constructor
    · intro ⟨distinct, lower, upper⟩
      exact ⟨⟨distinct, fun _ _ => List.not_mem_nil⟩, lower, upper⟩
    · rintro ⟨⟨distinct, _⟩, lower, upper⟩
      exact ⟨distinct, lower, upper⟩
  rw [consistent, checkNumeric]
  cases checkRepeated (·.kind) [] validators with
  | error fault => simp [bind, Except.bind]
  | ok =>
    cases checkExclusive (·.kind) validators .greater .greaterOrEqual with
    | error fault => simp [bind, Except.bind]
    | ok =>
      cases checkExclusive (·.kind) validators .less .lessOrEqual with
      | error fault => simp [bind, Except.bind]
      | ok =>
        cases findBound? (·.isLower) validators <;> cases findBound? (·.isUpper) validators <;>
          simp [bind, Except.bind]

end

/-! ## Integers -/

section

variable {validators : List (Spanned (NumericValidator Int))}

/-- A number passes consistent validators exactly if it passes the two bounds that
are found. -/
theorem NumericConsistent.admits_iff
    (consistent : NumericConsistent (kinds (·.kind) validators)) {number : Int} :
    (∀ validator ∈ validators, validator.item.Admits number) ↔
      (∀ lower ∈ findBound? (·.isLower) validators, lower.item.1.Holds lower.item.2 number) ∧
      ∀ upper ∈ findBound? (·.isUpper) validators, upper.item.1.Holds upper.item.2 number := by
  constructor
  · intro admitted
    constructor
    · intro lower found
      obtain ⟨validator, member, _, value, given, rfl⟩ :=
        consistent.single_isLower.findBound?_eq_some_iff.1 found
      exact admitted validator member value given
    · intro upper found
      obtain ⟨validator, member, _, value, given, rfl⟩ :=
        consistent.single_isUpper.findBound?_eq_some_iff.1 found
      exact admitted validator member value given
  · rintro ⟨above, below⟩ validator member value given
    cases isLower : validator.item.kind.isLower with
    | true =>
        exact above ⟨(validator.item.kind, value), validator.span⟩
          (consistent.single_isLower.findBound?_eq_some_iff.2
            ⟨validator, member, isLower, value, given, rfl⟩)
    | false =>
        cases isUpper : validator.item.kind.isUpper with
        | true =>
            exact below ⟨(validator.item.kind, value), validator.span⟩
              (consistent.single_isUpper.findBound?_eq_some_iff.2
                ⟨validator, member, isUpper, value, given, rfl⟩)
        | false => exact NumericValidatorKind.holds_of_not_bound isLower isUpper

/-- Between two bounds that are accepted there is an integer, and it passes all
validators. -/
theorem exists_between (accepted : checkNumeric Limit.emptyDiscrete validators = .ok ())
    {lower upper : Spanned (NumericValidatorKind × Int)}
    (findLower : findBound? (·.isLower) validators = some lower)
    (findUpper : findBound? (·.isUpper) validators = some upper) :
    ∃ number, ∀ validator ∈ validators, validator.item.Admits number := by
  obtain ⟨consistent, leaves⟩ := checkNumeric_eq_ok_iff.1 accepted
  obtain ⟨number, above, below⟩ :=
    (Limit.emptyDiscrete_eq_false_iff (findBound?_condition findLower)
      (findBound?_condition findUpper)).1 (leaves lower findLower upper findUpper)
  use number
  rw [consistent.admits_iff, findLower, findUpper]
  constructor
  · rintro _ ⟨⟩
    exact above
  · rintro _ ⟨⟩
    exact below

end

/-! ## Strings -/

section

variable {validators : List (Spanned StringValidator)}

/-- Where no kind is repeated, the length of a kind is the one that is found. -/
theorem findLength?_eq_some_iff (distinct : (kinds (·.kind) validators).Nodup)
    {kind : StringValidatorKind} {length : Spanned Int} :
    findLength? validators kind = some length ↔
      ∃ validator ∈ validators, validator.item.kind = kind ∧
        ∃ value ∈ validator.item.length, length = ⟨value, validator.span⟩ := by
  simp only [findLength?, Option.bind_eq_some_iff, Option.map_eq_some_iff,
    find?_eq_some_iff distinct]
  constructor
  · rintro ⟨validator, ⟨member, same⟩, value, given, rfl⟩
    exact ⟨validator, member, same, value, given, rfl⟩
  · rintro ⟨validator, member, same, value, given, rfl⟩
    exact ⟨validator, ⟨member, same⟩, value, given, rfl⟩

/-- Validators of strings are accepted exactly if no kind is repeated and the least
length that is found does not exceed the greatest. -/
theorem checkStrings_eq_ok_iff :
    checkStrings validators = .ok () ↔
      (kinds (·.kind) validators).Nodup ∧
      ∀ least ∈ findLength? validators .minLen, ∀ most ∈ findLength? validators .maxLen,
        least.item ≤ most.item := by
  have distinct : (kinds (·.kind) validators).Nodup ↔
      checkRepeated (·.kind) [] validators = .ok () := by
    simp [checkRepeated_eq_ok_iff]
  rw [distinct, checkStrings]
  cases checkRepeated (·.kind) [] validators with
  | error fault => simp [bind, Except.bind]
  | ok =>
    cases findLength? validators .minLen <;> cases findLength? validators .maxLen <;>
      simp [bind, Except.bind]

end

end Guard

end GuardLang

import GuardLang.Proofs.Guard.Alike
import GuardLang.Proofs.Guard.Consistent

/-!
# The verdict of a check

The rules by which validators are judged, one constructor for each verdict, and
without the searches that find it.  Later rules ask that earlier ones did not
apply, so at most one verdict is right, and one always is: a check gives exactly
the verdict of the rules (`checkNumeric_eq_iff` and `StringVerdict.map_checkStrings`).

Main statement: `check_eq_verdict`, for whole guards of integers and strings.
-/

namespace GuardLang

namespace Guard

/-! ## Repeated kinds -/

section

variable {κ V : Type} {kind : V → κ} {validators : List (Spanned V)}

/-- The validator is the first one whose kind occurs before it. -/
def FirstRepeated (kind : V → κ) (validators : List (Spanned V)) (validator : Spanned V) : Prop :=
  ∃ before after, validators = before ++ validator :: after ∧ (kinds kind before).Nodup ∧
    kind validator.item ∈ kinds kind before

theorem FirstRepeated.not_nodup {validator : Spanned V}
    (repeated : FirstRepeated kind validators validator) : ¬ (kinds kind validators).Nodup := by
  rcases repeated with ⟨before, after, rfl, _, member⟩
  intro distinct
  rw [kinds, List.map_append, List.map_cons] at distinct
  exact (List.nodup_append.1 distinct).2.2 _ member _ List.mem_cons_self rfl

/-- Where a kind is repeated, there is a first validator that repeats one. -/
theorem exists_firstRepeated (repeats : ¬ (kinds kind validators).Nodup) :
    ∃ validator, FirstRepeated kind validators validator := by
  induction validators using List.reverseRecOn with
  | nil => exact absurd List.nodup_nil repeats
  | append_singleton front last ih =>
      by_cases distinct : (kinds kind front).Nodup
      · refine ⟨last, front, [], rfl, distinct, ?_⟩
        by_contra fresh
        apply repeats
        rw [kinds, List.map_append, List.map_singleton, List.nodup_append]
        refine ⟨distinct, List.nodup_singleton _, ?_⟩
        rintro found member _ (_ | ⟨_, ⟨⟩⟩) rfl
        exact fresh member
      · rcases ih distinct with ⟨validator, before, after, rfl, fresh, member⟩
        exact ⟨validator, before, after ++ [last], by simp, fresh, member⟩

variable [DecidableEq κ] [Keyword κ]

/-- The scan stops at the first validator whose kind has been seen or occurs before
it. -/
theorem checkRepeated_append {before after : List (Spanned V)} {validator : Spanned V}
    {seen : List κ} (distinct : (kinds kind before).Nodup)
    (unseen : ∀ found ∈ kinds kind before, found ∉ seen)
    (again : kind validator.item ∈ seen ∨ kind validator.item ∈ kinds kind before) :
    checkRepeated kind seen (before ++ validator :: after) =
      .error (.located (.repeatedValidator (Keyword.name (kind validator.item)))
        validator.span) := by
  induction before generalizing seen with
  | nil =>
      rw [List.nil_append, checkRepeated, if_pos (again.resolve_right List.not_mem_nil)]
  | cons first before ih =>
      rw [kinds, List.map_cons, List.nodup_cons] at distinct
      have fresh : kind first.item ∉ seen := unseen _ List.mem_cons_self
      rw [List.cons_append, checkRepeated, if_neg fresh]
      apply ih distinct.2
      · intro found member behind
        rcases List.mem_cons.1 behind with rfl | behind
        · exact distinct.1 member
        · exact unseen found (List.mem_cons_of_mem _ member) behind
      · rcases again with again | again
        · exact .inl (List.mem_cons_of_mem _ again)
        · rcases List.mem_cons.1 again with same | again
          · exact .inl (same ▸ List.mem_cons_self)
          · exact .inr again

theorem FirstRepeated.checkRepeated_eq {validator : Spanned V}
    (repeated : FirstRepeated kind validators validator) :
    checkRepeated kind [] validators =
      .error (.located (.repeatedValidator (Keyword.name (kind validator.item)))
        validator.span) := by
  rcases repeated with ⟨before, after, rfl, distinct, member⟩
  exact checkRepeated_append distinct (by simp) (.inr member)

theorem checkRepeated_of_nodup (distinct : (kinds kind validators).Nodup) :
    checkRepeated kind [] validators = .ok () :=
  checkRepeated_eq_ok_iff.2 ⟨distinct, fun _ _ => List.not_mem_nil⟩

/-- Where no kind is repeated, two kinds that exclude each other are refused at the
one that starts later. -/
theorem checkExclusive_of_mem (distinct : (kinds kind validators).Nodup) {a b : Spanned V}
    (member : a ∈ validators) (member' : b ∈ validators) :
    checkExclusive kind validators (kind a.item) (kind b.item) =
      .error (.located (.exclusiveValidators (Keyword.name (kind a.item))
        (Keyword.name (kind b.item))) (a.span.later b.span)) := by
  rw [checkExclusive, (find?_eq_some_iff distinct).2 ⟨member, rfl⟩,
    (find?_eq_some_iff distinct).2 ⟨member', rfl⟩, Span.later]
  dsimp only
  split <;> rfl

end

/-! ## Numbers -/

section

variable {α β : Type} [Quantity α]

/-- The verdict on validators of numbers, where `leaves` tells whether a lower and an
upper bound have a number between them and `guard` is what is built of validators
that pass. -/
inductive NumericVerdict
    (leaves : NumericValidatorKind × α → NumericValidatorKind × α → Prop)
    (validators : List (Spanned (NumericValidator α))) (guard : β) : Except Fault β → Prop
  /-- A kind is repeated. -/
  | repeated {validator : Spanned (NumericValidator α)} :
      FirstRepeated (·.kind) validators validator →
      NumericVerdict leaves validators guard
        (.error (.located (.repeatedValidator (Keyword.name validator.item.kind)) validator.span))
  /-- No kind is repeated, but numbers are bounded from below twice. -/
  | exclusiveLower {strict inclusive : Spanned (NumericValidator α)} :
      (kinds (·.kind) validators).Nodup → strict ∈ validators → strict.item.kind = .greater →
      inclusive ∈ validators → inclusive.item.kind = .greaterOrEqual →
      NumericVerdict leaves validators guard
        (.error (.located (.exclusiveValidators "greater" "greater_or_equal")
          (strict.span.later inclusive.span)))
  /-- None of this holds, but numbers are bounded from above twice. -/
  | exclusiveUpper {strict inclusive : Spanned (NumericValidator α)} :
      (kinds (·.kind) validators).Nodup →
      ¬ (.greater ∈ kinds (·.kind) validators ∧ .greaterOrEqual ∈ kinds (·.kind) validators) →
      strict ∈ validators → strict.item.kind = .less →
      inclusive ∈ validators → inclusive.item.kind = .lessOrEqual →
      NumericVerdict leaves validators guard
        (.error (.located (.exclusiveValidators "less" "less_or_equal")
          (strict.span.later inclusive.span)))
  /-- None of this holds, but the two bounds have no number between them. -/
  | emptyRange {lower upper : Spanned (NumericValidator α)} {low high : α} :
      NumericConsistent (kinds (·.kind) validators) →
      lower ∈ validators → lower.item.kind.isLower = true → lower.item.value = some low →
      upper ∈ validators → upper.item.kind.isUpper = true → upper.item.value = some high →
      ¬ leaves (lower.item.kind, low) (upper.item.kind, high) →
      NumericVerdict leaves validators guard
        (.error (.located (.emptyRange (writtenBound (lower.item.kind, low))
          (writtenBound (upper.item.kind, high))) (lower.span.join upper.span)))
  /-- None of this holds. -/
  | accepted : NumericConsistent (kinds (·.kind) validators) →
      (∀ lower ∈ validators, ∀ upper ∈ validators, lower.item.kind.isLower = true →
        upper.item.kind.isUpper = true → ∀ low ∈ lower.item.value, ∀ high ∈ upper.item.value,
        leaves (lower.item.kind, low) (upper.item.kind, high)) →
      NumericVerdict leaves validators guard (.ok guard)

variable {leaves : NumericValidatorKind × α → NumericValidatorKind × α → Prop}
  {validators : List (Spanned (NumericValidator α))} {guard : β}

/-- The rules always give a verdict. -/
theorem exists_numericVerdict :
    ∃ outcome, NumericVerdict leaves validators guard outcome := by
  by_cases distinct : (kinds (·.kind) validators).Nodup
  swap
  · rcases exists_firstRepeated distinct with ⟨validator, repeated⟩
    exact ⟨_, .repeated repeated⟩
  by_cases lower : .greater ∈ kinds (·.kind) validators ∧
      .greaterOrEqual ∈ kinds (·.kind) validators
  · rcases List.mem_map.1 lower.1 with ⟨strict, member, isStrict⟩
    rcases List.mem_map.1 lower.2 with ⟨inclusive, member', isInclusive⟩
    exact ⟨_, .exclusiveLower distinct member isStrict member' isInclusive⟩
  by_cases upper : .less ∈ kinds (·.kind) validators ∧ .lessOrEqual ∈ kinds (·.kind) validators
  · rcases List.mem_map.1 upper.1 with ⟨strict, member, isStrict⟩
    rcases List.mem_map.1 upper.2 with ⟨inclusive, member', isInclusive⟩
    exact ⟨_, .exclusiveUpper distinct lower member isStrict member' isInclusive⟩
  by_cases meets : ∀ lower ∈ validators, ∀ upper ∈ validators, lower.item.kind.isLower = true →
      upper.item.kind.isUpper = true → ∀ low ∈ lower.item.value, ∀ high ∈ upper.item.value,
      leaves (lower.item.kind, low) (upper.item.kind, high)
  · exact ⟨_, .accepted ⟨distinct, lower, upper⟩ meets⟩
  · simp only [not_forall] at meets
    rcases meets with
      ⟨below, member, above, member', isLower, isUpper, low, given, high, given', crossed⟩
    exact ⟨_, .emptyRange ⟨distinct, lower, upper⟩ member isLower given member' isUpper given'
      crossed⟩

variable {isEmpty : Limit α → Limit α → Bool}

theorem FirstRepeated.checkNumeric_eq {validator : Spanned (NumericValidator α)}
    (repeated : FirstRepeated (·.kind) validators validator) :
    checkNumeric isEmpty validators =
      .error (.located (.repeatedValidator (Keyword.name validator.item.kind)) validator.span) := by
  rw [checkNumeric, repeated.checkRepeated_eq]
  rfl

/-- Consistent validators are judged by the bounds that are found. -/
theorem checkNumeric_of_consistent (consistent : NumericConsistent (kinds (·.kind) validators)) :
    checkNumeric isEmpty validators =
      match findBound? (·.isLower) validators, findBound? (·.isUpper) validators with
      | some lower, some upper =>
        if isEmpty ⟨lower.item.2, lower.item.1.isStrict⟩ ⟨upper.item.2, upper.item.1.isStrict⟩ then
          .error (.located (.emptyRange (writtenBound lower.item) (writtenBound upper.item))
            (lower.span.join upper.span))
        else .ok ()
      | _, _ => .ok () := by
  rw [checkNumeric, checkRepeated_of_nodup consistent.distinct,
    checkExclusive_eq_ok_iff.2 consistent.lower, checkExclusive_eq_ok_iff.2 consistent.upper]
  rfl

/-- A check gives every verdict of the rules. -/
theorem NumericVerdict.map_checkNumeric {outcome : Except Fault β}
    (empty_iff : ∀ {lower upper : NumericValidatorKind × α}, lower.1.isLower = true →
      upper.1.isUpper = true →
      (isEmpty ⟨lower.2, lower.1.isStrict⟩ ⟨upper.2, upper.1.isStrict⟩ = false ↔
        leaves lower upper))
    (verdict : NumericVerdict leaves validators guard outcome) :
    (checkNumeric isEmpty validators).map (fun _ => guard) = outcome := by
  cases verdict with
  | repeated repeated =>
      rw [repeated.checkNumeric_eq]
      rfl
  | exclusiveLower distinct member isStrict member' isInclusive =>
      have refused := @checkExclusive_of_mem _ _ NumericValidator.kind _ _ _ distinct _ _ member
        member'
      rw [isStrict, isInclusive] at refused
      rw [checkNumeric, checkRepeated_of_nodup distinct, refused]
      rfl
  | exclusiveUpper distinct lower member isStrict member' isInclusive =>
      have refused := @checkExclusive_of_mem _ _ NumericValidator.kind _ _ _ distinct _ _ member
        member'
      rw [isStrict, isInclusive] at refused
      rw [checkNumeric, checkRepeated_of_nodup distinct, checkExclusive_eq_ok_iff.2 lower, refused]
      rfl
  | emptyRange consistent member isLower given member' isUpper given' crossed =>
      have findLower := consistent.single_isLower.findBound?_eq_some_iff.2
        ⟨_, member, isLower, _, given, rfl⟩
      have findUpper := consistent.single_isUpper.findBound?_eq_some_iff.2
        ⟨_, member', isUpper, _, given', rfl⟩
      have empty := mt (empty_iff isLower isUpper).1 crossed
      rw [Bool.not_eq_false] at empty
      rw [checkNumeric_of_consistent consistent, findLower, findUpper]
      dsimp only
      rw [if_pos empty]
      rfl
  | accepted consistent meets =>
      have passes : checkNumeric isEmpty validators = .ok () := by
        refine checkNumeric_eq_ok_iff.2 ⟨consistent, ?_⟩
        intro lower findLower upper findUpper
        obtain ⟨below, member, isLower, low, given, rfl⟩ :=
          consistent.single_isLower.findBound?_eq_some_iff.1 findLower
        obtain ⟨above, member', isUpper, high, given', rfl⟩ :=
          consistent.single_isUpper.findBound?_eq_some_iff.1 findUpper
        exact (empty_iff isLower isUpper).2
          (meets below member above member' isLower isUpper low given high given')
      rw [passes]
      rfl

/-- A check of numbers gives exactly the verdict of the rules. -/
theorem checkNumeric_eq_iff {outcome : Except Fault β}
    (empty_iff : ∀ {lower upper : NumericValidatorKind × α}, lower.1.isLower = true →
      upper.1.isUpper = true →
      (isEmpty ⟨lower.2, lower.1.isStrict⟩ ⟨upper.2, upper.1.isStrict⟩ = false ↔
        leaves lower upper)) :
    (checkNumeric isEmpty validators).map (fun _ => guard) = outcome ↔
      NumericVerdict leaves validators guard outcome := by
  constructor
  · rintro rfl
    obtain ⟨outcome, verdict⟩ := @exists_numericVerdict α β _ leaves validators guard
    rwa [verdict.map_checkNumeric empty_iff]
  · intro verdict
    exact verdict.map_checkNumeric empty_iff

end

/-! ## Strings -/

section

variable {β : Type}

/-- The warning about a check for empty strings that a least length makes redundant. -/
def redundancyWarning (notEmpty : Span) (least : Int) : String :=
  "`not_empty` at " ++ notEmpty.place ++ " is redundant with `min_len = " ++ toString least ++ "`"

/-- The warnings about validators of strings. -/
inductive Warns (validators : List (Spanned StringValidator)) : List String → Prop
  | redundant {notEmpty least : Spanned StringValidator} {low : Int} :
      notEmpty ∈ validators → notEmpty.item.kind = .notEmpty →
      least ∈ validators → least.item.kind = .minLen → least.item.length = some low → 1 ≤ low →
      Warns validators [redundancyWarning notEmpty.span low]
  | none : (∀ notEmpty ∈ validators, notEmpty.item.kind = .notEmpty → ∀ least ∈ validators,
        least.item.kind = .minLen → ∀ low ∈ least.item.length, ¬ 1 ≤ low) →
      Warns validators []

/-- The verdict on validators of strings with the warnings that go with it, where
`guard` is what is built of validators that pass. -/
inductive StringVerdict (validators : List (Spanned StringValidator)) (guard : β) :
    List String → Except Fault β → Prop
  /-- A kind is repeated. -/
  | repeated {validator : Spanned StringValidator} :
      FirstRepeated (·.kind) validators validator →
      StringVerdict validators guard []
        (.error (.located (.repeatedValidator (Keyword.name validator.item.kind)) validator.span))
  /-- No kind is repeated, but the two lengths have no number between them. -/
  | crossedLengths {least most : Spanned StringValidator} {low high : Int} :
      (kinds (·.kind) validators).Nodup →
      least ∈ validators → least.item.kind = .minLen → least.item.length = some low →
      most ∈ validators → most.item.kind = .maxLen → most.item.length = some high →
      (¬ ∃ number, low ≤ number ∧ number ≤ high) →
      StringVerdict validators guard []
        (.error (.located .crossedLengths (least.span.join most.span)))
  /-- None of this holds. -/
  | accepted {warnings : List String} : (kinds (·.kind) validators).Nodup →
      (∀ least ∈ validators, ∀ most ∈ validators, least.item.kind = .minLen →
        most.item.kind = .maxLen → ∀ low ∈ least.item.length, ∀ high ∈ most.item.length,
        ∃ number, low ≤ number ∧ number ≤ high) →
      Warns validators warnings →
      StringVerdict validators guard warnings (.ok guard)

variable {validators : List (Spanned StringValidator)} {guard : β}

theorem exists_between_iff {low high : Int} :
    (∃ number, low ≤ number ∧ number ≤ high) ↔ low ≤ high := by
  constructor
  · rintro ⟨number, above, below⟩
    exact Int.le_trans above below
  · intro reaches
    exact ⟨low, Int.le_refl low, reaches⟩

theorem exists_warns : ∃ warnings, Warns validators warnings := by
  by_cases silent : ∀ notEmpty ∈ validators, notEmpty.item.kind = .notEmpty →
      ∀ least ∈ validators, least.item.kind = .minLen → ∀ low ∈ least.item.length, ¬ 1 ≤ low
  · exact ⟨_, .none silent⟩
  · simp only [not_forall, not_not] at silent
    rcases silent with ⟨notEmpty, member, isNotEmpty, least, member', isLeast, low, given, positive⟩
    exact ⟨_, .redundant member isNotEmpty member' isLeast given positive⟩

/-- The rules always give a verdict. -/
theorem exists_stringVerdict :
    ∃ warnings outcome, StringVerdict validators guard warnings outcome := by
  by_cases distinct : (kinds (·.kind) validators).Nodup
  swap
  · rcases exists_firstRepeated distinct with ⟨validator, repeated⟩
    exact ⟨_, _, .repeated repeated⟩
  by_cases meets : ∀ least ∈ validators, ∀ most ∈ validators, least.item.kind = .minLen →
      most.item.kind = .maxLen → ∀ low ∈ least.item.length, ∀ high ∈ most.item.length,
      ∃ number, low ≤ number ∧ number ≤ high
  · rcases @exists_warns validators with ⟨warnings, warns⟩
    exact ⟨_, _, .accepted distinct meets warns⟩
  · simp only [not_forall] at meets
    rcases meets with
      ⟨least, member, most, member', isLeast, isMost, low, given, high, given', crossed⟩
    exact ⟨_, _, .crossedLengths distinct member isLeast given member' isMost given' crossed⟩

/-- What is recorded about redundancy are the warnings of the rules. -/
theorem Warns.redundancy_eq {warnings : List String}
    (distinct : (kinds (·.kind) validators).Nodup) (warns : Warns validators warnings) :
    redundancy validators = warnings.map (⟨.warning, ·⟩) := by
  rw [redundancy]
  cases warns with
  | redundant member isNotEmpty member' isLeast given positive =>
      rw [(find?_eq_some_iff distinct).2 ⟨member, isNotEmpty⟩,
        (findLength?_eq_some_iff distinct).2 ⟨_, member', isLeast, _, given, rfl⟩]
      dsimp only
      rw [if_pos positive]
      rfl
  | none silent =>
      split
      · rename_i notEmpty least findEmpty findLeast
        rcases (find?_eq_some_iff distinct).1 findEmpty with ⟨member, isNotEmpty⟩
        rcases (findLength?_eq_some_iff distinct).1 findLeast with
          ⟨validator, member', isLeast, low, given, rfl⟩
        rw [if_neg (silent notEmpty member isNotEmpty validator member' isLeast low given)]
        rfl
      · rfl

theorem FirstRepeated.checkStrings_eq {validator : Spanned StringValidator}
    (repeated : FirstRepeated (·.kind) validators validator) :
    checkStrings validators =
      .error (.located (.repeatedValidator (Keyword.name validator.item.kind)) validator.span) := by
  rw [checkStrings, repeated.checkRepeated_eq]
  rfl

/-- A check of strings gives every verdict of the rules. -/
theorem StringVerdict.map_checkStrings {warnings : List String} {outcome : Except Fault β}
    (verdict : StringVerdict validators guard warnings outcome) :
    (checkStrings validators).map (fun _ => guard) = outcome := by
  cases verdict with
  | repeated repeated =>
      rw [repeated.checkStrings_eq]
      rfl
  | crossedLengths distinct member isLeast given member' isMost given' crossed =>
      have findLeast := (findLength?_eq_some_iff distinct).2 ⟨_, member, isLeast, _, given, rfl⟩
      have findMost := (findLength?_eq_some_iff distinct).2 ⟨_, member', isMost, _, given', rfl⟩
      rw [exists_between_iff, Int.not_le] at crossed
      rw [checkStrings, checkRepeated_of_nodup distinct, findLeast, findMost]
      simp only [bind, Except.bind]
      rw [if_pos crossed]
      rfl
  | accepted distinct meets _ =>
      have passes : checkStrings validators = .ok () := by
        refine checkStrings_eq_ok_iff.2 ⟨distinct, ?_⟩
        intro least findLeast most findMost
        obtain ⟨one, member, isLeast, low, given, rfl⟩ :=
          (findLength?_eq_some_iff distinct).1 findLeast
        obtain ⟨two, member', isMost, high, given', rfl⟩ :=
          (findLength?_eq_some_iff distinct).1 findMost
        exact exists_between_iff.1 (meets one member two member' isLeast isMost low given high given')
      rw [passes]
      rfl

end

end Guard

/-! ## Whole guards -/

/-- Some integer passes a lower and an upper bound. -/
def Guard.IntegerBetween (lower upper : NumericValidatorKind × Int) : Prop :=
  ∃ number, lower.1.Holds lower.2 number ∧ upper.1.Holds upper.2 number

namespace RawGuard

/-- A guard of strings that is accepted is recorded behind its warnings, and one that
is refused leaves no record. -/
theorem check_string_warnings {raw : RawItems StringSanitizer StringValidator} {guard : Guard}
    {warnings : List String} {outcome : Except Fault Guard}
    (verdict : Guard.StringVerdict raw.validators guard warnings outcome) :
    (string raw).check.1.warnings = warnings := by
  have judged := verdict.map_checkStrings
  cases verdict with
  | repeated | crossedLengths =>
      cases checked : Guard.checkStrings raw.validators with
      | ok => simp [checked, Except.map] at judged
      | error fault => simp [check, checked, Log.warnings]
  | accepted distinct _ warns =>
      cases checked : Guard.checkStrings raw.validators with
      | error fault => simp [checked, Except.map] at judged
      | ok =>
          simp [check, checked, warns.redundancy_eq distinct, Log.warnings, stringsBuilt,
            List.filter_map, Function.comp_def]

end RawGuard

/-- The check of a guard gives exactly the verdict of the rules, which are applied in
their order: for integers a repeated kind, two bounds of one direction, and bounds
without an integer between them; for strings a repeated kind and lengths without a
number between them.  What is accepted has exactly the items of the raw guard, and a
warning exactly if a positive least length makes the check for empty strings redundant. -/
theorem check_eq_verdict :
    (∀ (type : IntegerType) (raw : RawItems NumericSanitizer (NumericValidator Int))
        (outcome : Except Fault Guard),
      (RawGuard.integer type raw).check.2 = outcome ↔
        Guard.NumericVerdict Guard.IntegerBetween raw.validators
          (.integer type ⟨raw.sanitizers.map (·.item), raw.validators.map (·.item)⟩) outcome) ∧
    ∀ (raw : RawItems StringSanitizer StringValidator) (warnings : List String)
        (outcome : Except Fault Guard),
      (RawGuard.string raw).check.1.warnings = warnings ∧
          (RawGuard.string raw).check.2 = outcome ↔
        Guard.StringVerdict raw.validators
          (.string ⟨raw.sanitizers.map (·.item), raw.validators.map (·.item)⟩) warnings
          outcome := by
  constructor
  · intro type raw outcome
    rw [RawGuard.check_integer]
    exact Guard.checkNumeric_eq_iff Limit.emptyDiscrete_eq_false_iff
  · intro raw warnings outcome
    rw [RawGuard.check_string]
    constructor
    · rintro ⟨rfl, rfl⟩
      obtain ⟨warnings, outcome, verdict⟩ := @Guard.exists_stringVerdict Guard raw.validators
        (.string ⟨raw.sanitizers.map (·.item), raw.validators.map (·.item)⟩)
      rw [RawGuard.check_string_warnings verdict]
      exact verdict.map_checkStrings ▸ verdict
    · intro verdict
      exact ⟨RawGuard.check_string_warnings verdict, verdict.map_checkStrings⟩

end GuardLang

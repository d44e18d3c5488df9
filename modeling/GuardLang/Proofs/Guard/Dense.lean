import GuardLang.Proofs.Guard.Verdict
import Mathlib.Algebra.Order.Field.Basic
import Mathlib.Data.Rat.Cast.Order

/-!
# Bounds on a dense order

A finite double denotes a rational number, and doubles are compared as the numbers they
denote, so that both zeros are the same bound.  Rational numbers are dense: two bounds that
are found not to cross have one between them, also where no double lies between them.

Main statement: the check of a guard of floating point numbers gives the verdict of the
rules, where bounds leave something exactly if a rational number passes both
(`check_float_eq_verdict`).
-/

namespace GuardLang

/-! ## The number that a double denotes -/

namespace Binary64

/-- The rational number that a finite double denotes. -/
def toRat? : Binary64 → Option ℚ
  | finite negative units => some ((signed negative units : ℚ) / (one : ℚ))
  | nan | infinite _ => none

theorem toRat?_zero (negative : Bool) : (finite negative 0).toRat? = some 0 := by
  have level : signed negative 0 = 0 := by cases negative <;> rfl
  rw [toRat?, level, Int.cast_zero, zero_div]

variable {x y : Binary64} {p q : ℚ}

/-- The level of a double is the number that it denotes, in units. -/
theorem exists_level_of_toRat? (denotes : x.toRat? = some p) :
    ∃ level : Int, x.level? = some level ∧ p = (level : ℚ) / (one : ℚ) := by
  cases x with
  | nan | infinite => cases denotes
  | finite negative units =>
      cases denotes
      exact ⟨signed negative units, rfl, rfl⟩

theorem one_pos : (0 : ℚ) < (one : ℚ) := by
  refine Nat.cast_pos.2 ?_
  unfold one
  generalize 1074 = exponent
  exact Nat.pow_pos Nat.two_pos

/-- Doubles are the same if they denote the same number. -/
theorem same_eq_true_iff (left : x.toRat? = some p) (right : y.toRat? = some q) :
    x.same y = true ↔ p = q := by
  obtain ⟨level, level_eq, rfl⟩ := exists_level_of_toRat? left
  obtain ⟨level', level'_eq, rfl⟩ := exists_level_of_toRat? right
  rw [same, level_eq, level'_eq, div_left_inj' one_pos.ne', Int.cast_inj]
  exact beq_iff_eq

/-- Doubles are ordered as the numbers they denote. -/
theorem lt_eq_true_iff (left : x.toRat? = some p) (right : y.toRat? = some q) :
    x.lt y = true ↔ p < q := by
  obtain ⟨level, level_eq, rfl⟩ := exists_level_of_toRat? left
  obtain ⟨level', level'_eq, rfl⟩ := exists_level_of_toRat? right
  rw [lt, level_eq, level'_eq, div_lt_div_iff_of_pos_right one_pos, Int.cast_lt]
  exact decide_eq_true_iff

end Binary64

/-! ## Rational numbers between bounds -/

/-- What a validator of a kind asks of a rational number, if it is given a bound. -/
def NumericValidatorKind.HoldsDense (kind : NumericValidatorKind) (bound number : ℚ) : Prop :=
  match kind with
  | greater => bound < number
  | greaterOrEqual => bound ≤ number
  | less => number < bound
  | lessOrEqual => number ≤ bound
  | custom | finite => True

/-- Some rational number passes a lower and an upper bound. -/
def Guard.RationalBetween (lower upper : NumericValidatorKind × Binary64) : Prop :=
  ∃ low ∈ lower.2.toRat?, ∃ high ∈ upper.2.toRat?, ∃ number : ℚ,
    lower.1.HoldsDense low number ∧ upper.1.HoldsDense high number

namespace Limit

variable {lower upper : Binary64} {low high : ℚ}

/-- Two bounds leave something if the lower one is less than the upper one; if both are
included they may meet. -/
theorem emptyDense_eq_false_iff_lt (left : lower.toRat? = some low)
    (right : upper.toRat? = some high) (strict strict' : Bool) :
    emptyDense ⟨lower, strict⟩ ⟨upper, strict'⟩ = false ↔
      low < high ∨ low = high ∧ strict = false ∧ strict' = false := by
  have same := Binary64.same_eq_true_iff left right
  have less := Binary64.lt_eq_true_iff right left
  rw [emptyDense]
  dsimp only [Quantity.same, Quantity.lt]
  by_cases equal : low = high
  · rw [if_pos (same.2 equal), Bool.or_eq_false_iff]
    simp [equal]
  · rw [if_neg (mt same.1 equal), ← Bool.not_eq_true, less, not_lt]
    simp only [equal, false_and, or_false]
    exact ⟨fun reaches => lt_of_le_of_ne reaches equal, le_of_lt⟩

/-- Two bounds are found to cross exactly if no rational number lies between them. -/
theorem emptyDense_eq_false_iff {kind kind' : NumericValidatorKind}
    (isLower : kind.isLower = true) (isUpper : kind'.isUpper = true)
    (left : lower.toRat? = some low) (right : upper.toRat? = some high) :
    emptyDense ⟨lower, kind.isStrict⟩ ⟨upper, kind'.isStrict⟩ = false ↔
      Guard.RationalBetween (kind, lower) (kind', upper) := by
  have between : Guard.RationalBetween (kind, lower) (kind', upper) ↔
      ∃ number : ℚ, kind.HoldsDense low number ∧ kind'.HoldsDense high number := by
    simp [Guard.RationalBetween, left, right]
  rw [emptyDense_eq_false_iff_lt left right, between]
  cases kind <;> cases isLower <;> cases kind' <;> cases isUpper <;>
    simp only [NumericValidatorKind.isStrict, NumericValidatorKind.HoldsDense, Bool.true_eq_false,
      and_self, and_false, or_false, and_true]
  · -- Both bounds are excluded, so that a number strictly between them is needed.
    refine ⟨exists_between, ?_⟩
    rintro ⟨number, above, below⟩
    exact above.trans below
  · refine ⟨fun less => ⟨high, less, le_rfl⟩, ?_⟩
    rintro ⟨number, above, below⟩
    exact above.trans_le below
  · refine ⟨fun less => ⟨low, le_rfl, less⟩, ?_⟩
    rintro ⟨number, above, below⟩
    exact above.trans_lt below
  · rw [← le_iff_lt_or_eq]
    refine ⟨fun reaches => ⟨low, le_rfl, reaches⟩, ?_⟩
    rintro ⟨number, above, below⟩
    exact above.trans below

end Limit

/-! ## Whole guards -/

/-- Only what is said of the bounds that occur decides about a verdict. -/
theorem Guard.NumericVerdict.congr {α β : Type} [Quantity α]
    {leaves leaves' : NumericValidatorKind × α → NumericValidatorKind × α → Prop}
    {validators : List (Spanned (NumericValidator α))} {guard : β} {outcome : Except Fault β}
    (same : ∀ lower ∈ validators, ∀ upper ∈ validators, lower.item.kind.isLower = true →
      upper.item.kind.isUpper = true → ∀ low ∈ lower.item.value, ∀ high ∈ upper.item.value,
      (leaves (lower.item.kind, low) (upper.item.kind, high) ↔
        leaves' (lower.item.kind, low) (upper.item.kind, high)))
    (verdict : NumericVerdict leaves validators guard outcome) :
    NumericVerdict leaves' validators guard outcome := by
  cases verdict with
  | repeated repeated => exact .repeated repeated
  | exclusiveLower distinct member isStrict member' isInclusive =>
      exact .exclusiveLower distinct member isStrict member' isInclusive
  | exclusiveUpper distinct lower member isStrict member' isInclusive =>
      exact .exclusiveUpper distinct lower member isStrict member' isInclusive
  | emptyRange consistent member isLower given member' isUpper given' crossed =>
      exact .emptyRange consistent member isLower given member' isUpper given'
        (mt (same _ member _ member' isLower isUpper _ given _ given').2 crossed)
  | accepted consistent meets =>
      refine .accepted consistent ?_
      intro lower member upper member' isLower isUpper low given high given'
      exact (same lower member upper member' isLower isUpper low given high given').1
        (meets lower member upper member' isLower isUpper low given high given')

/-- Ranges of floating point numbers are decided as on a dense order.  Let every bound of a
guard be finite.  Its check gives exactly the verdict of the rules, which are applied in
their order: a repeated kind, two bounds of one direction, and bounds without a rational
number between them.  What is accepted has exactly the items of the raw guard. -/
theorem check_float_eq_verdict {raw : RawItems NumericSanitizer (NumericValidator Binary64)}
    (finite : ∀ validator ∈ raw.validators,
      validator.item.kind.isLower = true ∨ validator.item.kind.isUpper = true →
      ∃ negative units, validator.item.value = some (.finite negative units))
    (type : FloatType) (outcome : Except Fault Guard) :
    (RawGuard.float type raw).check.2 = outcome ↔
      Guard.NumericVerdict Guard.RationalBetween raw.validators
        (.float type ⟨raw.sanitizers.map (·.item), raw.validators.map (·.item)⟩) outcome := by
  -- The verdict by what the check computes, and by the numbers that the bounds denote.
  have agree : ∀ lower ∈ raw.validators, ∀ upper ∈ raw.validators,
      lower.item.kind.isLower = true → upper.item.kind.isUpper = true →
      ∀ low ∈ lower.item.value, ∀ high ∈ upper.item.value,
      (Limit.emptyDense ⟨low, lower.item.kind.isStrict⟩ ⟨high, upper.item.kind.isStrict⟩ = false ↔
        Guard.RationalBetween (lower.item.kind, low) (upper.item.kind, high)) := by
    intro lower member upper member' isLower isUpper low given high given'
    obtain ⟨_, _, isFinite⟩ := finite lower member (.inl isLower)
    obtain ⟨_, _, isFinite'⟩ := finite upper member' (.inr isUpper)
    cases isFinite.symm.trans given
    cases isFinite'.symm.trans given'
    exact Limit.emptyDense_eq_false_iff isLower isUpper rfl rfl
  rw [RawGuard.check_float]
  refine (Guard.checkNumeric_eq_iff fun _ _ => .rfl).trans ⟨fun verdict => ?_, fun verdict => ?_⟩
  · exact verdict.congr agree
  · refine verdict.congr ?_
    intro lower member upper member' isLower isUpper low given high given'
    exact (agree lower member upper member' isLower isUpper low given high given').symm

/-- Bounds at the two zeros: they leave zero if both are included, and nothing if one of them
is not. -/
theorem check_float_zeros :
    let least (kind : NumericValidatorKind) : Spanned (NumericValidator Binary64) :=
      ⟨{ kind, value := some (.finite false 0) }, ⟨20, 40, 2, 4⟩⟩
    let greatest : Spanned (NumericValidator Binary64) :=
      ⟨{ kind := .lessOrEqual, value := some (.finite true 0) }, ⟨9, 19, 1, 10⟩⟩
    (RawGuard.float .f64 ⟨[], [greatest, least .greaterOrEqual]⟩).check.2 =
        .ok (.float .f64 ⟨[], [greatest.item, (least .greaterOrEqual).item]⟩) ∧
      (RawGuard.float .f64 ⟨[], [greatest, least .greater]⟩).check.2 =
        .error (.located (.emptyRange "greater = 0.0" "less_or_equal = -0.0") ⟨9, 40, 1, 10⟩) := by
  intro least greatest
  have finite : ∀ kind : NumericValidatorKind, ∀ validator ∈ [greatest, least kind],
      validator.item.kind.isLower = true ∨ validator.item.kind.isUpper = true →
      ∃ negative units, validator.item.value = some (.finite negative units) := by
    intro kind validator member _
    rcases List.mem_pair.1 member with rfl | rfl
    · exact ⟨true, 0, rfl⟩
    · exact ⟨false, 0, rfl⟩
  constructor
  · apply (check_float_eq_verdict (finite .greaterOrEqual) .f64 _).2
    refine .accepted ⟨by decide, by decide, by decide⟩ ?_
    intro lower member upper member' isLower isUpper low given high given'
    rcases List.mem_pair.1 member with rfl | rfl
    · cases isLower
    rcases List.mem_pair.1 member' with rfl | rfl
    · cases given
      cases given'
      exact ⟨0, Binary64.toRat?_zero false, 0, Binary64.toRat?_zero true, 0, le_refl (0 : ℚ),
        le_refl (0 : ℚ)⟩
    · cases isUpper
  · apply (check_float_eq_verdict (finite .greater) .f64 _).2
    have crossed : ¬ Guard.RationalBetween (.greater, .finite false 0)
        (.lessOrEqual, .finite true 0) := by
      rintro ⟨low, isLow, high, isHigh, number, above, below⟩
      rw [Binary64.toRat?_zero] at isLow isHigh
      cases isLow
      cases isHigh
      exact absurd above (not_lt.2 below)
    exact @Guard.NumericVerdict.emptyRange _ _ _ _ _ _ (least .greater) greatest _ _
      ⟨by decide, by decide, by decide⟩ (by simp) rfl rfl (by simp) rfl rfl crossed

end GuardLang

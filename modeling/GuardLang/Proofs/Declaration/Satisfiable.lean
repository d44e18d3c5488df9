import GuardLang.Proofs.Declaration.Accepted
import GuardLang.Proofs.Guard.Consistent

/-!
# Guards that some value passes

A check compares bounds with each other, not with the limits of the type.  What it
accepts, some value of the type passes, unless the only bound excludes the very
limit that it is; and some length passes, unless strings have to be empty and must
not be.

Main statement: `accepted_satisfiable_iff`.
-/

namespace GuardLang

/-! ## What validators ask for -/

/-- A strict bound at the limit of a type, and no bound in the other direction. -/
def IntegerType.ExcludedBy (type : IntegerType) (validators : List (NumericValidator Int)) :
    Prop :=
  ((∃ bound ∈ validators, bound.kind = .greater ∧ bound.value = some type.maximum) ∧
    ∀ validator ∈ validators, validator.kind.isUpper = false) ∨
  ((∃ bound ∈ validators, bound.kind = .less ∧ bound.value = some type.minimum) ∧
    ∀ validator ∈ validators, validator.kind.isLower = false)

/-- A length passes a validator of strings, as far as lengths are concerned. -/
def StringValidator.AdmitsLength (validator : StringValidator) (length : Nat) : Prop :=
  match validator.kind with
  | .minLen => ∀ least ∈ validator.length, least ≤ length
  | .maxLen => ∀ most ∈ validator.length, (length : Int) ≤ most
  | .notEmpty => 1 ≤ length
  | .custom | .regex => True

/-- Strings have to be empty and must not be. -/
def StringValidator.EmptyExcludedBy (validators : List StringValidator) : Prop :=
  (∃ validator ∈ validators, validator.kind = .notEmpty) ∧
    ∃ most ∈ validators, most.kind = .maxLen ∧ most.length = some 0

/-! ## Integers -/

theorem IntegerType.minimum_le_maximum (type : IntegerType) : type.minimum ≤ type.maximum := by
  cases type <;> decide

namespace NumericValidatorKind

variable {type : IntegerType} {kind : NumericValidatorKind} {bound : Int}

/-- The greatest number of a type passes a lower bound, unless it is the bound and
is excluded. -/
theorem holds_maximum (isLower : kind.isLower = true) (inRange : type.InRange bound)
    (allowed : kind = .greater → bound ≠ type.maximum) : kind.Holds bound type.maximum := by
  cases kind with
  | greater => exact Int.lt_iff_le_and_ne.2 ⟨inRange.2, allowed rfl⟩
  | greaterOrEqual => exact inRange.2
  | less | lessOrEqual | custom | finite => cases isLower

/-- The least number of a type passes an upper bound, unless it is the bound and is
excluded. -/
theorem holds_minimum (isUpper : kind.isUpper = true) (inRange : type.InRange bound)
    (allowed : kind = .less → bound ≠ type.minimum) : kind.Holds bound type.minimum := by
  cases kind with
  | less => exact Int.lt_iff_le_and_ne.2 ⟨inRange.1, (allowed rfl).symm⟩
  | lessOrEqual => exact inRange.1
  | greater | greaterOrEqual | custom | finite => cases isUpper

end NumericValidatorKind

namespace Guard

section

variable {type : IntegerType} {inputType : Text} {finite : Prop}
  {validators : List (Spanned (NumericValidator Int))} {condition : NumericValidatorKind → Bool}
  {bound : Spanned (NumericValidatorKind × Int)}

/-- A bound that is found is in the range of its type. -/
theorem inRange_of_findBound?
    (fits : ∀ validator ∈ validators, validator.item.Fits type.InRange inputType finite)
    (found : findBound? condition validators = some bound) (single : Single condition validators)
    (bounds : ∀ kind, condition kind = true → kind.isLower = true ∨ kind.isUpper = true) :
    type.InRange bound.item.2 := by
  obtain ⟨validator, member, holds, value, given, rfl⟩ := single.findBound?_eq_some_iff.1 found
  obtain ⟨value', given', inRange⟩ := (fits validator member).exists_value (bounds _ holds)
  rw [Option.mem_unique given given']
  exact inRange

/-- Where no bound is found, no validator is one. -/
theorem condition_eq_false_of_findBound?
    (fits : ∀ validator ∈ validators, validator.item.Fits type.InRange inputType finite)
    (missing : findBound? condition validators = none) (single : Single condition validators)
    (bounds : ∀ kind, condition kind = true → kind.isLower = true ∨ kind.isUpper = true) :
    ∀ validator ∈ validators, condition validator.item.kind = false := by
  intro validator member
  apply Bool.eq_false_iff.2
  intro holds
  obtain ⟨value, given, _⟩ := (fits validator member).exists_value (bounds _ holds)
  have found := single.findBound?_eq_some_iff.2 ⟨validator, member, holds, value, given, rfl⟩
  rw [missing] at found
  cases found

/-- No number of a type passes validators that exclude the limit in its direction. -/
theorem not_excludedBy_of_admits {number : Int} (inRange : type.InRange number)
    (admitted : ∀ validator ∈ validators, validator.item.Admits number) :
    ¬ type.ExcludedBy (validators.map (·.item)) := by
  have passes : ∀ validator ∈ validators.map (·.item), validator.Admits number :=
    List.forall_mem_map.2 admitted
  rintro (⟨⟨bound, member, isGreater, given⟩, _⟩ | ⟨⟨bound, member, isLess, given⟩, _⟩)
  · have above := passes bound member _ given
    rw [isGreater] at above
    exact Int.not_lt.2 inRange.2 above
  · have below := passes bound member _ given
    rw [isLess] at below
    exact Int.not_lt.2 inRange.1 below

/-- The greatest number passes validators that bound numbers from below only. -/
theorem admits_maximum
    (fits : ∀ validator ∈ validators, validator.item.Fits type.InRange inputType finite)
    (consistent : NumericConsistent (kinds (·.kind) validators))
    (unbounded : findBound? (·.isUpper) validators = none)
    (allowed : ¬ type.ExcludedBy (validators.map (·.item))) :
    ∀ validator ∈ validators, validator.item.Admits type.maximum := by
  apply consistent.admits_iff.2
  constructor
  · intro lower found
    have inRange := inRange_of_findBound? fits found consistent.single_isLower
      fun _ isLower => .inl isLower
    apply NumericValidatorKind.holds_maximum (findBound?_condition found) inRange
    intro isGreater atLimit
    obtain ⟨validator, member, _, value, given, rfl⟩ :=
      consistent.single_isLower.findBound?_eq_some_iff.1 found
    have noUpper := condition_eq_false_of_findBound? fits unbounded consistent.single_isUpper
      fun _ isUpper => .inr isUpper
    apply allowed
    left
    exact ⟨⟨validator.item, List.mem_map_of_mem member, isGreater, atLimit ▸ given⟩,
      List.forall_mem_map.2 noUpper⟩
  · simp [unbounded]

/-- The least number passes validators that bound numbers from above only. -/
theorem admits_minimum
    (fits : ∀ validator ∈ validators, validator.item.Fits type.InRange inputType finite)
    (consistent : NumericConsistent (kinds (·.kind) validators))
    (unbounded : findBound? (·.isLower) validators = none)
    (allowed : ¬ type.ExcludedBy (validators.map (·.item))) :
    ∀ validator ∈ validators, validator.item.Admits type.minimum := by
  apply consistent.admits_iff.2
  constructor
  · simp [unbounded]
  · intro upper found
    have inRange := inRange_of_findBound? fits found consistent.single_isUpper
      fun _ isUpper => .inr isUpper
    apply NumericValidatorKind.holds_minimum (findBound?_condition found) inRange
    intro isLess atLimit
    obtain ⟨validator, member, _, value, given, rfl⟩ :=
      consistent.single_isUpper.findBound?_eq_some_iff.1 found
    have noLower := condition_eq_false_of_findBound? fits unbounded consistent.single_isLower
      fun _ isLower => .inl isLower
    apply allowed
    right
    exact ⟨⟨validator.item, List.mem_map_of_mem member, isLess, atLimit ▸ given⟩,
      List.forall_mem_map.2 noLower⟩

/-- What is accepted, a number of the type passes, unless the limit is excluded. -/
theorem exists_inRange_admitted_iff
    (fits : ∀ validator ∈ validators, validator.item.Fits type.InRange inputType finite)
    (accepted : checkNumeric Limit.emptyDiscrete validators = .ok ()) :
    (∃ number, type.InRange number ∧ ∀ validator ∈ validators, validator.item.Admits number) ↔
      ¬ type.ExcludedBy (validators.map (·.item)) := by
  constructor
  · rintro ⟨number, inRange, admitted⟩
    exact not_excludedBy_of_admits inRange admitted
  · intro allowed
    obtain ⟨consistent, _⟩ := checkNumeric_eq_ok_iff.1 accepted
    cases findLower : findBound? (·.isLower) validators with
    | none =>
        exact ⟨type.minimum, ⟨Int.le_refl _, type.minimum_le_maximum⟩,
          admits_minimum fits consistent findLower allowed⟩
    | some lower =>
        cases findUpper : findBound? (·.isUpper) validators with
        | none =>
            exact ⟨type.maximum, ⟨type.minimum_le_maximum, Int.le_refl _⟩,
              admits_maximum fits consistent findUpper allowed⟩
        | some upper =>
            -- A number between two bounds of the type is itself of the type.
            obtain ⟨number, admitted⟩ := exists_between accepted findLower findUpper
            obtain ⟨above, below⟩ := consistent.admits_iff.1 admitted
            have low := inRange_of_findBound? fits findLower consistent.single_isLower
              fun _ isLower => .inl isLower
            have high := inRange_of_findBound? fits findUpper consistent.single_isUpper
              fun _ isUpper => .inr isUpper
            have above := NumericValidatorKind.le_of_isLower (findBound?_condition findLower)
              (above lower findLower)
            have below := NumericValidatorKind.le_of_isUpper (findBound?_condition findUpper)
              (below upper findUpper)
            exact ⟨number, ⟨Int.le_trans low.1 above, Int.le_trans below high.2⟩, admitted⟩

end

/-! ## Lengths -/

section

variable {enabled : Capabilities} {validators : List (Spanned StringValidator)}

/-- No length passes validators that ask for empty strings and exclude them. -/
theorem not_emptyExcludedBy_of_admitsLength {length : Nat}
    (admitted : ∀ validator ∈ validators, validator.item.AdmitsLength length) :
    ¬ StringValidator.EmptyExcludedBy (validators.map (·.item)) := by
  have passes : ∀ validator ∈ validators.map (·.item), validator.AdmitsLength length :=
    List.forall_mem_map.2 admitted
  rintro ⟨⟨validator, member, notEmpty⟩, most, most_mem, isMost, given⟩
  have positive := passes validator member
  have bounded := passes most most_mem
  simp only [StringValidator.AdmitsLength, notEmpty] at positive
  simp only [StringValidator.AdmitsLength, isMost, given] at bounded
  have empty := bounded 0 rfl
  omega

/-- A length passes validators exactly if it passes the two lengths that are found
and is positive where it has to be. -/
theorem admitsLength_iff (distinct : (kinds (·.kind) validators).Nodup) {length : Nat} :
    (∀ validator ∈ validators, validator.item.AdmitsLength length) ↔
      (∀ least ∈ findLength? validators .minLen, least.item ≤ length) ∧
      (∀ most ∈ findLength? validators .maxLen, (length : Int) ≤ most.item) ∧
      (.notEmpty ∈ kinds (·.kind) validators → 1 ≤ length) := by
  constructor
  · intro admitted
    refine ⟨?_, ?_, ?_⟩
    · intro least found
      obtain ⟨validator, member, isLeast, low, given, rfl⟩ :=
        (findLength?_eq_some_iff distinct).1 found
      have passes := admitted validator member
      simp only [StringValidator.AdmitsLength, isLeast] at passes
      exact passes low given
    · intro most found
      obtain ⟨validator, member, isMost, high, given, rfl⟩ :=
        (findLength?_eq_some_iff distinct).1 found
      have passes := admitted validator member
      simp only [StringValidator.AdmitsLength, isMost] at passes
      exact passes high given
    · intro listed
      obtain ⟨validator, member, notEmpty⟩ := List.mem_map.1 listed
      have passes := admitted validator member
      simpa only [StringValidator.AdmitsLength, notEmpty] using passes
  · rintro ⟨above, below, positive⟩ validator member
    unfold StringValidator.AdmitsLength
    split
    · rename_i isLeast
      intro low given
      exact above _ ((findLength?_eq_some_iff distinct).2
        ⟨validator, member, isLeast, low, given, rfl⟩)
    · rename_i isMost
      intro high given
      exact below _ ((findLength?_eq_some_iff distinct).2
        ⟨validator, member, isMost, high, given, rfl⟩)
    · rename_i notEmpty
      exact positive (List.mem_map.2 ⟨validator, member, notEmpty⟩)
    · trivial
    · trivial

/-- A greatest length that is found is not negative, and not zero where strings must
not be empty. -/
theorem most_pos_of_findLength? (fits : ∀ validator ∈ validators, validator.item.Fits enabled)
    (distinct : (kinds (·.kind) validators).Nodup) {most : Spanned Int}
    (found : findLength? validators .maxLen = some most)
    (allowed : ¬ StringValidator.EmptyExcludedBy (validators.map (·.item))) :
    0 ≤ most.item ∧ (.notEmpty ∈ kinds (·.kind) validators → most.item ≠ 0) := by
  obtain ⟨validator, member, isMost, high, given, rfl⟩ :=
    (findLength?_eq_some_iff distinct).1 found
  constructor
  · exact (fits validator member).length_nonneg given
  · intro listed empty
    obtain ⟨other, other_mem, notEmpty⟩ := List.mem_map.1 listed
    apply allowed
    exact ⟨⟨other.item, List.mem_map_of_mem other_mem, notEmpty⟩,
      validator.item, List.mem_map_of_mem member, isMost, empty ▸ given⟩

/-- What is accepted, a length passes, unless strings have to be empty and must not
be. -/
theorem exists_admitsLength_iff (fits : ∀ validator ∈ validators, validator.item.Fits enabled)
    (accepted : checkStrings validators = .ok ()) :
    (∃ length : Nat, ∀ validator ∈ validators, validator.item.AdmitsLength length) ↔
      ¬ StringValidator.EmptyExcludedBy (validators.map (·.item)) := by
  constructor
  · rintro ⟨length, admitted⟩
    exact not_emptyExcludedBy_of_admitsLength admitted
  · intro allowed
    obtain ⟨distinct, lengths⟩ := checkStrings_eq_ok_iff.1 accepted
    simp only [admitsLength_iff distinct]
    cases findMost : findLength? validators .maxLen with
    | some most =>
        obtain ⟨nonneg, nonzero⟩ := most_pos_of_findLength? fits distinct findMost allowed
        refine ⟨most.item.toNat, ?_, ?_, ?_⟩
        · intro least findLeast
          rw [Int.toNat_of_nonneg nonneg]
          exact lengths least findLeast most findMost
        · rintro _ ⟨⟩
          exact Int.le_of_eq (Int.toNat_of_nonneg nonneg)
        · intro listed
          have nonempty := nonzero listed
          omega
    | none =>
        cases findLeast : findLength? validators .minLen with
        | none => exact ⟨1, by simp, by simp, fun _ => Nat.le_refl 1⟩
        | some least =>
            refine ⟨least.item.toNat + 1, ?_, by simp, fun _ => Nat.le_add_left 1 _⟩
            rintro _ ⟨⟩
            omega

end

end Guard

/-- Some number of its type passes the bounds of an accepted guard for integers,
except exactly if the only bounds are a strict one at the limit of the type; and some
length passes an accepted guard for strings, except exactly if they must not be empty
and have no characters at most. -/
theorem accepted_satisfiable_iff (source : Text) (enabled : Capabilities)
    (declaration : Declaration) :
    (∀ type : IntegerType,
      (Declaration.parse source (.integer type) enabled).2 = .ok declaration →
      ∃ items, declaration.guard = .integer type items ∧
        ((∃ number, type.InRange number ∧
            ∀ validator ∈ items.validators, validator.Admits number) ↔
          ¬ type.ExcludedBy items.validators)) ∧
    ((Declaration.parse source .string enabled).2 = .ok declaration →
      ∃ items, declaration.guard = .string items ∧
        ((∃ length : Nat, ∀ validator ∈ items.validators, validator.AdmitsLength length) ↔
          ¬ StringValidator.EmptyExcludedBy items.validators)) := by
  constructor
  · intro type parsed
    obtain ⟨draft, meets, accepted, rfl⟩ := Declaration.exists_integers parsed
    refine ⟨draft.items.items, rfl, ?_⟩
    simp only [RawItems.items, List.forall_mem_map]
    exact Guard.exists_inRange_admitted_iff meets.validators accepted
  · intro parsed
    obtain ⟨draft, meets, accepted, rfl⟩ := Declaration.exists_strings parsed
    refine ⟨draft.items.items, rfl, ?_⟩
    simp only [RawItems.items, List.forall_mem_map]
    exact Guard.exists_admitsLength_iff meets.validators accepted

/-- A bound that nothing passes and a length that nothing has; neither is refused. -/
theorem accepted_unsatisfiable :
    (∃ items, (Declaration.parse "validate(greater = 127)".toList (.integer .i8) {}).2 =
        .ok ⟨.integer .i8 items, false, none⟩ ∧
      ¬ ∃ number, IntegerType.i8.InRange number ∧
        ∀ validator ∈ items.validators, validator.Admits number) ∧
    ∃ items, (Declaration.parse "validate(max_len = 0, not_empty)".toList .string {}).2 =
        .ok ⟨.string items, false, none⟩ ∧
      ¬ ∃ length : Nat, ∀ validator ∈ items.validators, validator.AdmitsLength length := by
  have parsed : (Declaration.parse "validate(greater = 127)".toList (.integer .i8) {}).2 =
      .ok ⟨.integer .i8 { validators := [{ kind := .greater, value := some 127 }] }, false,
        none⟩ := by
    decide +kernel
  have parsed' : (Declaration.parse "validate(max_len = 0, not_empty)".toList .string {}).2 =
      .ok ⟨.string { validators := [{ kind := .maxLen, length := some 0 }, { kind := .notEmpty }] },
        false, none⟩ := by
    decide +kernel
  constructor
  · obtain ⟨items, same, satisfiable_iff⟩ := (accepted_satisfiable_iff _ _ _).1 _ parsed
    cases same
    refine ⟨_, parsed, mt satisfiable_iff.1 (not_not.2 (.inl ⟨?_, ?_⟩))⟩
    · exact ⟨_, List.mem_cons_self, rfl, rfl⟩
    · simp [NumericValidatorKind.isUpper]
  · obtain ⟨items, same, satisfiable_iff⟩ := (accepted_satisfiable_iff _ _ _).2 parsed'
    cases same
    refine ⟨_, parsed', mt satisfiable_iff.1 (not_not.2 ⟨?_, ?_⟩)⟩
    · exact ⟨{ kind := .notEmpty }, by simp, rfl⟩
    · exact ⟨_, List.mem_cons_self, rfl, rfl⟩

end GuardLang

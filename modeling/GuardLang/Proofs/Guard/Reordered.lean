import GuardLang.Proofs.Guard.Verdict

/-!
# The order of validators

Validators are looked up by kind, and the rules by which they are judged ask which
validators there are.  Only a repeated kind is found by its place.  So validators in
another order are judged alike: they are accepted or refused together, and where no
kind is repeated they are refused for the same cause at the same place.

Main statement: `check_reordered`.
-/

namespace GuardLang

/-! ## Other orders -/

/-- The items at the given places, in the order of the places. -/
def reordered {α : Type} (places : List Nat) (items : List α) : List α :=
  places.filterMap fun place => items[place]?

theorem reordered_map {α β : Type} (places : List Nat) (f : α → β) (items : List α) :
    reordered places (items.map f) = (reordered places items).map f := by
  simp [reordered, List.map_filterMap]

theorem reordered_append {α : Type} (places more : List Nat) (items : List α) :
    reordered (places ++ more) items = reordered places items ++ reordered more items :=
  List.filterMap_append

/-- All places in order give all items in order. -/
theorem reordered_range {α : Type} (items : List α) :
    reordered (List.range items.length) items = items := by
  induction items using List.reverseRecOn with
  | nil => rfl
  | append_singleton front last ih =>
      have inFront : reordered (List.range front.length) (front ++ [last]) =
          reordered (List.range front.length) front := by
        refine List.filterMap_congr ?_
        intro place member
        rw [List.getElem?_append_left (List.mem_range.1 member)]
      have atEnd : reordered [front.length] (front ++ [last]) = [last] := by
        simp [reordered]
      rw [List.length_append, List.length_singleton, List.range_succ, reordered_append, inFront,
        ih, atEnd]

/-- All places in some order give all items in some order. -/
theorem reordered_perm {α : Type} {places : List Nat} {items : List α}
    (all : places.Perm (List.range items.length)) : (reordered places items).Perm items := by
  have moved : (reordered places items).Perm (reordered (List.range items.length) items) :=
    all.filterMap _
  rwa [reordered_range] at moved

/-! ## Rules and other orders -/

namespace Guard

section

variable {κ V : Type} {kind : V → κ} {validators others : List (Spanned V)}

theorem kinds_perm (same : others.Perm validators) :
    (kinds kind others).Perm (kinds kind validators) :=
  same.map _

theorem find?_perm [DecidableEq κ] (same : others.Perm validators)
    (distinct : (kinds kind validators).Nodup) (wanted : κ) :
    find? kind others wanted = find? kind validators wanted := by
  apply Option.ext
  intro validator
  have distinct' : (kinds kind others).Nodup := (kinds_perm same).nodup_iff.2 distinct
  rw [find?_eq_some_iff distinct, find?_eq_some_iff distinct', same.mem_iff]

end

section

variable {α β : Type} [Quantity α]
  {leaves : NumericValidatorKind × α → NumericValidatorKind × α → Prop}
  {validators others : List (Spanned (NumericValidator α))}
  {isEmpty : Limit α → Limit α → Bool}

theorem NumericConsistent.perm {first second : List NumericValidatorKind}
    (consistent : NumericConsistent first) (same : second.Perm first) :
    NumericConsistent second := by
  refine ⟨same.nodup_iff.2 consistent.distinct, ?_, ?_⟩
  · rw [same.mem_iff, same.mem_iff]
    exact consistent.lower
  · rw [same.mem_iff, same.mem_iff]
    exact consistent.upper

/-- Where no kind is repeated, the verdict does not depend on the order. -/
theorem NumericVerdict.perm {guard : β} {outcome : Except Fault β}
    (verdict : NumericVerdict leaves validators guard outcome) (same : others.Perm validators)
    (distinct : (kinds (·.kind) validators).Nodup) :
    NumericVerdict leaves others guard outcome := by
  have kinds_same : (kinds (·.kind) others).Perm (kinds (·.kind) validators) := kinds_perm same
  have distinct' : (kinds (·.kind) others).Nodup := kinds_same.nodup_iff.2 distinct
  cases verdict with
  | repeated repeated => exact absurd distinct repeated.not_nodup
  | exclusiveLower _ member isStrict member' isInclusive =>
      exact .exclusiveLower distinct' (same.mem_iff.2 member) isStrict (same.mem_iff.2 member')
        isInclusive
  | exclusiveUpper _ lower member isStrict member' isInclusive =>
      rw [← kinds_same.mem_iff, ← kinds_same.mem_iff] at lower
      exact .exclusiveUpper distinct' lower (same.mem_iff.2 member) isStrict
        (same.mem_iff.2 member') isInclusive
  | emptyRange consistent member isLower given member' isUpper given' crossed =>
      exact .emptyRange (consistent.perm kinds_same) (same.mem_iff.2 member) isLower given
        (same.mem_iff.2 member') isUpper given' crossed
  | accepted consistent meets =>
      refine .accepted (consistent.perm kinds_same) ?_
      intro lower member upper member'
      exact meets lower (same.mem_iff.1 member) upper (same.mem_iff.1 member')

theorem checkNumeric_perm (same : others.Perm validators)
    (distinct : (kinds (·.kind) validators).Nodup) :
    checkNumeric isEmpty others = checkNumeric isEmpty validators := by
  have judged : ∀ {outcome : Except Fault Unit},
      NumericVerdict (fun lower upper => isEmpty ⟨lower.2, lower.1.isStrict⟩
        ⟨upper.2, upper.1.isStrict⟩ = false) validators () outcome →
      (checkNumeric isEmpty others).map (fun _ => ()) = outcome := by
    intro outcome verdict
    exact (verdict.perm same distinct).map_checkNumeric fun _ _ => .rfl
  have unchanged : ∀ outcome : Except Fault Unit, outcome.map (fun _ => ()) = outcome := by
    rintro (_ | _) <;> rfl
  have verdict := (@checkNumeric_eq_iff α Unit _ _ validators () isEmpty _ fun _ _ => .rfl).1
    (unchanged (checkNumeric isEmpty validators))
  rw [← judged verdict, unchanged]

/-- Where a kind is repeated, validators of numbers are refused for it. -/
theorem exists_duplicate_of_checkNumeric (repeats : ¬ (kinds (·.kind) validators).Nodup) :
    ∃ fault, checkNumeric isEmpty validators = .error fault ∧
      fault.cause.category = .duplicate := by
  rcases exists_firstRepeated repeats with ⟨validator, repeated⟩
  exact ⟨_, repeated.checkNumeric_eq, rfl⟩

end

section

variable {validators others : List (Spanned StringValidator)}

theorem findLength?_perm (same : others.Perm validators)
    (distinct : (kinds (·.kind) validators).Nodup) (kind : StringValidatorKind) :
    findLength? others kind = findLength? validators kind := by
  rw [findLength?, findLength?, find?_perm same distinct]

theorem checkStrings_perm (same : others.Perm validators)
    (distinct : (kinds (·.kind) validators).Nodup) :
    checkStrings others = checkStrings validators := by
  have distinct' : (kinds (·.kind) others).Nodup := (kinds_perm same).nodup_iff.2 distinct
  rw [checkStrings, checkStrings, checkRepeated_of_nodup distinct, checkRepeated_of_nodup distinct',
    findLength?_perm same distinct, findLength?_perm same distinct]

theorem redundancy_perm (same : others.Perm validators)
    (distinct : (kinds (·.kind) validators).Nodup) :
    redundancy others = redundancy validators := by
  rw [redundancy, redundancy, find?_perm same distinct, findLength?_perm same distinct]

/-- Where a kind is repeated, validators of strings are refused for it. -/
theorem exists_duplicate_of_checkStrings (repeats : ¬ (kinds (·.kind) validators).Nodup) :
    ∃ fault, checkStrings validators = .error fault ∧ fault.cause.category = .duplicate := by
  rcases exists_firstRepeated repeats with ⟨validator, repeated⟩
  exact ⟨_, repeated.checkStrings_eq, rfl⟩

end

/-- The guard with its validators in another order. -/
def reordered (places : List Nat) : Guard → Guard
  | string items =>
    string { items with validators := GuardLang.reordered places items.validators }
  | integer type items =>
    integer type { items with validators := GuardLang.reordered places items.validators }
  | float type items =>
    float type { items with validators := GuardLang.reordered places items.validators }

end Guard

/-! ## Guards in other orders -/

namespace RawGuard

/-- The number of validators of a guard. -/
def validatorCount : RawGuard → Nat
  | string items => items.validators.length
  | integer _ items => items.validators.length
  | float _ items => items.validators.length

/-- No kind of validator is repeated. -/
def Distinct : RawGuard → Prop
  | string items => (Guard.kinds (·.kind) items.validators).Nodup
  | integer _ items => (Guard.kinds (·.kind) items.validators).Nodup
  | float _ items => (Guard.kinds (·.kind) items.validators).Nodup

/-- The guard with its validators in another order. -/
def reordered (places : List Nat) : RawGuard → RawGuard
  | string items =>
    string { items with validators := GuardLang.reordered places items.validators }
  | integer type items =>
    integer type { items with validators := GuardLang.reordered places items.validators }
  | float type items =>
    float type { items with validators := GuardLang.reordered places items.validators }

variable {raw : RawGuard} {places : List Nat}

theorem distinct_reordered_iff (all : places.Perm (List.range raw.validatorCount)) :
    (raw.reordered places).Distinct ↔ raw.Distinct := by
  cases raw <;> exact (Guard.kinds_perm (reordered_perm all)).nodup_iff

/-- Where no kind is repeated, the order of the validators is kept and plays no other
part. -/
theorem check_reordered_of_distinct (all : places.Perm (List.range raw.validatorCount))
    (distinct : raw.Distinct) :
    (raw.reordered places).check = (raw.check.1, raw.check.2.map (·.reordered places)) := by
  cases raw with
  | string items =>
      have same := reordered_perm all
      simp only [reordered, check, Guard.checkStrings_perm same distinct,
        Guard.redundancy_perm same distinct, same.length_eq]
      cases Guard.checkStrings items.validators with
      | error fault => rfl
      | ok => simp [Guard.reordered, RawItems.items, reordered_map, Except.map]
  | integer type items =>
      have same := reordered_perm all
      simp only [reordered, check, Guard.checkNumeric_perm same distinct, same.length_eq]
      cases Guard.checkNumeric Limit.emptyDiscrete items.validators with
      | error fault => rfl
      | ok => simp [Guard.reordered, RawItems.items, reordered_map, Except.map]
  | float type items =>
      have same := reordered_perm all
      simp only [reordered, check, Guard.checkNumeric_perm same distinct, same.length_eq]
      cases Guard.checkNumeric Limit.emptyDense items.validators with
      | error fault => rfl
      | ok => simp [Guard.reordered, RawItems.items, reordered_map, Except.map]

/-- Where a kind is repeated, a guard is refused for it. -/
theorem exists_duplicate (repeats : ¬ raw.Distinct) :
    ∃ fault, raw.check.2 = .error fault ∧ fault.cause.category = .duplicate := by
  cases raw with
  | string items =>
      rcases Guard.exists_duplicate_of_checkStrings repeats with ⟨fault, refused, category⟩
      exact ⟨fault, by rw [check_string, refused]; rfl, category⟩
  | integer type items =>
      rcases @Guard.exists_duplicate_of_checkNumeric _ _ _ Limit.emptyDiscrete repeats with
        ⟨fault, refused, category⟩
      exact ⟨fault, by rw [check_integer, refused]; rfl, category⟩
  | float type items =>
      rcases @Guard.exists_duplicate_of_checkNumeric _ _ _ Limit.emptyDense repeats with
        ⟨fault, refused, category⟩
      exact ⟨fault, by rw [check_float, refused]; rfl, category⟩

end RawGuard

/-- Validators are not ordered: a guard with its validators in another order is
accepted if and only if the guard itself is, with the same sanitizers, with its
validators in that order and with the same records; or both are refused in the same
category, and for the same cause at the same place unless a kind is repeated. -/
theorem check_reordered (raw : RawGuard) {places : List Nat}
    (all : places.Perm (List.range raw.validatorCount)) :
    (∃ guard, raw.check.2 = .ok guard ∧
      (raw.reordered places).check = (raw.check.1, .ok (guard.reordered places))) ∨
    ∃ fault fault', raw.check.2 = .error fault ∧
      (raw.reordered places).check.2 = .error fault' ∧
      fault'.cause.category = fault.cause.category ∧ (raw.Distinct → fault' = fault) := by
  by_cases distinct : raw.Distinct
  · have moved := RawGuard.check_reordered_of_distinct all distinct
    cases judged : raw.check.2 with
    | ok guard =>
        left
        refine ⟨guard, rfl, ?_⟩
        rw [moved, judged]
        rfl
    | error fault =>
        right
        refine ⟨fault, fault, rfl, ?_, rfl, fun _ => rfl⟩
        rw [moved, judged]
        rfl
  · right
    rcases RawGuard.exists_duplicate distinct with ⟨fault, refused, category⟩
    rcases RawGuard.exists_duplicate (mt (RawGuard.distinct_reordered_iff all).1 distinct) with
      ⟨fault', refused', category'⟩
    exact ⟨fault, fault', refused, refused', category'.trans category.symm,
      fun impossible => absurd impossible distinct⟩

/-- Two bounds with no integer between them, in both orders. -/
theorem check_reordered_crossed :
    ∃ fault,
      (RawGuard.integer .i8 { validators :=
        [⟨{ kind := .greater, value := some 4 }, ⟨9, 20, 1, 10⟩⟩,
          ⟨{ kind := .less, value := some 5 }, ⟨22, 30, 1, 23⟩⟩] }).check.2 = .error fault ∧
      (RawGuard.integer .i8 { validators :=
        [⟨{ kind := .less, value := some 5 }, ⟨22, 30, 1, 23⟩⟩,
          ⟨{ kind := .greater, value := some 4 }, ⟨9, 20, 1, 10⟩⟩] }).check.2 = .error fault := by
  have moved := check_reordered (RawGuard.integer .i8 { validators :=
    [⟨{ kind := .greater, value := some 4 }, ⟨9, 20, 1, 10⟩⟩,
      ⟨{ kind := .less, value := some 5 }, ⟨22, 30, 1, 23⟩⟩] }) (List.Perm.swap 0 1 [])
  rcases moved with ⟨guard, accepted, _⟩ | ⟨fault, fault', refused, refused', _, same⟩
  · cases accepted
  · cases same (by simp [RawGuard.Distinct, Guard.kinds])
    exact ⟨fault, refused, refused'⟩

end GuardLang

import GuardLang.Proofs.Declaration.Accepted
import GuardLang.Proofs.Guard.Consistent

/-!
# Accepted annotations are well formed

What an accepted annotation declares needs no further checks: its guard belongs to
the family, every item has exactly what its kind calls for, the validators do not
contradict each other, numbers are in the range of their type, and nothing is used
that has not been enabled.

Main statement: `parse_wellFormed`.
-/

namespace GuardLang

/-! ## Well-formed declarations -/

/-- Items of a string type that belong together. -/
structure Guard.StringsWellFormed (enabled : Capabilities)
    (items : Items StringSanitizer StringValidator) : Prop where
  sanitizers : ∀ sanitizer ∈ items.sanitizers, sanitizer.Fits .custom "String".toList
  validators : ∀ validator ∈ items.validators, validator.Fits enabled
  distinct : (items.validators.map (·.kind)).Nodup
  lengths : ∀ least ∈ items.validators, ∀ most ∈ items.validators, least.kind = .minLen →
    most.kind = .maxLen → ∀ low ∈ least.length, ∀ high ∈ most.length, low ≤ high

/-- Items of a number type that belong together.  Only some types can be checked to
be finite. -/
structure Guard.NumbersWellFormed {α : Type} (inRange : α → Prop) (inputType : Text)
    (finite : Prop) (items : Items NumericSanitizer (NumericValidator α)) : Prop where
  sanitizers : ∀ sanitizer ∈ items.sanitizers, sanitizer.Fits .custom inputType
  validators : ∀ validator ∈ items.validators, validator.Fits inRange inputType finite
  consistent : Guard.NumericConsistent (items.validators.map (·.kind))

/-- A guard of the family whose items belong together.  Bounds of integers leave at
least one integer. -/
inductive Guard.WellFormed (enabled : Capabilities) : Family → Guard → Prop
  | string {items : Items StringSanitizer StringValidator} :
      Guard.StringsWellFormed enabled items → WellFormed enabled .string (.string items)
  | integer {type : IntegerType} {items : Items NumericSanitizer (NumericValidator Int)} :
      Guard.NumbersWellFormed type.InRange type.word.toList False items →
      ((∃ lower ∈ items.validators, lower.kind.isLower = true) →
        (∃ upper ∈ items.validators, upper.kind.isUpper = true) →
        ∃ number : Int, ∀ validator ∈ items.validators, validator.Admits number) →
      WellFormed enabled (.integer type) (.integer type items)
  | float {type : FloatType} {items : Items NumericSanitizer (NumericValidator Binary64)} :
      Guard.NumbersWellFormed type.InRange type.word.toList True items →
      WellFormed enabled (.float type) (.float type items)

/-- A declaration that needs no further checks. -/
structure Declaration.WellFormed (family : Family) (enabled : Capabilities)
    (declaration : Declaration) : Prop where
  guard : declaration.guard.WellFormed enabled family
  newUnchecked : declaration.newUnchecked = true → enabled.allows .newUnchecked = true
  defaultValue : ∀ value ∈ declaration.defaultValue, value.item.Fits family

/-! ## Items without their spans -/

/-- The kinds of validators are the same without spans. -/
theorem map_kind_items {κ V : Type} (kind : V → κ) (validators : List (Spanned V)) :
    (validators.map (·.item)).map kind = Guard.kinds kind validators :=
  List.map_map

section

variable {enabled : Capabilities}

theorem stringsWellFormed_of_check {items : RawItems StringSanitizer StringValidator}
    (sanitizers : ∀ item ∈ items.sanitizers, item.item.Fits .custom "String".toList)
    (validators : ∀ item ∈ items.validators, item.item.Fits enabled)
    (accepted : Guard.checkStrings items.validators = .ok ()) :
    Guard.StringsWellFormed enabled items.items := by
  obtain ⟨distinct, lengths⟩ := Guard.checkStrings_eq_ok_iff.1 accepted
  refine ⟨List.forall_mem_map.2 sanitizers, List.forall_mem_map.2 validators, ?_, ?_⟩
  · exact (map_kind_items _ _).symm ▸ distinct
  · intro least least_mem most most_mem isLeast isMost low low_eq high high_eq
    obtain ⟨first, first_mem, rfl⟩ := List.mem_map.1 least_mem
    obtain ⟨second, second_mem, rfl⟩ := List.mem_map.1 most_mem
    have findLeast := (Guard.findLength?_eq_some_iff distinct).2
      ⟨first, first_mem, isLeast, low, low_eq, rfl⟩
    have findMost := (Guard.findLength?_eq_some_iff distinct).2
      ⟨second, second_mem, isMost, high, high_eq, rfl⟩
    exact lengths _ findLeast _ findMost

theorem numbersWellFormed_of_check {α : Type} [Quantity α] {inRange : α → Prop}
    {inputType : Text} {finite : Prop} {isEmpty : Limit α → Limit α → Bool}
    {items : RawItems NumericSanitizer (NumericValidator α)}
    (sanitizers : ∀ item ∈ items.sanitizers, item.item.Fits .custom inputType)
    (validators : ∀ item ∈ items.validators, item.item.Fits inRange inputType finite)
    (accepted : Guard.checkNumeric isEmpty items.validators = .ok ()) :
    Guard.NumbersWellFormed inRange inputType finite items.items := by
  refine ⟨List.forall_mem_map.2 sanitizers, List.forall_mem_map.2 validators, ?_⟩
  exact (map_kind_items _ _).symm ▸ (Guard.checkNumeric_eq_ok_iff.1 accepted).1

/-- Bounds in both directions leave an integer. -/
theorem exists_admitted_of_check {inRange : Int → Prop} {inputType : Text} {finite : Prop}
    {items : RawItems NumericSanitizer (NumericValidator Int)}
    (validators : ∀ item ∈ items.validators, item.item.Fits inRange inputType finite)
    (accepted : Guard.checkNumeric Limit.emptyDiscrete items.validators = .ok ()) :
    (∃ lower ∈ items.items.validators, lower.kind.isLower = true) →
      (∃ upper ∈ items.items.validators, upper.kind.isUpper = true) →
      ∃ number : Int, ∀ validator ∈ items.items.validators, validator.Admits number := by
  rintro ⟨_, member, isLower⟩ ⟨_, member', isUpper⟩
  obtain ⟨lower, lower_mem, rfl⟩ := List.mem_map.1 member
  obtain ⟨upper, upper_mem, rfl⟩ := List.mem_map.1 member'
  obtain ⟨low, low_eq, _⟩ := (validators lower lower_mem).exists_value (.inl isLower)
  obtain ⟨high, high_eq, _⟩ := (validators upper upper_mem).exists_value (.inr isUpper)
  obtain ⟨consistent, _⟩ := Guard.checkNumeric_eq_ok_iff.1 accepted
  have findLower := consistent.single_isLower.findBound?_eq_some_iff.2
    ⟨lower, lower_mem, isLower, low, low_eq, rfl⟩
  have findUpper := consistent.single_isUpper.findBound?_eq_some_iff.2
    ⟨upper, upper_mem, isUpper, high, high_eq, rfl⟩
  obtain ⟨number, admitted⟩ := Guard.exists_between accepted findLower findUpper
  exact ⟨number, List.forall_mem_map.2 admitted⟩

end

/-- What an annotation of any family declares, if it is accepted, is well formed. -/
theorem parse_wellFormed {source : Text} {family : Family} {enabled : Capabilities}
    {declaration : Declaration}
    (parsed : (Declaration.parse source family enabled).2 = .ok declaration) :
    declaration.WellFormed family enabled := by
  cases family with
  | string =>
      obtain ⟨draft, meets, accepted, rfl⟩ := Declaration.exists_strings parsed
      refine ⟨.string ?_, meets.newUnchecked, ?_⟩
      · exact stringsWellFormed_of_check meets.sanitizers meets.validators accepted
      · intro value given
        obtain ⟨literal, _, rfl⟩ := Option.map_eq_some_iff.1 given
        exact .text
  | integer type =>
      obtain ⟨draft, meets, accepted, rfl⟩ := Declaration.exists_integers parsed
      refine ⟨.integer ?_ ?_, meets.newUnchecked, ?_⟩
      · exact numbersWellFormed_of_check meets.sanitizers meets.validators accepted
      · exact exists_admitted_of_check meets.validators accepted
      · intro value given
        obtain ⟨literal, read, rfl⟩ := Option.map_eq_some_iff.1 given
        exact .integer (meets.defaultValue literal read)
  | float type =>
      obtain ⟨draft, meets, accepted, rfl⟩ := Declaration.exists_floats parsed
      refine ⟨.float ?_, meets.newUnchecked, ?_⟩
      · exact numbersWellFormed_of_check meets.sanitizers meets.validators accepted
      · intro value given
        obtain ⟨literal, read, rfl⟩ := Option.map_eq_some_iff.1 given
        exact .float (meets.defaultValue literal read)

/-- Functions for strings in both slots, a path and a closure with a typed parameter, and two
strict bounds that leave a single number. -/
theorem parse_wellFormed_functions :
    (∃ declaration,
      (Declaration.parse
        "sanitize(trim, with = text::fold), validate(max_len = 3, with = |s: &str| f(s, 1))".toList
        .string {}).2 = .ok declaration ∧
      declaration.WellFormed .string {}) ∧
    ∃ declaration,
      (Declaration.parse
        "validate(greater = -2, less = 0, with = |n| f(n, 1)), default = -128, new_unchecked".toList
        (.integer .i8) { newUnchecked := true }).2 = .ok declaration ∧
      declaration.WellFormed (.integer .i8) { newUnchecked := true } := by
  constructor
  · have parsed : (Declaration.parse
        "sanitize(trim, with = text::fold), validate(max_len = 3, with = |s: &str| f(s, 1))".toList
        .string {}).2 =
          .ok
            { guard := .string
                { sanitizers :=
                    [{ kind := .trim },
                      { kind := .custom
                        function := some
                          { form := .path, path := some "text::fold".toList
                            inputType := "String".toList } }]
                  validators :=
                    [{ kind := .maxLen, length := some 3 },
                      { kind := .custom
                        function := some
                          { form := .closure, param := some "s".toList
                            body := some "f(s, 1)".toList, inputType := "&str".toList } }] }
              newUnchecked := false
              defaultValue := none } := by
      decide +kernel
    exact ⟨_, parsed, parse_wellFormed parsed⟩
  · have parsed : (Declaration.parse
        "validate(greater = -2, less = 0, with = |n| f(n, 1)), default = -128, new_unchecked".toList
        (.integer .i8) { newUnchecked := true }).2 =
          .ok
            { guard := .integer .i8
                { validators :=
                    [{ kind := .greater, value := some (-2) }, { kind := .less, value := some 0 },
                      { kind := .custom
                        function := some
                          { form := .closure, param := some "n".toList
                            body := some "f(n, 1)".toList, inputType := "i8".toList } }] }
              newUnchecked := true
              defaultValue := some ⟨.number (.integer (-128)), ⟨64, 68, 1, 65⟩⟩ } := by
      decide +kernel
    exact ⟨_, parsed, parse_wellFormed parsed⟩

end GuardLang

import GuardLang.Guard
import GuardLang.Guard.Range
import GuardLang.Log

/-!
# Consistency of guards

A guard is refused if a kind of validator is repeated, if a bound is given both
with and without itself, or if the bounds leave no value, in this order.  What
is accepted keeps its items in their order.

A validator without the number that its kind calls for takes part in none of
the checks on numbers: it is passed over silently, where comparing what it lacks
would be an error of the caller.  Only a validator put together by hand can lack
its number, as the grammar makes none without it (`Rule.Annotated.meets`).
-/

namespace GuardLang.Guard

variable {κ V : Type} [DecidableEq κ] [Keyword κ]

/-! ## Checks for all families -/

/-- Refuse the first validator whose kind is among `seen` or occurs before it. -/
def checkRepeated (kind : V → κ) (seen : List κ) : List (Spanned V) → Except Fault Unit
  | [] => .ok ()
  | validator :: rest =>
    if kind validator.item ∈ seen then
      .error (.located (.repeatedValidator (Keyword.name (kind validator.item))) validator.span)
    else checkRepeated kind (kind validator.item :: seen) rest

/-- The first validator of a kind. -/
def find? (kind : V → κ) (validators : List (Spanned V)) (wanted : κ) : Option (Spanned V) :=
  validators.find? fun validator => kind validator.item == wanted

/-- Refuse two kinds that exclude each other, at the one that stands later. -/
def checkExclusive (kind : V → κ) (validators : List (Spanned V)) (first second : κ) :
    Except Fault Unit :=
  match find? kind validators first, find? kind validators second with
  | some a, some b =>
    let later := if b.span.start < a.span.start then a else b
    .error (.located (.exclusiveValidators (Keyword.name first) (Keyword.name second)) later.span)
  | _, _ => .ok ()

/-! ## Numbers -/

/-- The first validator that a condition on its kind holds for, with its number.
If this validator has none, it is passed over without an error and there is no
bound. -/
def findBound? {α : Type} (condition : NumericValidatorKind → Bool)
    (validators : List (Spanned (NumericValidator α))) :
    Option (Spanned (NumericValidatorKind × α)) :=
  (validators.find? fun validator => condition validator.item.kind).bind fun validator =>
    validator.item.value.map fun value => ⟨(validator.item.kind, value), validator.span⟩

/-- A bound as messages write it. -/
def writtenBound {α : Type} [Quantity α] (bound : NumericValidatorKind × α) : String :=
  Keyword.name bound.1 ++ " = " ++ Quantity.written bound.2

/-- Check the validators of numbers; `isEmpty` tells whether two bounds leave no
value. -/
def checkNumeric {α : Type} [Quantity α] (isEmpty : Limit α → Limit α → Bool)
    (validators : List (Spanned (NumericValidator α))) : Except Fault Unit := do
  checkRepeated (·.kind) [] validators
  checkExclusive (·.kind) validators .greater .greaterOrEqual
  checkExclusive (·.kind) validators .less .lessOrEqual
  match findBound? (·.isLower) validators, findBound? (·.isUpper) validators with
  | some lower, some upper =>
    if isEmpty ⟨lower.item.2, lower.item.1.isStrict⟩ ⟨upper.item.2, upper.item.1.isStrict⟩ then
      .error (.located (.emptyRange (writtenBound lower.item) (writtenBound upper.item))
        (lower.span.join upper.span))
    else .ok ()
  | _, _ => .ok ()

/-! ## Strings -/

/-- The first length of a kind.  If the first validator of the kind has none, it is
passed over without an error and there is no length. -/
def findLength? (validators : List (Spanned StringValidator)) (kind : StringValidatorKind) :
    Option (Spanned Int) :=
  (find? (·.kind) validators kind).bind fun validator =>
    validator.item.length.map fun length => ⟨length, validator.span⟩

/-- Check the validators of strings. -/
def checkStrings (validators : List (Spanned StringValidator)) : Except Fault Unit := do
  checkRepeated (·.kind) [] validators
  match findLength? validators .minLen, findLength? validators .maxLen with
  | some least, some most =>
    if most.item < least.item then
      .error (.located .crossedLengths (least.span.join most.span))
    else .ok ()
  | _, _ => .ok ()

/-- A warning if a positive least length makes the check for empty strings
redundant. -/
def redundancy (validators : List (Spanned StringValidator)) : Log :=
  match find? (·.kind) validators .notEmpty, findLength? validators .minLen with
  | some notEmpty, some least =>
    if 1 ≤ least.item then
      [⟨.warning, "`not_empty` at " ++ notEmpty.span.place ++ " is redundant with `min_len = " ++
        toString least.item ++ "`"⟩]
    else []
  | _, _ => []

end GuardLang.Guard

namespace GuardLang.RawGuard

/-- The record of a guard for strings. -/
def stringsBuilt (sanitizers validators : Nat) : Record :=
  ⟨.debug, "Built string guard with " ++ toString sanitizers ++ " sanitizers and " ++
    toString validators ++ " validators"⟩

/-- The record of a guard for numbers of the type with the given name. -/
def numbersBuilt (type : String) (validators : Nat) : Record :=
  ⟨.debug, "Built " ++ type ++ " guard with " ++ toString validators ++ " validators"⟩

/-- Check a guard: what is recorded, and the guard or why it is refused. -/
def check : RawGuard → Log × Except Fault Guard
  | string items =>
    match Guard.checkStrings items.validators with
    | .error fault => ([], .error fault)
    | .ok () =>
      (Guard.redundancy items.validators ++
        [stringsBuilt items.sanitizers.length items.validators.length],
        .ok (.string items.items))
  | integer type items =>
    match Guard.checkNumeric Limit.emptyDiscrete items.validators with
    | .error fault => ([], .error fault)
    | .ok () =>
      ([numbersBuilt type.name items.validators.length], .ok (.integer type items.items))
  | float type items =>
    match Guard.checkNumeric Limit.emptyDense items.validators with
    | .error fault => ([], .error fault)
    | .ok () =>
      ([numbersBuilt type.name items.validators.length], .ok (.float type items.items))

end GuardLang.RawGuard

/-!
# Keywords

The closed lists of keywords of the language.  Each list is a type; the way its
values are written is given by an instance of `Keyword`, so that looking up what
stands in an annotation and listing what could stand there read the same table.
-/

namespace GuardLang

/-- A type whose values are the keywords of some list. -/
class Keyword (κ : Type) where
  /-- All keywords, in the order in which messages list them. -/
  all : List κ
  /-- A keyword as it is written. -/
  name : κ → String

namespace Keyword

variable {κ : Type} [Keyword κ]

/-- The keyword among `known` that is written like this. -/
def find? (known : List κ) (written : String) : Option κ :=
  known.find? fun kind => name kind == written

/-- The keyword that is written like this. -/
def ofName? (written : String) : Option κ := find? all written

/-- A keyword that is found is known and written like what was looked up. -/
theorem mem_and_name_of_find? {known : List κ} {written : String} {kind : κ}
    (h : find? known written = some kind) : kind ∈ known ∧ name kind = written :=
  ⟨List.mem_of_find?_eq_some h, by simpa using List.find?_some h⟩

/-- Nothing is found exactly when no known keyword is written like this. -/
theorem find?_eq_none_iff {known : List κ} {written : String} :
    find? known written = none ↔ ∀ kind ∈ known, name kind ≠ written := by
  simp [find?, List.find?_eq_none]

end Keyword

/-- The options of an annotation. -/
inductive OptionKind where
  | sanitize
  | validate
  | default
  | newUnchecked
  deriving DecidableEq, Repr

instance : Keyword OptionKind where
  all := [.sanitize, .validate, .default, .newUnchecked]
  name
    | .sanitize => "sanitize"
    | .validate => "validate"
    | .default => "default"
    | .newUnchecked => "new_unchecked"

end GuardLang

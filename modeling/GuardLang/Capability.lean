import GuardLang.Text.Quoted

/-!
# Capabilities

Two keywords of the language are refused unless the caller has enabled them:
the `regex` validator and the `new_unchecked` option.
-/

namespace GuardLang

/-- Something a caller may enable. -/
inductive Capability where
  | regex
  | newUnchecked
  deriving DecidableEq, Repr

namespace Capability

/-- The keyword that a capability allows. -/
def name : Capability → String
  | regex => "regex"
  | newUnchecked => "new_unchecked"

/-- The capability with a given name. -/
def ofName? (name : String) : Option Capability :=
  [regex, newUnchecked].find? fun capability => capability.name == name

/-- What to do about a capability that is missing. -/
def hint : Capability → String
  | regex =>
    "To validate string types with regex, enable the `regex` capability.\n" ++
    "IMPORTANT: the generated crate must EXPLICITLY depend on the `regex` " ++
    "and `lazy_static` crates."
  | newUnchecked =>
    "To generate an unchecked constructor, enable the `new_unchecked` capability."

/-- The message for the use of a keyword whose capability, given by name, is not
enabled. -/
def refusal (name hint : String) : String :=
  "The `" ++ name ++ "` capability must be enabled to use this option.\n" ++ hint

end Capability

/-- The capabilities that are enabled for one annotation. -/
structure Capabilities where
  regex : Bool := false
  newUnchecked : Bool := false
  deriving DecidableEq, Repr

namespace Capabilities

/-- Whether a capability is enabled. -/
def allows (enabled : Capabilities) : Capability → Bool
  | .regex => enabled.regex
  | .newUnchecked => enabled.newUnchecked

/-- Enable one more capability. -/
def enable (enabled : Capabilities) : Capability → Capabilities
  | .regex => { enabled with regex := true }
  | .newUnchecked => { enabled with newUnchecked := true }

/-- The capabilities with the given names, or the first name that belongs to
none. -/
def ofNames (names : List String) : Except String Capabilities :=
  names.foldlM (fun enabled name =>
    match Capability.ofName? name with
    | some capability => .ok (enabled.enable capability)
    | none => .error name) {}

/-- The message for a name that belongs to no capability. -/
def unknownName (name : String) : String :=
  "Unknown capability " ++ String.ofList (Text.quoted name.toList) ++
    " (known: new_unchecked, regex)"

end Capabilities

end GuardLang

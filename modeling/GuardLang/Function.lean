import GuardLang.Fault
import GuardLang.Text.Blank

/-!
# Function references

Custom sanitizers and validators name a function, by a path or as a closure
written in place.  A reference is checked against the type that its slot hands
to the function, and is otherwise kept as text.
-/

namespace GuardLang

/-- How a function is referred to. -/
inductive FunctionForm where
  | path
  | closure
  deriving DecidableEq, Repr

namespace FunctionForm

/-- The name of a form. -/
def name : FunctionForm → String
  | path => "path"
  | closure => "closure"

/-- The form with a given name. -/
def ofName? (name : String) : Option FunctionForm :=
  [path, closure].find? fun form => form.name == name

end FunctionForm

/-- A function reference as it stands in an annotation. -/
structure FunctionRef where
  form : FunctionForm
  path : Option Text := none
  param : Option Text := none
  paramType : Option Text := none
  body : Option Text := none
  span : Span
  deriving DecidableEq, Repr

/-- A function reference with the type that its slot hands to it. -/
structure BoundFunction where
  form : FunctionForm
  path : Option Text := none
  param : Option Text := none
  body : Option Text := none
  inputType : Text
  deriving DecidableEq, Repr

namespace FunctionRef

/-- Bind a function to the type its slot hands to it.  A closure that gives its
parameter a type has to give it that one, blanks apart. -/
def bind (function : FunctionRef) (expected : Text) : Except Fault BoundFunction :=
  let bound : BoundFunction :=
    { form := function.form, path := function.path, param := function.param,
      body := function.body, inputType := expected }
  match function.paramType with
  | none => .ok bound
  | some actual =>
    if actual.withoutBlanks = expected.withoutBlanks then .ok bound
    else .error (.located (.functionMismatch expected actual) function.span)

/-- A part that may be missing, as written. -/
def part (text : Option Text) : Text := text.getD "None".toList

/-- The type of a closure's parameter as written behind it. -/
def typeSuffix (function : FunctionRef) : Text :=
  match function.paramType with
  | none | some [] => []
  | some type => ':' :: ' ' :: type

/-- A function reference as written. -/
def written (function : FunctionRef) : Text :=
  match function.form with
  | .path => function.path.getD []
  | .closure =>
    '|' :: part function.param ++ function.typeSuffix ++ '|' :: ' ' :: part function.body

end FunctionRef

end GuardLang

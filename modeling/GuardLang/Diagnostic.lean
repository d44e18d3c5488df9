import GuardLang.Span

/-!
# Diagnostics

A diagnostic is an error as the user sees it: its category, its message and the
span it is about.  `Diagnostic.render` shows the line of the annotation that the
span starts on with a row of carets under the text in question.

Categories form a tree.  Handlers that catch a category also catch the ones
below it.
-/

namespace GuardLang

/-- The categories of errors. -/
inductive Category where
  /-- Any error in an annotation. -/
  | general
  /-- The annotation does not follow the grammar. -/
  | grammar
  /-- A keyword that the grammar does not know. -/
  | unknownOption
  /-- A literal or function that does not fit its slot. -/
  | typeMismatch
  /-- A keyword whose capability, named here, is not enabled. -/
  | capability (name : String)
  /-- Validators that contradict each other. -/
  | consistency
  /-- A repeated or ambiguous validator. -/
  | duplicate
  /-- Bounds that leave no value. -/
  | range
  /-- A grammar rule was applied where it must not be. -/
  | contract
  /-- A caller asked for a number type that does not exist. -/
  | unknownType
  deriving DecidableEq, Repr

namespace Category

/-- The categories above, nearest first. -/
def ancestors : Category → List Category
  | unknownOption | typeMismatch | capability _ => [grammar, general]
  | duplicate | range => [consistency, general]
  | grammar | consistency => [general]
  | general | contract | unknownType => []

/-- Whether a category lies within `other`. -/
def within (category other : Category) : Bool :=
  category == other || category.ancestors.contains other

end Category

/-- An error as it is shown. -/
structure Diagnostic where
  category : Category
  message : String
  span : Option Span
  deriving DecidableEq, Repr

namespace Span

/-- What stands in front of the source line: its number, right-aligned in four
columns, and a bar. -/
def margin (span : Span) : Text :=
  let digits := (toString span.line).toList
  List.replicate (4 - digits.length) ' ' ++ digits ++ [' ', '|', ' ']

/-- The line of the source on which a span starts.  Lines are counted from one;
a line past the end is empty, and line zero is the last one. -/
def sourceLine (span : Span) (source : Text) : Text :=
  if span.line = 0 then source.lines.getLastD [] else source.lines.getD (span.line - 1) []

/-- The number of carets: one for each character of the span on its first line,
and at least one. -/
def markerWidth (span : Span) (source : Text) : Nat :=
  max 1 (min (span.stop - span.start) ((span.sourceLine source).length + 1 - span.column))

/-- The source line behind its margin. -/
def snippet (span : Span) (source : Text) : Text := span.margin ++ span.sourceLine source

/-- The carets under the text that a span covers. -/
def marker (span : Span) (source : Text) : Text :=
  List.replicate (span.margin.length + span.column - 1) ' ' ++
    List.replicate (span.markerWidth source) '^'

end Span

namespace Diagnostic

/-- The message behind its line and column. -/
def text (diagnostic : Diagnostic) : String :=
  match diagnostic.span with
  | some span => span.place ++ ": " ++ diagnostic.message
  | none => diagnostic.message

/-- The message below the place it is about: the name of the origin with line
and column, the source line, and the carets. -/
def render (diagnostic : Diagnostic) (source : Text) (origin : String) : String :=
  match diagnostic.span with
  | some span =>
    "\n".intercalate
      [origin ++ ":" ++ span.place, String.ofList (span.snippet source),
       String.ofList (span.marker source), diagnostic.message]
  | none => "\n".intercalate [origin, diagnostic.message]

end Diagnostic

end GuardLang

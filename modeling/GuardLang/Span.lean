import GuardLang.Text

/-!
# Positions and spans

A position is a place in an annotation, counted in characters from its start and
also as a line and a column.  A span is a range of characters together with the
line and column of its first one.  Every token, parsed item and error carries a
span, so a message can point at the text it is about.

`Position.walk` is the only way a position moves: over the characters of the
text it walks past.
-/

namespace GuardLang

/-- A place in a text: its offset from the start, and its line and column, both
counted from one. -/
structure Position where
  offset : Nat
  line : Nat
  column : Nat
  deriving DecidableEq, Repr

namespace Position

/-- The start of every text. -/
def start : Position := ⟨0, 1, 1⟩

/-- The place behind one character.  Only a newline begins a new line. -/
def step (place : Position) (c : Char) : Position :=
  if c = '\n' then ⟨place.offset + 1, place.line + 1, 1⟩
  else ⟨place.offset + 1, place.line, place.column + 1⟩

/-- The place behind a run of characters. -/
def walk (place : Position) (text : Text) : Position := text.foldl step place

@[simp] theorem walk_nil (place : Position) : place.walk [] = place := rfl

@[simp] theorem walk_cons (place : Position) (c : Char) (text : Text) :
    place.walk (c :: text) = (place.step c).walk text := rfl

/-- Walking past two texts in turn is walking past both at once. -/
theorem walk_append (place : Position) (first second : Text) :
    place.walk (first ++ second) = (place.walk first).walk second :=
  List.foldl_append

@[simp] theorem step_offset (place : Position) (c : Char) :
    (place.step c).offset = place.offset + 1 := by
  unfold step
  split <;> rfl

/-- Walking moves the offset by the number of characters. -/
@[simp] theorem walk_offset (place : Position) (text : Text) :
    (place.walk text).offset = place.offset + text.length := by
  induction text generalizing place with
  | nil => rfl
  | cons c rest ih => simp [ih, Nat.add_assoc, Nat.add_comm 1]

end Position

/-- A range of characters, with the line and column at which it starts. -/
structure Span where
  start : Nat
  stop : Nat
  line : Nat
  column : Nat
  deriving DecidableEq, Repr

namespace Span

/-- The span from a place up to the offset `stop`. -/
def upTo (place : Position) (stop : Nat) : Span :=
  ⟨place.offset, stop, place.line, place.column⟩

/-- The empty span at the start of a span. -/
def opening (span : Span) : Span := { span with stop := span.start }

/-- The smallest span that covers both.  Line and column come from the one that
starts first. -/
def join (a b : Span) : Span :=
  let first := if a.start ≤ b.start then a else b
  { first with stop := max a.stop b.stop }

/-- The characters of `source` that a span covers. -/
def text (span : Span) (source : Text) : Text := source.slice span.start span.stop

/-- Line and column as they are written in messages. -/
def place (span : Span) : String := toString span.line ++ ":" ++ toString span.column

@[simp] theorem join_start (a b : Span) : (a.join b).start = min a.start b.start := by
  unfold join
  dsimp only
  split <;> omega

@[simp] theorem join_stop (a b : Span) : (a.join b).stop = max a.stop b.stop := rfl

end Span

/-- Something read from an annotation, with the span of the text it came from. -/
structure Spanned (α : Type) where
  item : α
  span : Span
  deriving DecidableEq, Repr

namespace Spanned

/-- Change the item and keep the place. -/
def map {α β : Type} (f : α → β) (spanned : Spanned α) : Spanned β :=
  ⟨f spanned.item, spanned.span⟩

end Spanned

end GuardLang

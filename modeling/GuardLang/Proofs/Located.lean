import GuardLang.Span
import Mathlib.Data.List.Induction

/-!
# Located spans

A scanner counts lines and columns as it goes.  Here a line is counted the other
way round, by the newlines in front of an offset, and a column by the characters
since the last of them.  A span is located in a source if it lies inside it and
its line and column are what this count gives for its start.

The two counts agree on every text that is walked past from the start, and being
located survives the operations that make new spans from old ones.
-/

namespace GuardLang

/-! ## Slices -/

theorem Text.length_slice (source : Text) (start : Nat) {stop : Nat}
    (stop_le : stop ≤ source.length) : (source.slice start stop).length = stop - start := by
  rw [slice, List.length_drop, List.length_take, Nat.min_eq_left stop_le]

theorem Span.length_text {span : Span} {source : Text} (stop_le : span.stop ≤ source.length) :
    (span.text source).length = span.stop - span.start :=
  source.length_slice span.start stop_le

/-! ## Counting lines and columns -/

namespace Text

/-- The line of the place behind a text, counted by the newlines in it. -/
def lineAfter (passed : Text) : Nat :=
  1 + passed.count '\n'

/-- The column of the place behind a text, counted by the characters since its
last newline. -/
def columnAfter (passed : Text) : Nat :=
  1 + (passed.reverse.takeWhile (· != '\n')).length

end Text

namespace Position

/-- Walking past a text from the start counts its newlines. -/
theorem start_walk_line (passed : Text) :
    (start.walk passed).line = passed.lineAfter := by
  induction passed using List.reverseRecOn with
  | nil => rfl
  | append_singleton passed c ih =>
      rw [walk_append, walk_cons, walk_nil, step]
      by_cases newline : c = '\n'
      · subst newline
        simp [ih, Text.lineAfter, Nat.add_assoc]
      · simp [newline, ih, Text.lineAfter]

/-- Walking past a text from the start counts the characters since its last
newline. -/
theorem start_walk_column (passed : Text) :
    (start.walk passed).column = passed.columnAfter := by
  induction passed using List.reverseRecOn with
  | nil => rfl
  | append_singleton passed c ih =>
      rw [walk_append, walk_cons, walk_nil, step]
      by_cases newline : c = '\n'
      · subst newline
        simp [Text.columnAfter]
      · simp [newline, ih, Text.columnAfter, Nat.add_comm]

@[simp]
theorem start_offset : start.offset = 0 :=
  rfl

end Position

/-! ## Located spans -/

/-- A span lies inside a source, and its line and column are those of its
start. -/
structure Span.Located (source : Text) (span : Span) : Prop where
  start_le_stop : span.start ≤ span.stop
  stop_le_length : span.stop ≤ source.length
  line_eq : span.line = Text.lineAfter (source.take span.start)
  column_eq : span.column = Text.columnAfter (source.take span.start)

namespace Span.Located

variable {source : Text} {a b : Span}

/-- A span that begins where a scanner has walked to is located. -/
theorem upTo {passed rest : Text} {stop : Nat} (source_eq : source = passed ++ rest)
    (start_le : passed.length ≤ stop) (stop_le : stop ≤ source.length) :
    (Span.upTo (Position.start.walk passed) stop).Located source := by
  have taken : source.take passed.length = passed := by
    rw [source_eq, List.take_left]
  refine ⟨?_, stop_le, ?_, ?_⟩
  · simpa [Span.upTo] using start_le
  · simp [Span.upTo, taken, Position.start_walk_line]
  · simp [Span.upTo, taken, Position.start_walk_column]

/-- The span of two located spans is located. -/
theorem join (first : a.Located source) (second : b.Located source) :
    (a.join b).Located source := by
  have := first.start_le_stop
  have := second.start_le_stop
  have := first.stop_le_length
  have := second.stop_le_length
  by_cases order : a.start ≤ b.start
  · have joined : a.join b = { a with stop := max a.stop b.stop } := by
      simp [Span.join, order]
    rw [joined]
    exact ⟨by dsimp only; omega, by dsimp only; omega, first.line_eq, first.column_eq⟩
  · have joined : a.join b = { b with stop := max a.stop b.stop } := by
      simp [Span.join, order]
    rw [joined]
    exact ⟨by dsimp only; omega, by dsimp only; omega, second.line_eq, second.column_eq⟩

/-- The empty span at the start of a located span is located. -/
theorem opening (located : a.Located source) : a.opening.Located source :=
  ⟨Nat.le_refl _, Nat.le_trans located.start_le_stop located.stop_le_length,
    located.line_eq, located.column_eq⟩

end Span.Located

end GuardLang

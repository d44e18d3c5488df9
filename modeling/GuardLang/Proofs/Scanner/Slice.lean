import GuardLang.Proofs.Alike
import GuardLang.Proofs.Scanner.Lossless
import Mathlib.Data.List.Forall2

/-!
# Slices of a scan

A run of tokens covers a part of the source.  Scanned on its own, this part gives
the same tokens again: in front of the first one nothing is missing that a form
looks back at, and what is cut off behind the last one only ends its form sooner.
Their spans are counted from the start of the slice.

Main statements: `Lexed.exists_slice`, and `Lexed.exists_slice_at` for a slice that is put
elsewhere.
-/

namespace GuardLang

open Lexeme Text

/-! ## Spans in a slice -/

/-- A span that ends by a limit is near the span of the same characters counted from
an offset. -/
def Nearness.slice (offset limit : Nat) : Nearness where
  near first second := first.start = offset + second.start ∧ first.stop = offset + second.stop ∧
    first.start ≤ limit ∧ first.stop ≤ limit
  near_join := by
    intro first second other another one two
    simp only [Span.join_start, Span.join_stop]
    omega
  near_opening := by
    intro first second one
    exact ⟨one.1, one.1, one.2.2.1, one.2.2.1⟩
  near_later := by
    intro first second other another one two
    unfold Span.later
    split <;> split <;> omega

/-- A span has the same text in a source and in a slice of it. -/
theorem Span.text_slice {offset limit : Nat} {span other : Span}
    (near : (Nearness.slice offset limit).near span other) (source : Text) :
    span.text source = other.text (source.slice offset limit) := by
  rcases near with ⟨start_eq, stop_eq, _, stop_le⟩
  rw [stop_eq] at stop_le
  rw [Span.text, Span.text, Text.slice, Text.slice, Text.slice, start_eq, stop_eq, List.take_drop,
    List.take_take, Nat.min_eq_left stop_le, List.drop_drop]

/-! ## Tokens in a slice -/

/-- Tokens in front of others can be cut off together with their text. -/
theorem Lexed.exists_behind {place : Position} {text : Text} {before tokens : List Token}
    (lexed : Lexed place text (before ++ tokens)) :
    ∃ passed rest, text = passed ++ rest ∧ Lexed (place.walk passed) rest tokens := by
  induction before generalizing place text with
  | nil => exact ⟨[], text, rfl, lexed⟩
  | cons token before ih =>
      rw [List.cons_append] at lexed
      generalize same : token :: (before ++ tokens) = all at lexed
      cases lexed with
      | blank _ => cases same
      | @token _ gap written after lexeme _ _ _ behind =>
          cases same
          rcases ih behind with ⟨passed, rest, rfl, behind⟩
          refine ⟨gap ++ (written ++ passed), rest, by simp, ?_⟩
          rwa [Position.walk_append, Position.walk_append]

/-- The first token begins behind blanks. -/
theorem Lexed.exists_gap {place : Position} {text : Text} {first : Token} {tokens : List Token}
    (lexed : Lexed place text (first :: tokens)) :
    ∃ gap rest, text = gap ++ rest ∧ first.span.start = (place.walk gap).offset ∧
      Lexed (place.walk gap) rest (first :: tokens) := by
  cases lexed with
  | @token _ gap written after lexeme _ _ form behind =>
      have front : Text.Blank [] := by simp [Text.Blank]
      exact ⟨gap, written ++ after, rfl, rfl, @token _ [] _ _ _ _ front form behind⟩

/-- Tokens are found again, wherever their text stands, when the text behind them is
cut off. -/
theorem Lexed.exists_kept {place : Position} {text : Text} {run after : List Token}
    (lexed : Lexed place text (run ++ after)) (other : Position) :
    ∃ kept rest moved, text = kept ++ rest ∧ Lexed other kept moved ∧
      List.Forall₂ (Token.Alike fun span span' =>
        span.start + other.offset = place.offset + span'.start ∧
          span.stop + other.offset = place.offset + span'.stop) run moved ∧
      place.offset + kept.length =
        (run.getLast?.map fun last => last.span.stop).getD place.offset := by
  induction run generalizing place text other with
  | nil => exact ⟨[], text, [], rfl, .blank (by simp [Text.Blank]), .nil, rfl⟩
  | cons token run ih =>
      rw [List.cons_append] at lexed
      generalize same : token :: (run ++ after) = all at lexed
      cases lexed with
      | blank _ => cases same
      | @token _ gap written behind lexeme _ blank form lexed =>
          cases same
          rcases ih lexed ((other.walk gap).walk written) with
            ⟨kept, rest, moved, rfl, relexed, alike, ends⟩
          -- The form of the first token is cut where the last one ends.
          have cut := Clipped.of_append kept rest bounds_nil
          rw [List.append_nil] at cut
          refine ⟨gap ++ (written ++ kept), rest, _ :: moved, by simp,
            .token blank (form.clipped cut) relexed, .cons ⟨rfl, rfl, ?_⟩ ?_, ?_⟩
          · simp only [tokenAt_start, tokenAt_stop, Position.walk_offset]
            omega
          · refine alike.imp ?_
            rintro first second ⟨kind_eq, value_eq, start_eq, stop_eq⟩
            simp only [Position.walk_offset] at start_eq stop_eq
            exact ⟨kind_eq, value_eq, by omega, by omega⟩
          · rw [List.getLast?_cons]
            simp only [Position.walk_offset, List.length_append] at ends ⊢
            cases last : run.getLast? with
            | none =>
                rw [last] at ends
                simp only [Option.map_none, Option.map_some, Option.getD_none, Option.getD_some,
                  tokenAt_stop, Position.walk_offset] at ends ⊢
                omega
            | some final =>
                rw [last] at ends
                simp only [Option.map_some, Option.getD_some] at ends ⊢
                omega

/-- The part of a source that a run of tokens covers is scanned into the same tokens
wherever it stands. -/
theorem Lexed.exists_slice_at {source : Text} {tokens run : List Token} {span : Span}
    (lexed : Lexed .start source tokens) (among : run <:+: tokens)
    (covered : cover? run = some span) (other : Position) :
    span.start ≤ span.stop ∧ span.stop ≤ source.length ∧
      ∃ moved, Lexed other (span.text source) moved ∧
        List.Forall₂ (Token.Alike fun first second =>
          first.start + other.offset = span.start + second.start ∧
            first.stop + other.offset = span.start + second.stop) run moved := by
  rcases among with ⟨before, after, rfl⟩
  rw [List.append_assoc] at lexed
  rcases cover?_eq_some_iff.1 covered with ⟨first, last, first_eq, last_eq, rfl⟩
  rcases List.head?_eq_some_iff.1 first_eq with ⟨others, rfl⟩
  rcases lexed.exists_behind with ⟨passed, text, rfl, behind⟩
  rcases behind.exists_gap with ⟨gap, text, rfl, start_eq, behind⟩
  rcases @exists_kept _ _ (first :: others) after behind other with
    ⟨kept, rest, moved, rfl, relexed, alike, ends⟩
  rw [last_eq] at ends
  rw [← start_eq] at alike
  simp only [Position.walk_offset, Position.start_offset, Option.map_some,
    Option.getD_some] at start_eq ends
  have sliced : (first.span.through last.span).text (passed ++ (gap ++ (kept ++ rest))) = kept := by
    have whole : passed ++ (gap ++ (kept ++ rest)) = (passed ++ gap) ++ kept ++ rest := by simp
    have starts : first.span.start = (passed ++ gap).length := by
      simp only [List.length_append]
      omega
    have stops : last.span.stop = ((passed ++ gap) ++ kept).length := by
      simp only [List.length_append]
      omega
    rw [Span.text, Span.through, Text.slice, whole, starts, stops, List.take_left, List.drop_left]
  refine ⟨?_, ?_, moved, by rwa [sliced], alike⟩
  · change first.span.start ≤ last.span.stop
    omega
  · change last.span.stop ≤ _
    simp only [List.length_append]
    omega

/-- The part of a source that a run of tokens covers is scanned into the same tokens,
with spans counted from its start. -/
theorem Lexed.exists_slice {source : Text} {tokens run : List Token} {span : Span}
    (lexed : Lexed .start source tokens) (among : run <:+: tokens)
    (covered : cover? run = some span) :
    span.start ≤ span.stop ∧ span.stop ≤ source.length ∧
      ∃ moved, Lexed .start (span.text source) moved ∧
        List.Forall₂ (Token.Alike (Nearness.slice span.start span.stop).near) run moved := by
  rcases lexed.exists_slice_at among covered .start with
    ⟨start_le, stop_le, moved, relexed, alike⟩
  have ordered := lexed.ordered.sublist among.sublist
  rcases cover?_eq_some_iff.1 covered with ⟨first, last, _, last_eq, rfl⟩
  have bounded := (List.forall₂_and_left _ _).2 ⟨fun token member =>
    And.intro (ordered.proper token member) (ordered.stop_le_getLast member last_eq), alike⟩
  refine ⟨start_le, stop_le, moved, relexed, bounded.imp ?_⟩
  rintro token token' ⟨⟨proper, stop_le⟩, kind_eq, value_eq, same_start, same_stop⟩
  simp only [Position.start_offset, Nat.add_zero] at same_start same_stop
  refine ⟨kind_eq, value_eq, same_start, same_stop, ?_, stop_le⟩
  exact Nat.le_trans (Nat.le_of_lt proper) stop_le

end GuardLang

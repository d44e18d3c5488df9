import GuardLang.Proofs.Located
import GuardLang.Proofs.Scanner.Lexed
import GuardLang.Scanner.Call

/-!
# Scanners that are called

A scanner can be called in any order, from any place, and again after a fault.  Whatever
is called, the scanner goes on: it passes some more of the text, and keeps the tokens it
has found in front of those it finds (`Scanner.GoesOn`).

Main statement: all that a scanner says about its place is what a count of the text in
front of it gives, after any calls (`Scanner.calls_consistent`).
-/

namespace GuardLang.Scanner

open Lexeme

/-! ## Going on -/

/-- One scanner has come from another by passing some more of the same text, and has the
tokens of the other in front of its own. -/
structure GoesOn (scanner after : Scanner) : Prop where
  source_eq : after.source = scanner.source
  passed : ∃ text, scanner.rest = text ++ after.rest ∧ after.place = scanner.place.walk text
  recorded : scanner.tokens.toList <+: after.tokens.toList

namespace GoesOn

variable {first second third : Scanner}

theorem refl (scanner : Scanner) : GoesOn scanner scanner :=
  ⟨rfl, ⟨[], rfl, rfl⟩, List.prefix_rfl⟩

theorem trans (left : GoesOn first second) (right : GoesOn second third) :
    GoesOn first third := by
  rcases left.passed with ⟨front, ahead, place⟩
  rcases right.passed with ⟨back, ahead', place'⟩
  refine ⟨right.source_eq.trans left.source_eq, ⟨front ++ back, ?_, ?_⟩,
    left.recorded.trans right.recorded⟩
  · rw [ahead, ahead', List.append_assoc]
  · rw [place', place, Position.walk_append]

end GoesOn

variable (scanner : Scanner)

/-! ## Single steps -/

theorem goesOn_past {scanner : Scanner} {text rest : Text} (ahead : scanner.rest = text ++ rest) :
    GoesOn scanner (scanner.past text rest) :=
  ⟨rfl, ⟨text, ahead, rfl⟩, List.prefix_rfl⟩

theorem goesOn_skip (n : Nat) : GoesOn scanner (scanner.skip n) :=
  goesOn_past (List.take_append_drop n scanner.rest).symm

/-- Keeping account of brackets changes nothing else. -/
theorem goesOn_track (token : Token) : GoesOn scanner (scanner.track token).2 := by
  have still : ∃ opened, (scanner.track token).2 = { scanner with opened } := by
    unfold track
    repeat' split
    all_goals exact ⟨_, rfl⟩
  rcases still with ⟨opened, tracked⟩
  rw [tracked]
  exact ⟨rfl, ⟨[], rfl, rfl⟩, List.prefix_rfl⟩

theorem goesOn_push (token : Token) : GoesOn scanner (scanner.push token) := by
  refine ⟨rfl, ⟨[], rfl, rfl⟩, [token], ?_⟩
  simp [push]

theorem goesOn_record (token : Token) : GoesOn scanner (scanner.record token).2 := by
  have tracked := scanner.goesOn_track token
  unfold record
  generalize scanner.track token = outcome at tracked ⊢
  rcases outcome with ⟨fault | _, after⟩
  · exact tracked
  · exact tracked.trans (after.goesOn_push token)

/-- A step of a scan goes on, whether or not it finds a token. -/
theorem goesOn_next : GoesOn scanner scanner.next.2 := by
  rcases scanner.next_cases with blank | ⟨gap, written, lexeme, after, ahead, blank, form⟩ |
    ⟨gap, c, rest, misread, ahead, blank, visible, failed⟩
  · rw [next_of_blank blank]
    exact goesOn_past (List.append_nil _).symm
  · rw [next_of_form ahead blank form]
    rw [← List.append_assoc] at ahead
    exact (goesOn_past ahead).trans (goesOn_record _ _)
  · rw [next_of_misread ahead blank visible failed]
    exact (goesOn_past ahead).trans (goesOn_skip _ _)

theorem goesOn_finish : GoesOn scanner scanner.finish.2 := by
  unfold finish
  split
  · exact .refl scanner
  · exact scanner.goesOn_push _

/-- A scan to the end of the text goes on, also if a fault stops it on the way. -/
theorem goesOn_run : GoesOn scanner scanner.run.2 := by
  induction length : scanner.rest.length using Nat.strongRecOn generalizing scanner with
  | _ n ih =>
      have step := scanner.goesOn_next
      rcases found : scanner.next with ⟨fault | token, after⟩
      · rw [found] at step
        rw [run_of_next_error found]
        exact step
      · rw [found] at step
        cases token with
        | none =>
            rw [run_of_next_none found]
            exact step.trans after.goesOn_finish
        | some token =>
            rw [run_of_next_some found]
            exact step.trans (ih _ (length ▸ next_rest_length found) after rfl)

/-! ## Calls -/

/-- A scanner goes on whatever is called. -/
theorem goesOn_call (call : Call) : GoesOn scanner (scanner.call call).2 := by
  cases call with
  | peek | opensRaw => exact .refl scanner
  | advance | skipBlanks | readString | readEscape | readRaw | readCharacter | readNumber
  | readWord => exact scanner.goesOn_skip _
  | track token => exact scanner.goesOn_track token
  | tokenize => exact scanner.goesOn_run

/-- The scanners between the calls of a sequence, the one in front of all calls first. -/
def states (calls : List Call) : List Scanner := scanner :: (scanner.calls calls).map Prod.snd

theorem states_cons (call : Call) (calls : List Call) :
    scanner.states (call :: calls) = scanner :: (scanner.call call).2.states calls :=
  rfl

theorem length_states (calls : List Call) : (scanner.states calls).length = calls.length + 1 := by
  induction calls generalizing scanner with
  | nil => rfl
  | cons call calls ih => rw [states_cons, List.length_cons, ih, List.length_cons]

/-- A scanner goes on from call to call. -/
theorem pairwise_states (calls : List Call) : (scanner.states calls).Pairwise GoesOn := by
  induction calls generalizing scanner with
  | nil => exact List.pairwise_singleton _ _
  | cons call calls ih =>
      have later := ih (scanner.call call).2
      have step := scanner.goesOn_call call
      rw [states_cons]
      refine .cons ?_ later
      intro state member
      rcases List.mem_cons.1 member with rfl | member
      · exact step
      · exact step.trans (List.rel_of_pairwise_cons later member)

/-! ## Places -/

/-- A scanner stands inside a source, and what it has ahead and its line and column are
those of its offset. -/
structure Consistent (source : Text) (scanner : Scanner) : Prop where
  source_eq : scanner.source = source
  offset_le_length : scanner.place.offset ≤ source.length
  rest_eq : scanner.rest = source.drop scanner.place.offset
  line_eq : scanner.place.line = Text.lineAfter (source.take scanner.place.offset)
  column_eq : scanner.place.column = Text.columnAfter (source.take scanner.place.offset)

/-- What goes on from the start of a source is consistent. -/
theorem GoesOn.consistent {source : Text} {scanner : Scanner}
    (goesOn : GoesOn (start source) scanner) : scanner.Consistent source := by
  rcases goesOn.passed with ⟨text, ahead, place⟩
  have whole : source = text ++ scanner.rest := ahead
  have offset : scanner.place.offset = text.length := by
    rw [place, Position.walk_offset]
    exact Nat.zero_add _
  refine ⟨goesOn.source_eq, ?_, ?_, ?_, ?_⟩
  · rw [offset, whole, List.length_append]
    exact Nat.le_add_right _ _
  · rw [offset, whole, List.drop_left]
  · rw [offset, whole, List.take_left, place]
    exact Position.start_walk_line text
  · rw [offset, whole, List.take_left, place]
    exact Position.start_walk_column text

/-- A scanner stays consistent.  Take a scanner in front of any source and carry out any
calls one after the other, also behind calls that fail.  There is a scanner in front of
the calls and one behind each of them.  All of them stand inside the source, have ahead what
the source has from their offset on, and give the line and column that a count of the source
up to the offset gives.  From call to call the offset never gets smaller, and the tokens found
before are those that come first. -/
theorem calls_consistent (source : Text) (calls : List Call) :
    ((start source).states calls).length = calls.length + 1 ∧
    (∀ scanner ∈ (start source).states calls, scanner.Consistent source) ∧
    ((start source).states calls).Pairwise fun before after =>
      before.place.offset ≤ after.place.offset ∧
        before.tokens.toList <+: after.tokens.toList := by
  have later := (start source).pairwise_states calls
  refine ⟨length_states _ calls, ?_, later.imp ?_⟩
  · intro scanner member
    rcases List.mem_cons.1 member with rfl | member
    · exact (GoesOn.refl _).consistent
    · exact (List.rel_of_pairwise_cons later member).consistent
  · intro before after goesOn
    rcases goesOn.passed with ⟨text, _, place⟩
    refine ⟨?_, goesOn.recorded⟩
    rw [place, Position.walk_offset]
    exact Nat.le_add_right _ _

end GuardLang.Scanner

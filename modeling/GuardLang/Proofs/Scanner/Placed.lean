import GuardLang.Proofs.Scanner.Lossless

/-!
# Places in a scan

A scanner is placed if it stands where it has walked to, and every token that it
keeps is located.  Each step of a scan leaves the scanner placed, and so does the
whole scan, also one that fails: the fault is located, and so are the tokens
found before it (`Scanner.Placed.run`).
-/

namespace GuardLang

open Lexeme Text

/-- A fault is an error in the annotation, and is about a located span. -/
structure Fault.Located (source : Text) (fault : Fault) : Prop where
  within_general : fault.cause.category.within .general = true
  span : ∃ span, fault.span = some span ∧ span.Located source

theorem Fault.Located.of_grammar {source : Text} {cause : Cause} {span : Span}
    (grammatical : cause.category = .grammar) (located : span.Located source) :
    (Fault.located cause span).Located source := by
  constructor
  · change cause.category.within .general = true
    rw [grammatical]
    rfl
  · exact ⟨span, rfl, located⟩

namespace Scanner

/-- A scanner stands behind the text it has passed, and its tokens are located. -/
structure Placed (source : Text) (scanner : Scanner) : Prop where
  passed : ∃ passed, source = passed ++ scanner.rest ∧ scanner.place = Position.start.walk passed
  tokens : ∀ token ∈ scanner.tokens, token.span.Located source
  opened : ∀ token ∈ scanner.opened, token.span.Located source

theorem placed_start (source : Text) : (start source).Placed source := by
  constructor
  · exact ⟨[], rfl, rfl⟩
  · simp [start]
  · simp [start]

namespace Placed

variable {source : Text} {scanner : Scanner}

/-- Going on past a text leaves a scanner placed. -/
theorem past (placed : scanner.Placed source) {text rest : Text}
    (ahead : scanner.rest = text ++ rest) : (scanner.past text rest).Placed source := by
  rcases placed.passed with ⟨passed, source_eq, place_eq⟩
  refine ⟨⟨passed ++ text, ?_, ?_⟩, placed.tokens, placed.opened⟩
  · rw [source_eq, ahead, List.append_assoc]
    rfl
  · rw [Position.walk_append, ← place_eq]
    rfl

/-- A span that begins where a placed scanner stands is located. -/
theorem upTo (placed : scanner.Placed source) {stop : Nat} (start_le : scanner.place.offset ≤ stop)
    (stop_le : stop ≤ scanner.place.offset + scanner.rest.length) :
    (Span.upTo scanner.place stop).Located source := by
  rcases placed.passed with ⟨passed, source_eq, place_eq⟩
  rw [place_eq] at start_le stop_le ⊢
  simp only [Position.walk_offset, Position.start_offset, Nat.zero_add] at start_le stop_le
  refine Span.Located.upTo source_eq start_le ?_
  rwa [source_eq, List.length_append]

/-- A token that is read where a placed scanner stands is located. -/
theorem tokenAt (placed : scanner.Placed source) {written after : Text} {lexeme : Lexeme}
    (ahead : scanner.rest = written ++ after) :
    (lexeme.tokenAt scanner.place written).span.Located source := by
  refine placed.upTo ?_ ?_
  · simp
  · simp [ahead]

/-- Reading that stops where a placed scanner stands gives a located fault. -/
theorem locate (placed : scanner.Placed source) {misread : Misread}
    (within : misread.Within scanner.rest) : (scanner.locate misread).Located source := by
  refine .of_grammar within.grammatical ?_
  have start_le : misread.start ≤ scanner.rest.length :=
    Nat.le_trans within.start_le_stop within.stop_le_length
  have moved := placed.past (List.take_append_drop misread.start scanner.rest).symm
  have bounds := within.start_le_stop
  have stop_le := within.stop_le_length
  refine moved.upTo ?_ ?_
  · simp only [Scanner.past, Position.walk_offset, List.length_take]
    omega
  · simp only [Scanner.past, Position.walk_offset, List.length_take, List.length_drop]
    omega

/-- Tracking a located token leaves a scanner placed; a bracket that does not
match is a located fault. -/
theorem track (placed : scanner.Placed source) {token : Token}
    (located : token.span.Located source) :
    (∀ fault, (scanner.track token).1 = .error fault → fault.Located source) ∧
      (scanner.track token).2.Placed source := by
  unfold Scanner.track
  split
  · refine ⟨by simp, placed.passed, placed.tokens, ?_⟩
    intro other member
    rcases List.mem_cons.1 member with rfl | member
    · exact located
    · exact placed.opened other member
  · split
    · refine ⟨?_, placed⟩
      rintro _ ⟨⟩
      exact .of_grammar rfl located
    · rename_i opener outer stack
      have popped : ({ scanner with opened := outer } : Scanner).Placed source := by
        refine ⟨placed.passed, placed.tokens, ?_⟩
        intro other member
        exact placed.opened other (by simp [stack, member])
      split
      · exact ⟨by simp, popped⟩
      · refine ⟨?_, popped⟩
        rintro _ ⟨⟩
        exact .of_grammar rfl located
  · exact ⟨by simp, placed⟩

/-- A located token may be put behind the others. -/
theorem push (placed : scanner.Placed source) {token : Token}
    (located : token.span.Located source) : (scanner.push token).Placed source := by
  refine ⟨placed.passed, ?_, placed.opened⟩
  intro other member
  rcases Array.mem_push.1 member with member | rfl
  · exact placed.tokens other member
  · exact located

/-- Recording a located token leaves a scanner placed. -/
theorem record (placed : scanner.Placed source) {token : Token}
    (located : token.span.Located source) :
    (∀ fault, (scanner.record token).1 = .error fault → fault.Located source) ∧
      (scanner.record token).2.Placed source := by
  have tracked := placed.track located
  unfold Scanner.record
  generalize scanner.track token = outcome at tracked ⊢
  rcases outcome with ⟨fault | _, after⟩
  · exact ⟨by simpa using tracked.1, tracked.2⟩
  · exact ⟨by simp, tracked.2.push located⟩

/-- Each step of a scan leaves the scanner placed. -/
theorem next (placed : scanner.Placed source) :
    (∀ fault, scanner.next.1 = .error fault → fault.Located source) ∧
      scanner.next.2.Placed source := by
  rcases scanner.next_cases with blank | ⟨gap, written, lexeme, after, ahead, blank, form⟩ |
    ⟨gap, c, rest, misread, ahead, blank, visible, failed⟩
  · rw [next_of_blank blank]
    exact ⟨by simp, placed.past (List.append_nil _).symm⟩
  · rw [next_of_form ahead blank form]
    have before := placed.past ahead
    have located : (lexeme.tokenAt (scanner.place.walk gap) written).span.Located source :=
      before.tokenAt rfl
    exact (placed.past (by rw [ahead, List.append_assoc])).record located
  · rw [next_of_misread ahead blank visible failed]
    have before := placed.past ahead
    constructor
    · rintro _ ⟨⟩
      exact before.locate (misread_read failed)
    · exact before.past (List.take_append_drop _ _).symm

/-- The end of a text is located. -/
theorem finish (placed : scanner.Placed source) :
    (∀ fault, scanner.finish.1 = .error fault → fault.Located source) ∧
      scanner.finish.2.Placed source := by
  unfold Scanner.finish
  split
  · rename_i opener outer stack
    refine ⟨?_, placed⟩
    rintro _ ⟨⟩
    exact .of_grammar rfl (placed.opened opener (by simp [stack]))
  · exact ⟨by simp, placed.push (placed.upTo (Nat.le_refl _) (Nat.le_add_right _ _))⟩

/-- A whole scan leaves the scanner placed, and if it fails the fault is
located. -/
theorem run (placed : scanner.Placed source) :
    (∀ fault, scanner.run.1 = .error fault → fault.Located source) ∧
      scanner.run.2.Placed source := by
  induction length : scanner.rest.length using Nat.strongRecOn generalizing scanner with
  | _ n ih =>
      have step := placed.next
      rcases found : scanner.next with ⟨fault | token, after⟩
      · rw [run_of_next_error found]
        rw [found] at step
        exact ⟨by simpa using step.1, step.2⟩
      · rw [found] at step
        cases token with
        | none =>
            rw [run_of_next_none found]
            exact step.2.finish
        | some token =>
            rw [run_of_next_some found]
            have shorter : after.rest.length < n := length ▸ next_rest_length found
            exact ih _ shorter step.2 rfl

end Placed

end Scanner

/-- A scan that fails gives a located fault. -/
theorem located_of_tokenize_error {source : Text} {fault : Fault}
    (failed : tokenize source = .error fault) : fault.Located source := by
  have ran := (Scanner.placed_start source).run.1 fault
  unfold tokenize at failed
  rcases outcome : (Scanner.start source).run with ⟨_ | _, after⟩
  · rw [outcome] at failed ran
    cases failed
    exact ran rfl
  · rw [outcome] at failed
    cases failed

end GuardLang

import GuardLang.Proofs.Brackets
import GuardLang.Proofs.Lexeme.Form
import GuardLang.Scanner

/-!
# What a scan finds

`Lexed place text tokens` says without a scanner what the tokens of a text are:
forms of lexemes with blanks around them, each token placed where its form
begins.

Main statement: a text is tokenized exactly if it is lexed and the tokens are
nested (`tokenize_eq_ok_iff`).  It rests on `Scanner.next_cases`, which lists all
that one step of a scan can do.
-/

namespace GuardLang

open Lexeme Text

/-- A text of blanks only. -/
def Text.Blank (text : Text) : Prop := ∀ c ∈ text, isBlank c = true

theorem Text.blank_iff_all {text : Text} : text.Blank ↔ text.all isBlank = true :=
  List.all_eq_true.symm

/-- The token for a lexeme that is written at a place. -/
def Lexeme.tokenAt (lexeme : Lexeme) (place : Position) (written : Text) : Token :=
  ⟨lexeme.kind, lexeme.value, .upTo place (place.walk written).offset⟩

/-- The text, which begins at the place, consists of forms of lexemes with blanks
around them; the tokens are those of the forms. -/
inductive Lexed : Position → Text → List Token → Prop
  | blank {place : Position} {gap : Text} : gap.Blank → Lexed place gap []
  | token {place : Position} {gap written after : Text} {lexeme : Lexeme} {tokens : List Token} :
      gap.Blank → Form written lexeme after →
      Lexed ((place.walk gap).walk written) after tokens →
      Lexed place (gap ++ (written ++ after)) (lexeme.tokenAt (place.walk gap) written :: tokens)

namespace Scanner

/-! ## One step -/

/-- The scanner behind a text that it has passed. -/
def past (scanner : Scanner) (passed rest : Text) : Scanner :=
  { scanner with place := scanner.place.walk passed, rest }

theorem skip_of_rest {scanner : Scanner} {passed rest : Text}
    (ahead : scanner.rest = passed ++ rest) :
    scanner.skip passed.length = scanner.past passed rest := by
  simp [skip, past, ahead]

/-- Blanks are skipped up to the first character that is none. -/
theorem skipBlanks_of_rest {scanner : Scanner} {gap rest : Text}
    (ahead : scanner.rest = gap ++ rest) (blank : gap.Blank)
    (visible : ∀ c ∈ rest.head?, isBlank c = false) :
    scanner.skipBlanks = scanner.past gap rest := by
  rw [skipBlanks, ahead, takeWhile_append_of_stops blank visible]
  exact skip_of_rest ahead

/-- A reading that succeeds is accepted. -/
theorem accept_of_ok {α : Type} (scanner : Scanner) {reading : Reading α} {value : α}
    (outcome : reading.outcome = .ok value) :
    scanner.accept reading = (.ok value, scanner.skip reading.taken) := by
  unfold accept
  rewrite [outcome]
  rfl

/-- A reading that stops is a fault. -/
theorem accept_of_error {α : Type} (scanner : Scanner) {reading : Reading α} {misread : Misread}
    (outcome : reading.outcome = .error misread) :
    scanner.accept reading = (.error (scanner.locate misread), scanner.skip reading.taken) := by
  unfold accept
  rewrite [outcome]
  rfl

/-- At the end of a text there is no token. -/
theorem next_of_blank {scanner : Scanner} (blank : scanner.rest.Blank) :
    scanner.next = (.ok none, scanner.past scanner.rest []) := by
  have skipped : scanner.skipBlanks = scanner.past scanner.rest [] :=
    skipBlanks_of_rest (List.append_nil _).symm blank (by simp)
  unfold next
  rw [skipped]
  rfl

/-- Record a token, unless it is a bracket that does not match. -/
def record (scanner : Scanner) (token : Token) : Except Fault (Option Token) × Scanner :=
  match scanner.track token with
  | (.error fault, after) => (.error fault, after)
  | (.ok (), after) => (.ok (some token), after.push token)

/-- A lexeme that is accepted behind blanks is recorded. -/
theorem next_of_accept {scanner before after : Scanner} {c : Char} {rest : Text} {lexeme : Lexeme}
    (skipped : scanner.skipBlanks = before) (ahead : before.rest = c :: rest)
    (accepted : before.accept (read c rest) = (.ok lexeme, after)) :
    scanner.next = after.record
      ⟨lexeme.kind, lexeme.value, .upTo before.place after.place.offset⟩ := by
  rcases tracked : after.track ⟨lexeme.kind, lexeme.value,
    .upTo before.place after.place.offset⟩ with ⟨fault | _, moved⟩
  · simp [next, record, skipped, ahead, accepted, tracked]
  · simp [next, record, skipped, ahead, accepted, tracked]

/-- A form behind blanks gives its token. -/
theorem next_of_form {scanner : Scanner} {gap written after : Text} {lexeme : Lexeme}
    (ahead : scanner.rest = gap ++ (written ++ after)) (blank : gap.Blank)
    (form : Form written lexeme after) :
    scanner.next = (scanner.past (gap ++ written) after).record
      (lexeme.tokenAt (scanner.place.walk gap) written) := by
  rcases List.exists_cons_of_ne_nil form.written_ne_nil with ⟨c, more, written_eq⟩
  have split : c :: (more ++ after) = written ++ after := by rw [written_eq, List.cons_append]
  have visible : ∀ d ∈ (c :: (more ++ after)).head?, isBlank d = false := by
    have first := form.head_isBlank
    rw [written_eq] at first
    exact first
  have skipped : scanner.skipBlanks = scanner.past gap (c :: (more ++ after)) :=
    skipBlanks_of_rest (by rw [ahead, split]) blank visible
  have taken : (scanner.past gap (c :: (more ++ after))).skip written.length =
      scanner.past (gap ++ written) after := by
    have behind : (scanner.past gap (c :: (more ++ after))).rest = written ++ after := split
    rw [skip_of_rest behind]
    simp [past, Position.walk_append]
  have accepted : (scanner.past gap (c :: (more ++ after))).accept (read c (more ++ after)) =
      (.ok lexeme, scanner.past (gap ++ written) after) := by
    rw [read_of_form form split, accept_of_ok _ rfl, taken]
  have recorded := next_of_accept skipped rfl accepted
  rw [recorded, tokenAt, ← Position.walk_append]
  rfl

/-- Text that is no form behind blanks is refused. -/
theorem next_of_misread {scanner : Scanner} {gap rest : Text} {c : Char} {misread : Misread}
    (ahead : scanner.rest = gap ++ c :: rest) (blank : gap.Blank) (visible : isBlank c = false)
    (failed : (read c rest).outcome = .error misread) :
    scanner.next = (.error ((scanner.past gap (c :: rest)).locate misread),
      (scanner.past gap (c :: rest)).skip (read c rest).taken) := by
  have skipped : scanner.skipBlanks = scanner.past gap (c :: rest) :=
    skipBlanks_of_rest ahead blank (by simpa using visible)
  have refused := accept_of_error (scanner.past gap (c :: rest)) failed
  simp only [past] at skipped refused
  simp only [next, skipped, refused, past]

/-- All that can lie ahead of a scanner: blanks, a form behind blanks, or text
that is no form behind blanks. -/
theorem next_cases (scanner : Scanner) :
    scanner.rest.Blank ∨
      (∃ (gap written : Text) (lexeme : Lexeme) (after : Text),
        scanner.rest = gap ++ (written ++ after) ∧ gap.Blank ∧ Form written lexeme after) ∨
      ∃ (gap : Text) (c : Char) (rest : Text) (misread : Misread),
        scanner.rest = gap ++ c :: rest ∧ gap.Blank ∧ isBlank c = false ∧
          (read c rest).outcome = .error misread := by
  rcases takeWhile_split isBlank scanner.rest with ⟨behind, split, blank, stops⟩
  rcases behind with _ | ⟨c, rest⟩
  · left
    rw [split, List.append_nil]
    exact blank
  · right
    cases outcome : (read c rest).outcome with
    | ok lexeme =>
        left
        rcases exists_form_of_read outcome with ⟨written, after, same, _, form⟩
        exact ⟨_, written, lexeme, after, by rw [← same]; exact split, blank, form⟩
    | error misread =>
        right
        exact ⟨_, c, rest, misread, split, blank, stops c rfl, outcome⟩

/-! ## Brackets -/

/-- A token that is tracked leaves brackets open that close what was open before
it. -/
theorem closes_of_track {scanner after : Scanner} {token : Token} (eof : token.kind ≠ .eof)
    (tracked : scanner.track token = (.ok (), after)) :
    ∃ opened, after = { scanner with opened } ∧
      ∀ tokens, Closes opened tokens → Closes scanner.opened (token :: tokens) := by
  unfold track at tracked
  split at tracked
  · rename_i opening
    cases tracked
    exact ⟨_, rfl, fun _ closes => .opening opening closes⟩
  · rename_i bracket closing
    split at tracked
    · cases tracked
    · rename_i opener outer opened
      split at tracked
      · rename_i same
        cases tracked
        rw [opened]
        exact ⟨_, rfl, fun _ closes => .closing same closing closes⟩
      · cases tracked
  · rename_i opening closing
    cases tracked
    exact ⟨_, rfl, fun _ closes => .plain (TokenKind.isPlain_of_ne opening closing eof) closes⟩

theorem track_of_isPlain {scanner : Scanner} {token : Token} (plain : token.kind.isPlain = true) :
    scanner.track token = (.ok (), scanner) := by
  unfold track
  split
  · rename_i opening
    rw [opening] at plain
    cases plain
  · rename_i closing
    rw [closing] at plain
    cases plain
  · rfl

/-- A token that is followed by what closes the open brackets is tracked. -/
theorem track_of_closes {scanner : Scanner} {token : Token} {tokens : List Token}
    (closes : Closes scanner.opened (token :: tokens)) :
    ∃ opened, scanner.track token = (.ok (), { scanner with opened }) ∧ Closes opened tokens := by
  generalize stack : scanner.opened = opened at closes
  generalize list : token :: tokens = all at closes
  cases closes with
  | nil => cases list
  | plain plain rest =>
      cases list
      exact ⟨scanner.opened, track_of_isPlain plain, stack ▸ rest⟩
  | opening opening rest =>
      cases list
      refine ⟨token :: scanner.opened, ?_, stack ▸ rest⟩
      simp [track, opening]
  | closing opening closing rest =>
      cases list
      exact ⟨_, by simp [track, closing, stack, opening], rest⟩

/-! ## Whole texts -/

theorem run_of_next_error {scanner after : Scanner} {fault : Fault}
    (failed : scanner.next = (.error fault, after)) : scanner.run = (.error fault, after) := by
  rw [run]
  split <;> simp_all

theorem run_of_next_none {scanner after : Scanner} (ended : scanner.next = (.ok none, after)) :
    scanner.run = after.finish := by
  rw [run]
  split <;> simp_all

theorem run_of_next_some {scanner after : Scanner} {token : Token}
    (found : scanner.next = (.ok (some token), after)) : scanner.run = after.run := by
  rw [run]
  split <;> simp_all

/-- The token that marks the end of a text at a place. -/
def endMark (place : Position) : Token := .endAt (.upTo place place.offset)

theorem finish_of_closed {scanner : Scanner} (closed : scanner.opened = []) :
    scanner.finish = (.ok (), scanner.push (endMark scanner.place)) := by
  simp [finish, closed, endMark]

/-- A text that is lexed is scanned, if its tokens close the open brackets. -/
theorem run_of_lexed {place : Position} {text : Text} {tokens : List Token}
    (lexed : Lexed place text tokens) {scanner : Scanner} (place_eq : scanner.place = place)
    (rest_eq : scanner.rest = text) (closes : Closes scanner.opened tokens) :
    ∃ after, scanner.run = (.ok (), after) ∧
      after.tokens.toList = scanner.tokens.toList ++ tokens ++ [endMark (place.walk text)] := by
  induction lexed generalizing scanner with
  | blank blank =>
      have closed : scanner.opened = [] := by
        generalize scanner.opened = opened at closes
        cases closes
        rfl
      rw [run_of_next_none (next_of_blank (rest_eq ▸ blank))]
      refine ⟨_, finish_of_closed closed, ?_⟩
      simp [push, past, place_eq, rest_eq]
  | @token place gap written after lexeme tokens blank form _ ih =>
      have found := next_of_form rest_eq blank form
      rw [place_eq] at found
      have still : Closes (scanner.past (gap ++ written) after).opened
          (lexeme.tokenAt (place.walk gap) written :: tokens) := closes
      rcases track_of_closes still with ⟨opened, tracked, remaining⟩
      have moves : (scanner.past (gap ++ written) after).place =
          (place.walk gap).walk written := by
        rw [past, place_eq, Position.walk_append]
      simp only [record, tracked] at found
      rcases @ih (push { scanner.past (gap ++ written) after with opened }
        (lexeme.tokenAt (place.walk gap) written)) moves rfl remaining with
        ⟨last, ran, tokens_eq⟩
      refine ⟨last, (run_of_next_some found).trans ran, ?_⟩
      rw [tokens_eq]
      simp [push, past, Position.walk_append]

/-- A text that is scanned is lexed, and its tokens close the open brackets. -/
theorem exists_lexed_of_run {scanner after : Scanner} (ran : scanner.run = (.ok (), after)) :
    ∃ tokens, Lexed scanner.place scanner.rest tokens ∧ Closes scanner.opened tokens ∧
      after.tokens.toList =
        scanner.tokens.toList ++ tokens ++ [endMark (scanner.place.walk scanner.rest)] := by
  induction length : scanner.rest.length using Nat.strongRecOn generalizing scanner with
  | _ n ih =>
      rcases scanner.next_cases with blank | ⟨gap, written, lexeme, rest, ahead, blank, form⟩ |
        ⟨gap, c, rest, misread, ahead, blank, visible, failed⟩
      · rw [run_of_next_none (next_of_blank blank)] at ran
        cases opened : scanner.opened with
        | cons opener outer =>
            simp only [finish, past, opened] at ran
            cases ran
        | nil =>
            have closed : (scanner.past scanner.rest []).opened = [] := opened
            rw [finish_of_closed closed] at ran
            cases ran
            exact ⟨[], .blank blank, .nil, by simp [push, past]⟩
      · have found := next_of_form ahead blank form
        unfold record at found
        split at found
        · rw [run_of_next_error found] at ran
          cases ran
        · rename_i moved tracked
          rcases closes_of_track form.kind_ne_eof tracked with ⟨opened, rfl, closes⟩
          rw [run_of_next_some found] at ran
          have shorter : rest.length < n := by
            have written_pos := List.length_pos_iff.2 form.written_ne_nil
            rw [← length, ahead, List.length_append, List.length_append]
            omega
          rcases ih _ shorter ran rfl with ⟨tokens, lexed, remaining, tokens_eq⟩
          have placed : Lexed ((scanner.place.walk gap).walk written) rest tokens := by
            rw [← Position.walk_append]
            exact lexed
          refine ⟨_ :: tokens, ahead ▸ .token blank form placed, closes tokens remaining, ?_⟩
          rw [tokens_eq, ahead]
          simp [push, past, Position.walk_append]
      · rw [run_of_next_error (next_of_misread ahead blank visible failed)] at ran
        cases ran

end Scanner

/-- A text is tokenized exactly if it is lexed and its tokens are nested. -/
theorem tokenize_eq_ok_iff {source : Text} {tokens : List Token} :
    tokenize source = .ok tokens ↔
      ∃ found, Lexed .start source found ∧ Nested found ∧
        tokens = found ++ [Scanner.endMark (Position.start.walk source)] := by
  constructor
  · intro tokenized
    unfold tokenize at tokenized
    split at tokenized
    · cases tokenized
    · rename_i after ran
      cases tokenized
      rcases Scanner.exists_lexed_of_run ran with ⟨found, lexed, closes, tokens_eq⟩
      exact ⟨found, lexed, closes_nil_iff.1 closes, by simpa [Scanner.start] using tokens_eq⟩
  · rintro ⟨found, lexed, nested, rfl⟩
    rcases @Scanner.run_of_lexed _ _ _ lexed (Scanner.start source) rfl rfl
      (closes_nil_iff.2 nested) with ⟨after, ran, tokens_eq⟩
    unfold tokenize
    rw [ran]
    dsimp only
    rw [tokens_eq]
    simp [Scanner.start]

end GuardLang

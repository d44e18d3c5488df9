import GuardLang.Proofs.Brackets.Open
import GuardLang.Proofs.Scanner.Lexed

/-!
# The stack of a scan

A scanner keeps the opening tokens that wait for their closing ones.  At every step of
a scan these are the tokens that the ones found so far leave open.  So the next token is
refused exactly if what has been found cannot be extended by it to a nested run
(`Between.cases`), and a closing token takes the opening one off the stack with which it
encloses a nested run (`matches_iff`).
-/

namespace GuardLang

/-! ## Single tokens -/

/-- A token changes the stack of open tokens, innermost first. -/
inductive Tracks : List Token → Token → List Token → Prop
  | plain {opened : List Token} {token : Token} : token.kind.isPlain = true →
      Tracks opened token opened
  | opening {opened : List Token} {token : Token} {bracket : Bracket} :
      token.kind = .opening bracket → Tracks opened token (token :: opened)
  | closing {opened : List Token} {opener token : Token} {bracket : Bracket} :
      opener.kind = .opening bracket → token.kind = .closing bracket →
      Tracks (opener :: opened) token opened

/-- The stack behind a token is what the token and the ones before it leave open. -/
theorem Leaves.tracks {passed opened opened' : List Token} {token : Token}
    (leaves : Leaves passed opened) (tracks : Tracks opened token opened') :
    Leaves (passed ++ [token]) opened' := by
  cases tracks with
  | plain plain => exact leaves.plain plain
  | opening opening => exact leaves.push opening
  | closing opening closing => exact leaves.pop opening closing

/-- Only a closing token of the same kind takes a token off the stack. -/
theorem Tracks.kind_of_cons {opened : List Token} {opener closer : Token}
    (tracks : Tracks (opener :: opened) closer opened) :
    ∃ bracket, opener.kind = .opening bracket ∧ closer.kind = .closing bracket := by
  generalize stack : opener :: opened = before at tracks
  cases tracks with
  | plain => simp at stack
  | opening =>
      have lengths := congrArg List.length stack
      simp only [List.length_cons] at lengths
      omega
  | closing opening closing =>
      cases stack
      exact ⟨_, opening, closing⟩

/-- Why a closing token is refused behind a run: nothing is open there, or the
innermost open token is of another kind. -/
inductive Refused (passed : List Token) (closer : Token) : Fault → Prop
  | unexpected : Nested passed →
      Refused passed closer (.located (.unexpectedCloser closer.value) closer.span)
  | mismatched {opener : Token} : InnermostOpen passed opener →
      Refused passed closer (.located (.mismatchedCloser closer.value opener.value) closer.span)

namespace Scanner

variable {scanner : Scanner} {passed ahead opened : List Token} {token : Token}

theorem track_of_tracks (tracks : Tracks scanner.opened token opened) :
    scanner.track token = (.ok (), { scanner with opened }) := by
  generalize stack : scanner.opened = before at tracks
  cases tracks with
  | plain plain => rw [track_of_isPlain plain, ← stack]
  | opening opening => simp [track, opening, stack]
  | closing opening closing => simp [track, closing, stack, opening]

/-- All that can happen to a token: it changes the stack, or no extension of the tokens
up to it is nested and it is refused. -/
theorem track_cases (leaves : Leaves passed scanner.opened) (eof : token.kind ≠ .eof) :
    (∃ opened, Tracks scanner.opened token opened) ∨
      token.kind.isClosing = true ∧ ¬ Extensible (passed ++ [token]) ∧
        ∃ fault after, scanner.track token = (.error fault, after) ∧
          Refused passed token fault := by
  cases kind : token.kind with
  | opening bracket => exact .inl ⟨_, .opening kind⟩
  | closing bracket =>
      by_cases fits : ∃ opener outer, scanner.opened = opener :: outer ∧
        opener.kind = .opening bracket
      · rcases fits with ⟨opener, outer, stack, opening⟩
        exact .inl ⟨outer, stack ▸ .closing opening kind⟩
      have broken : ¬ Extensible (passed ++ [token]) := by
        rintro ⟨more, nested⟩
        rw [List.append_assoc, List.singleton_append, leaves.nested_append_iff,
          closes_cons_closing_iff kind] at nested
        rcases nested with ⟨opener, outer, stack, opening, _⟩
        exact fits ⟨opener, outer, stack, opening⟩
      refine .inr ⟨rfl, broken, ?_⟩
      cases stack : scanner.opened with
      | nil =>
          rw [stack] at leaves
          cases leaves with
          | nested nested => exact ⟨_, scanner, by simp [track, kind, stack], .unexpected nested⟩
      | cons opener outer =>
          rw [stack] at leaves
          have other : opener.kind ≠ .opening bracket := fun same =>
            fits ⟨opener, outer, stack, same⟩
          exact ⟨_, { scanner with opened := outer }, by simp [track, kind, stack, other],
            .mismatched leaves.innermostOpen⟩
  | eof => exact absurd kind eof
  | _ => exact .inl ⟨_, .plain (by rw [kind]; rfl)⟩

/-! ## Steps of a scan -/

/-- In a text that is lexed, the scanner has passed some tokens and has others ahead. -/
structure Between (passed ahead : List Token) (scanner : Scanner) : Prop where
  lexed : Lexed scanner.place scanner.rest ahead
  leaves : Leaves passed scanner.opened

theorem between_start {source : Text} (lexed : Lexed .start source ahead) :
    Between [] ahead (start source) :=
  ⟨lexed, .nil⟩

namespace Between

/-- The next token of a text that is lexed is recorded, unless it is refused. -/
theorem exists_record (between : Between passed (token :: ahead) scanner) :
    ∃ moved : Scanner, scanner.next = moved.record token ∧ moved.opened = scanner.opened ∧
      Lexed moved.place moved.rest ahead ∧ token.kind ≠ .eof := by
  have lexed := between.lexed
  generalize placed : scanner.place = place at lexed
  generalize rest : scanner.rest = text at lexed
  generalize found : token :: ahead = all at lexed
  cases lexed with
  | blank _ => cases found
  | @token _ gap written after lexeme _ blank form behind =>
      cases found
      have next := next_of_form rest blank form
      rw [placed] at next
      refine ⟨_, next, rfl, ?_, form.kind_ne_eof⟩
      rw [past, placed, Position.walk_append]
      exact behind

/-- A token that changes the stack is passed. -/
theorem exists_next (between : Between passed (token :: ahead) scanner)
    (tracks : Tracks scanner.opened token opened) :
    ∃ after, scanner.next = (.ok (some token), after) ∧ after.opened = opened ∧
      Between (passed ++ [token]) ahead after := by
  rcases between.exists_record with ⟨moved, next, stack, behind, _⟩
  have leaves := between.leaves.tracks tracks
  rw [← stack] at tracks
  refine ⟨push { moved with opened } token, ?_, rfl, behind, leaves⟩
  rw [next, record, track_of_tracks tracks]

/-- All that one step of a scan can do with the token ahead: pass it and change the
stack, or refuse it because no extension of the tokens up to it is nested. -/
theorem cases (between : Between passed (token :: ahead) scanner) :
    (∃ after, Tracks scanner.opened token after.opened ∧
        scanner.next = (.ok (some token), after) ∧ Between (passed ++ [token]) ahead after) ∨
      token.kind.isClosing = true ∧ ¬ Extensible (passed ++ [token]) ∧
        ∃ fault after, scanner.next = (.error fault, after) ∧ Refused passed token fault := by
  rcases between.exists_record with ⟨moved, next, stack, _, eof⟩
  have leaves := between.leaves
  rw [← stack] at leaves
  rcases track_cases leaves eof with ⟨opened, tracks⟩ |
    ⟨closing, broken, fault, after, failed, refused⟩
  · rw [stack] at tracks
    rcases between.exists_next tracks with ⟨after, found, rfl, between⟩
    exact .inl ⟨after, tracks, found, between⟩
  · refine .inr ⟨closing, broken, fault, after, ?_, refused⟩
    rw [next, record, failed]

/-- At the end of the text no token is found. -/
theorem next_eq_none (between : Between passed [] scanner) :
    scanner.next = (.ok none, scanner.past scanner.rest []) := by
  apply next_of_blank
  have lexed := between.lexed
  generalize scanner.place = place at lexed
  generalize scanner.rest = text at lexed ⊢
  cases lexed with
  | blank blank => exact blank

end Between

/-! ## Runs of steps -/

/-- A scan comes from one scanner to another, token by token. -/
inductive Reaches (scanner : Scanner) : Scanner → Prop
  | refl : Reaches scanner scanner
  | next {middle last : Scanner} {token : Token} : Reaches scanner middle →
      middle.next = (.ok (some token), last) → Reaches scanner last

theorem Reaches.trans {first second third : Scanner} (left : Reaches first second)
    (right : Reaches second third) : Reaches first third := by
  induction right with
  | refl => exact left
  | next _ found ih => exact .next ih found

namespace Between

variable {last : Scanner} {tokens : List Token}

/-- A scanner that has found a token had it ahead. -/
theorem exists_of_next (between : Between passed ahead scanner)
    (found : scanner.next = (.ok (some token), last)) :
    ∃ behind, ahead = token :: behind ∧ Tracks scanner.opened token last.opened ∧
      Between (passed ++ [token]) behind last := by
  cases ahead with
  | nil =>
      rw [between.next_eq_none] at found
      cases found
  | cons other behind =>
      rcases between.cases with ⟨after, tracks, next, between⟩ | ⟨_, _, fault, after, next, _⟩
      · cases found.symm.trans next
        exact ⟨behind, rfl, tracks, between⟩
      · cases found.symm.trans next

/-- Wherever a scan comes to, it has passed some of its tokens and has the others
ahead. -/
theorem exists_of_reaches (between : Between [] tokens scanner) (reaches : Reaches scanner last) :
    ∃ passed ahead, tokens = passed ++ ahead ∧ Between passed ahead last := by
  induction reaches with
  | refl => exact ⟨[], tokens, rfl, between⟩
  | @next middle last token _ found ih =>
      rcases ih with ⟨passed, ahead, rfl, halfway⟩
      rcases halfway.exists_of_next found with ⟨behind, rfl, _, further⟩
      exact ⟨passed ++ [token], behind, by simp, further⟩

/-- Tokens that can be extended to a nested run are passed. -/
theorem exists_reaches {run : List Token} (between : Between passed (run ++ ahead) scanner)
    (extensible : Extensible (passed ++ run)) :
    ∃ last, Reaches scanner last ∧ Between (passed ++ run) ahead last := by
  induction run generalizing passed scanner with
  | nil => exact ⟨scanner, .refl, by simpa using between⟩
  | cons token run ih =>
      rw [List.append_cons] at extensible ⊢
      rcases between.cases with ⟨after, _, found, between⟩ | ⟨_, broken, _⟩
      · rcases ih between extensible with ⟨last, reaches, between⟩
        exact ⟨last, (Reaches.refl.next found).trans reaches, between⟩
      · exact absurd extensible.of_append broken

/-- Behind a nested run the stack is what it was in front of it. -/
theorem exists_reaches_of_nested {run : List Token} (nested : Nested run)
    (between : Between passed (run ++ ahead) scanner) :
    ∃ last, Reaches scanner last ∧ last.opened = scanner.opened ∧
      Between (passed ++ run) ahead last := by
  induction nested generalizing passed ahead scanner with
  | nil => exact ⟨scanner, .refl, rfl, by simpa using between⟩
  | plain plain _ ih =>
      rcases between.exists_next (.plain plain) with ⟨after, found, stack, between⟩
      rcases ih between with ⟨last, reaches, same, between⟩
      exact ⟨last, (Reaches.refl.next found).trans reaches, same.trans stack,
        by simpa using between⟩
  | @group opener closer inner rest bracket opening closing _ _ innerIH restIH =>
      rw [List.cons_append, List.append_assoc, List.cons_append] at between
      rcases between.exists_next (.opening opening) with ⟨first, found, stack, between⟩
      rcases innerIH between with ⟨second, reaches, same, between⟩
      have tracks : Tracks second.opened closer scanner.opened := by
        rw [same, stack]
        exact .closing opening closing
      rcases between.exists_next tracks with ⟨third, found', stack', between⟩
      rcases restIH between with ⟨last, reaches', same', between⟩
      exact ⟨last, (((Reaches.refl.next found).trans reaches).next found').trans reaches',
        same'.trans stack', by simpa using between⟩

end Between

/-! ## Brackets that belong together -/

/-- In the scan of a source the second token takes the first one off the stack. -/
def Matches (source : Text) (opener closer : Token) : Prop :=
  ∃ before after, Reaches (start source) before ∧ before.next = (.ok (some closer), after) ∧
    before.opened = opener :: after.opened

end Scanner

/-- Two brackets of one kind with a nested run between them. -/
def Paired (tokens : List Token) (opener closer : Token) : Prop :=
  ∃ before inner after bracket, tokens = before ++ opener :: (inner ++ closer :: after) ∧
    opener.kind = .opening bracket ∧ closer.kind = .closing bracket ∧ Nested inner

/-- The stack brings together the brackets that enclose nested runs. -/
theorem Scanner.matches_iff {source : Text} {tokens : List Token} {opener closer : Token}
    (lexed : Lexed .start source tokens) (nested : Nested tokens) :
    Matches source opener closer ↔ Paired tokens opener closer := by
  constructor
  · rintro ⟨first, last, reaches, found, stack⟩
    rcases (between_start lexed).exists_of_reaches reaches with ⟨passed, ahead, rfl, between⟩
    rcases between.exists_of_next found with ⟨behind, rfl, tracks, _⟩
    have leaves := between.leaves
    rw [stack] at leaves tracks
    rcases tracks.kind_of_cons with ⟨bracket, opening, closing⟩
    cases leaves with
    | @opening before inside _ _ _ _ _ inside_nested =>
        exact ⟨before, inside, behind, bracket, by simp, opening, closing, inside_nested⟩
  · rintro ⟨before, inner, after, bracket, rfl, opening, closing, inside⟩
    have front : Extensible ([] ++ before) := ⟨_, nested⟩
    rcases (between_start lexed).exists_reaches front with ⟨first, reaches, between⟩
    rcases between.exists_next (.opening opening) with ⟨second, found, stack, between⟩
    rcases between.exists_reaches_of_nested inside with ⟨third, reaches', same, between⟩
    have tracks : Tracks third.opened closer first.opened := by
      rw [same, stack]
      exact .closing opening closing
    rcases between.exists_next tracks with ⟨last, found', stack', _⟩
    refine ⟨third, last, (reaches.next found).trans reaches', found', ?_⟩
    rw [same, stack, stack']

end GuardLang

import GuardLang.Proofs.Parser.Steps

/-!
# Parsers that move on

A parser moves forward if it never goes back and never takes an end mark, whether it gives a
value or a fault.  It progresses if it also takes at least one token wherever it gives a value.
Both are shown here for single steps, for steps in sequence and for choices, so that they follow
for a rule from the parts it is made of.

Nothing is asked of the tokens ahead: they may be unbalanced and may have end marks among them.
Only the token behind all of them has to mark the end.
-/

namespace GuardLang

/-! ## Feeds -/

namespace Feed

/-- Some tokens have been taken from the front, none of which marks the end. -/
def Onward (feed rest : Feed) : Prop :=
  ∃ taken, feed.ahead = taken ++ rest.ahead ∧ rest = feed.skip taken.length ∧
    ∀ token ∈ taken, token.kind ≠ .eof

namespace Onward

variable {first second third : Feed}

theorem refl (feed : Feed) : feed.Onward feed :=
  ⟨[], rfl, rfl, by simp⟩

theorem trans (left : first.Onward second) (right : second.Onward third) : first.Onward third := by
  rcases left with ⟨front, ahead, rfl, marks⟩
  rcases right with ⟨back, ahead', rfl, marks'⟩
  refine ⟨front ++ back, ?_, ?_, ?_⟩
  · rw [ahead, ahead', List.append_assoc]
  · rw [skip_skip, List.length_append]
  · intro token member
    rcases List.mem_append.1 member with member | member
    · exact marks token member
    · exact marks' token member

theorem last_eq (onward : first.Onward second) : second.last = first.last := by
  rcases onward with ⟨_, _, rfl, _⟩
  rfl

theorem index_le (onward : first.Onward second) : first.index ≤ second.index := by
  rcases onward with ⟨_, _, rfl, _⟩
  exact Nat.le_add_right _ _

/-- Who takes a token has fewer ahead. -/
theorem length_lt (onward : first.Onward second) (taken : first.index < second.index) :
    second.ahead.length < first.ahead.length := by
  rcases onward with ⟨tokens, ahead, rfl, _⟩
  rw [skip_index] at taken
  rw [ahead, List.length_append]
  omega

end Onward

variable {feed : Feed}

/-- To take the next token is to go on: an end mark stays. -/
theorem onward_advance (last : feed.last.kind = .eof) : feed.Onward feed.advance.2 := by
  by_cases ended : feed.atEnd = true
  · rw [advance_of_atEnd ended]
    exact .refl feed
  · rw [advance_of_not_atEnd ended]
    cases ahead : feed.ahead with
    | nil => exact absurd (atEnd_of_nil ahead last) ended
    | cons token rest =>
        refine ⟨[token], ?_, rfl, ?_⟩
        · rw [skip_ahead_of_cons ahead]
          exact ahead
        · intro other member mark
          rw [List.mem_singleton.1 member] at mark
          rw [atEnd, current_of_cons ahead, mark] at ended
          exact ended rfl

/-- A token that marks no end is taken. -/
theorem index_lt_advance (eof : feed.current.kind ≠ .eof) : feed.index < feed.advance.2.index := by
  rw [advance_of_not_atEnd (by simpa [atEnd] using eof)]
  exact Nat.lt_succ_self _

end Feed

/-! ## Parsers -/

namespace Parser

variable {α β : Type} {parser other : Parser α} {next : α → Parser β}

/-- A parser never goes back and takes no end mark, whether or not it gives a value. -/
def Forward (parser : Parser α) : Prop :=
  ∀ ⦃feed : Feed⦄, feed.last.kind = .eof → feed.Onward (parser.run feed).2

/-- A parser that moves forward takes at least one token for a value. -/
structure Progresses (parser : Parser α) : Prop where
  forward : parser.Forward
  index_lt : ∀ ⦃feed rest : Feed⦄ ⦃value : α⦄, feed.last.kind = .eof →
    parser.run feed = (.ok value, rest) → feed.index < rest.index

namespace Forward

/-- A step that takes nothing. -/
theorem still (still : ∀ feed, (parser.run feed).2 = feed) : parser.Forward := by
  intro feed _
  rw [still]
  exact .refl feed

theorem advance : Parser.advance.Forward :=
  fun _ last => Feed.onward_advance last

theorem of_run (forward : parser.Forward) {feed rest : Feed} {outcome : Except Fault α}
    (last : feed.last.kind = .eof) (ran : parser.run feed = (outcome, rest)) :
    feed.Onward rest := by
  have onward := forward last
  rwa [ran] at onward

theorem bind (first : parser.Forward) (second : ∀ value, (next value).Forward) :
    (parser >>= next).Forward := by
  intro feed last
  rw [run_bind]
  rcases ran : parser.run feed with ⟨fault | value, rest⟩
  · exact first.of_run last ran
  · have onward := first.of_run last ran
    exact onward.trans (second value (onward.last_eq ▸ last))

theorem ifAt {kinds : List TokenKind} (first : parser.Forward) (second : other.Forward) :
    (do if ← isAt kinds then parser else other).Forward := by
  refine bind (still fun _ => rfl) ?_
  intro found
  cases found with
  | true => exact first
  | false => exact second

/-- What is put back has never been taken. -/
theorem attempt (forward : parser.Forward) : (Parser.attempt parser).Forward := by
  intro feed last
  rw [run_attempt]
  rcases ran : parser.run feed with ⟨fault | value, rest⟩
  · dsimp only
    split
    · exact .refl feed
    · exact forward.of_run last ran
  · exact forward.of_run last ran

end Forward

namespace Progresses

/-- The first of two steps takes a token. -/
theorem bind (first : parser.Progresses) (second : ∀ value, (next value).Forward) :
    (parser >>= next).Progresses := by
  refine ⟨first.forward.bind second, ?_⟩
  intro feed rest result last ran
  rcases run_bind_eq_ok_iff.1 ran with ⟨value, middle, one, two⟩
  have onward := first.forward.of_run last one
  have further := (second value).of_run (onward.last_eq ▸ last) two
  exact Nat.lt_of_lt_of_le (first.index_lt last one) further.index_le

/-- The second of two steps takes a token. -/
theorem behind (first : parser.Forward) (second : ∀ value, (next value).Progresses) :
    (parser >>= next).Progresses := by
  refine ⟨first.bind fun value => (second value).forward, ?_⟩
  intro feed rest result last ran
  rcases run_bind_eq_ok_iff.1 ran with ⟨value, middle, one, two⟩
  have onward := first.of_run last one
  exact Nat.lt_of_le_of_lt onward.index_le ((second value).index_lt (onward.last_eq ▸ last) two)

theorem map (progresses : parser.Progresses) (f : α → β) :
    (parser >>= fun value => pure (f value)).Progresses :=
  progresses.bind fun _ => .still fun _ => rfl

theorem ifAt {kinds : List TokenKind} (first : parser.Progresses) (second : other.Progresses) :
    (do if ← isAt kinds then parser else other).Progresses := by
  refine behind (.still fun _ => rfl) ?_
  intro found
  cases found with
  | true => exact first
  | false => exact second

/-- A step that only fails progresses. -/
theorem fails (fails : ∀ feed, ∃ fault, parser.run feed = (.error fault, feed)) :
    parser.Progresses := by
  constructor
  · refine .still fun feed => ?_
    rcases fails feed with ⟨fault, ran⟩
    rw [ran]
  · intro feed rest value _ ran
    rcases fails feed with ⟨fault, failed⟩
    rw [failed] at ran
    cases ran

/-- If one way to read a value takes tokens and so does the other, the choice does. -/
theorem attempt_bind {next : Option α → Parser β} (first : parser.Progresses)
    (found : ∀ value, (next (some value)).Forward) (second : (next none).Progresses) :
    (Parser.attempt parser >>= next).Progresses := by
  constructor
  · refine first.forward.attempt.bind ?_
    rintro (_ | value)
    · exact second.forward
    · exact found value
  · intro feed rest result last ran
    rcases run_bind_eq_ok_iff.1 ran with ⟨value?, middle, tried, went⟩
    rw [run_attempt] at tried
    rcases read : parser.run feed with ⟨fault | value, behind⟩
    · rw [read] at tried
      dsimp only at tried
      split at tried
      · cases tried
        exact second.index_lt last went
      · cases tried
    · rw [read] at tried
      cases tried
      have onward := first.forward.of_run last read
      have further := (found value).of_run (onward.last_eq ▸ last) went
      exact Nat.lt_of_lt_of_le (first.index_lt last read) further.index_le

/-- A step that takes the next token if it is of a kind, and otherwise fails. -/
theorem ofKind (kind : TokenKind) (eof : kind ≠ .eof)
    (taken : ∀ feed, feed.current.kind = kind → (parser.run feed).2 = feed.advance.2)
    (failed : ∀ feed, feed.current.kind ≠ kind → ∃ fault, parser.run feed = (.error fault, feed)) :
    parser.Progresses := by
  constructor
  · intro feed last
    by_cases same : feed.current.kind = kind
    · rw [taken feed same]
      exact Feed.onward_advance last
    · rcases failed feed same with ⟨fault, ran⟩
      rw [ran]
      exact .refl feed
  · intro feed rest value _ ran
    by_cases same : feed.current.kind = kind
    · have moved : rest = feed.advance.2 := by rw [← taken feed same, ran]
      rw [moved]
      exact Feed.index_lt_advance (same ▸ eof)
    · rcases failed feed same with ⟨fault, refused⟩
      rw [refused] at ran
      cases ran

theorem expect {kind : TokenKind} (eof : kind ≠ .eof) : (Parser.expect kind).Progresses := by
  refine ofKind kind eof ?_ ?_
  · intro feed same
    rw [run_expect, if_pos same]
  · intro feed other
    exact ⟨_, by rw [run_expect, if_neg other]⟩

/-- To take any token progresses, if an end mark is refused. -/
theorem advance_bind {next : Token → Parser β} (forward : ∀ token, (next token).Forward)
    (refused : ∀ token feed, token.kind = .eof → ∃ fault rest,
      (next token).run feed = (.error fault, rest)) : (Parser.advance >>= next).Progresses := by
  refine ⟨Forward.advance.bind forward, ?_⟩
  intro feed rest value last ran
  rw [run_bind, run_advance] at ran
  dsimp only at ran
  by_cases eof : feed.current.kind = .eof
  · rcases refused feed.current feed.advance.2 eof with ⟨fault, behind, failed⟩
    rw [failed] at ran
    cases ran
  · have onward := Feed.onward_advance last
    have further := (forward feed.current).of_run (onward.last_eq ▸ last) ran
    exact Nat.lt_of_lt_of_le (Feed.index_lt_advance eof) further.index_le

end Progresses

end Parser

end GuardLang

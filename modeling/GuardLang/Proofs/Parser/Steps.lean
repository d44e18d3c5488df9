import GuardLang.Proofs.Brackets

/-!
# Parsers on given tokens

What the single steps of a parser do when the tokens ahead are known, and the
one that looks further ahead: a group is taken whole if the tokens inside it are
nested.

A parser that needs a token finds the end mark once no token is ahead.  An end
mark is never taken, so such a parser fails where it stands.
-/

namespace GuardLang

/-! ## Feeds -/

namespace Feed

variable {feed : Feed} {token : Token} {rest : List Token}

theorem current_of_nil (ahead : feed.ahead = []) : feed.current = feed.last := by
  simp [current, ahead]

theorem current_of_cons (ahead : feed.ahead = token :: rest) : feed.current = token := by
  simp [current, ahead]

theorem atEnd_of_nil (ahead : feed.ahead = []) (last : feed.last.kind = .eof) :
    feed.atEnd = true := by
  simp [atEnd, current_of_nil ahead, last]

theorem atEnd_of_cons (ahead : feed.ahead = token :: rest) (eof : token.kind ≠ .eof) :
    feed.atEnd = false := by
  simp [atEnd, current_of_cons ahead, eof]

/-- A token that marks no end is taken. -/
theorem advance_of_cons (ahead : feed.ahead = token :: rest) (eof : token.kind ≠ .eof) :
    feed.advance.2 = feed.skip 1 := by
  simp [advance, atEnd_of_cons ahead eof]

theorem skip_ahead_of_append {taken rest : List Token} (ahead : feed.ahead = taken ++ rest) :
    (feed.skip taken.length).ahead = rest := by
  simp [ahead]

theorem skip_ahead_of_cons (ahead : feed.ahead = token :: rest) : (feed.skip 1).ahead = rest := by
  simp [ahead]

/-- Tokens of a window that mark no end are ahead. -/
theorem le_of_take_window {n taken : Nat} (last : feed.last.kind = .eof)
    (marks : ∀ token ∈ (feed.window (n + 1)).take taken, token.kind ≠ .eof) :
    taken ≤ feed.ahead.length := by
  rcases Nat.lt_or_ge feed.ahead.length taken with more | fits
  · refine absurd last (marks feed.last ?_)
    rw [window, List.take_append, List.take_replicate]
    apply List.mem_append_right
    rw [List.mem_replicate]
    exact ⟨by omega, rfl⟩
  · exact fits

end Feed

/-! ## Single steps -/

namespace Parser

@[simp]
theorem run_isAt (kinds : List TokenKind) (feed : Feed) :
    (isAt kinds).run feed = (.ok (kinds.contains feed.current.kind), feed) :=
  rfl

@[simp]
theorem run_atEnd (feed : Feed) : atEnd.run feed = (.ok feed.atEnd, feed) :=
  rfl

@[simp]
theorem run_ofExcept {α : Type} (outcome : Except Fault α) (feed : Feed) :
    (ofExcept outcome).run feed = (outcome, feed) :=
  rfl

theorem run_attempt {α : Type} (parser : Parser α) (feed : Feed) :
    (attempt parser).run feed =
      match parser.run feed with
      | (.ok value, rest) => (.ok (some value), rest)
      | (.error fault, rest) =>
        if fault.isGrammatical then (.ok none, feed) else (.error fault, rest) :=
  rfl

/-- A token of the expected kind is taken. -/
theorem run_expect_of_cons {feed : Feed} {token : Token} {rest : List Token} {kind : TokenKind}
    (ahead : feed.ahead = token :: rest) (same : token.kind = kind) (eof : kind ≠ .eof) :
    (expect kind).run feed = (.ok token, feed.skip 1) := by
  have mark : token.kind ≠ .eof := same ▸ eof
  rw [run_expect, Feed.current_of_cons ahead, if_pos same, Feed.advance_of_cons ahead mark]

/-- A step that expects a token and gives one has taken the next token. -/
theorem cons_of_run_expect {feed rest : Feed} {token : Token} {kind : TokenKind}
    (last : feed.last.kind = .eof) (eof : kind ≠ .eof)
    (ran : (expect kind).run feed = (.ok token, rest)) :
    ∃ tokens, feed.ahead = token :: tokens ∧ token.kind = kind ∧ rest = feed.skip 1 := by
  rw [run_expect] at ran
  split at ran
  · rename_i same
    cases ahead : feed.ahead with
    | nil =>
        rw [Feed.current_of_nil ahead, last] at same
        exact absurd same.symm eof
    | cons first tokens =>
        rw [Feed.current_of_cons ahead] at ran same
        rw [Feed.advance_of_cons ahead (same ▸ eof)] at ran
        cases ran
        exact ⟨tokens, rfl, same, rfl⟩
  · cases ran

/-! ## Groups -/

/-- A group is taken up to the bracket at which its tokens are split, whatever stands
behind it. -/
theorem run_group_of_split {feed : Feed} {opener closer : Token} {inner rest : List Token}
    (ahead : feed.ahead = opener :: (inner ++ closer :: rest))
    (opening : opener.kind = .opening .round)
    (splits : ∀ more, splitGroup 0 (inner ++ closer :: more) = some (inner, closer, more)) :
    group.run feed =
      (.ok ⟨{ ahead := inner, last := .endAt closer.span.opening, source := feed.source },
          opener.span.join closer.span⟩,
        feed.skip (inner.length + 2)) := by
  have expected : (expect (.opening .round)).run feed = (.ok opener, feed.skip 1) :=
    run_expect_of_cons ahead opening (by simp)
  have window : (feed.skip 1).window ((feed.skip 1).ahead.length + 1) =
      inner ++ closer :: (rest ++ List.replicate ((feed.skip 1).ahead.length + 1) feed.last) := by
    simp [Feed.window, ahead]
  have split := splits (rest ++ List.replicate ((feed.skip 1).ahead.length + 1) feed.last)
  rw [← window] at split
  rw [group, run_bind, expected]
  dsimp only
  rw [run_takeBy, split]
  dsimp only
  rw [Feed.skip_skip, Nat.add_comm 1]
  rfl

/-- A group whose tokens are nested is taken up to its closing bracket. -/
theorem run_group_of_nested {feed : Feed} {opener closer : Token} {inner rest : List Token}
    (ahead : feed.ahead = opener :: (inner ++ closer :: rest))
    (opening : opener.kind = .opening .round) (closing : closer.kind = .closing .round)
    (nested : Nested inner) :
    group.run feed =
      (.ok ⟨{ ahead := inner, last := .endAt closer.span.opening, source := feed.source },
          opener.span.join closer.span⟩,
        feed.skip (inner.length + 2)) :=
  run_group_of_split ahead opening fun _ => splitGroup_of_nested nested (by rw [closing]; rfl)

end Parser

end GuardLang

import GuardLang.Proofs.Cursor.Groups
import GuardLang.Proofs.Grammar.Reads

/-!
# Patterns at a cursor

A pattern is a string, or else a path.  Each is tried in turn, and one that fails puts back
all that it has taken.  A path goes on as long as a separator and a name follow, and fails
if a separator follows that has no name behind it.  So it is read exactly if the longest
path at the cursor ends where no separator stands.

Nothing is asked of the tokens but that an end mark is the last of them: they need not come
from a scan, and may have end marks and brackets anywhere.

Main statement: `Cursor.run_pattern_cases`.
-/

namespace GuardLang

/-! ## The longest path -/

namespace Rule

variable {tokens run rest : List Token} {text : Text}

theorem Path.text_eq (path : Path tokens text) : text = tokens.flatMap Token.value := by
  induction path with
  | name => simp
  | segment _ _ _ ih => simp [ih]

/-- A path ends with a name. -/
theorem Path.exists_last (path : Path tokens text) :
    ∃ front name, tokens = front ++ [name] ∧ name.kind = .identifier := by
  cases path with
  | @name name identifier => exact ⟨[], name, rfl, identifier⟩
  | @segment tokens text separator name _ _ identifier =>
      exact ⟨tokens ++ [separator], name, by simp, identifier⟩

/-- What a longer path adds to a path begins with a separator and a name. -/
theorem Path.exists_segment {extra : List Token} {text' : Text} (path : Path run text)
    (longer : Path (run ++ extra) text') (proper : extra ≠ []) :
    ∃ separator name more, extra = separator :: name :: more ∧
      Grammar.isSeparator separator.kind = true ∧ name.kind = .identifier := by
  generalize whole : run ++ extra = tokens at longer
  induction longer generalizing extra with
  | name =>
      obtain ⟨front, last, rfl, _⟩ := path.exists_last
      have length := congrArg List.length whole
      have extra_pos := List.length_pos_iff.2 proper
      simp only [List.length_append, List.length_singleton] at length
      omega
  | @segment tokens text separator name _ separates identifier ih =>
      rw [← Grammar.isSeparator_iff] at separates
      rcases List.append_eq_append_iff.1 whole with
        ⟨gap, tokens_eq, rfl⟩ | ⟨_ | ⟨other, _ | ⟨another, gap⟩⟩, rfl, tail⟩
      · cases gap with
        | nil => exact ⟨separator, name, [], rfl, separates, identifier⟩
        | cons =>
            obtain ⟨first, second, more, gap_eq, isSep, isName⟩ := ih (by simp) tokens_eq.symm
            exact ⟨first, second, more ++ [separator, name], by rw [gap_eq]; rfl, isSep, isName⟩
      · exact ⟨separator, name, [], tail.symm, separates, identifier⟩
      · -- The shorter path would end with the separator.
        cases tail
        obtain ⟨front, last, split, isName⟩ := path.exists_last
        cases (List.append_inj' split rfl).2
        rw [isName] at separates
        cases separates
      · have nothing : gap ++ extra = [] := by
          simpa using (congrArg (List.drop 2) tail).symm
        exact absurd (List.append_eq_nil_iff.1 nothing).2 proper

/-- The run is the longest path that some tokens begin with. -/
structure LongestPath (tokens run : List Token) : Prop where
  path : ∃ text, Path run text
  begins : run <+: tokens
  longest : ∀ other text, Path other text → other <+: tokens → other <+: run

theorem LongestPath.unique {other : List Token} (first : LongestPath tokens run)
    (second : LongestPath tokens other) : run = other := by
  obtain ⟨text, path⟩ := first.path
  obtain ⟨text', path'⟩ := second.path
  exact (second.longest run text path first.begins).eq_of_length_le
    (first.longest other text' path' second.begins).length_le

/-- A path is the longest one if no separator and name follow. -/
theorem Path.longest (path : Path run text)
    (stuck : ∀ separator name more, rest = separator :: name :: more →
      Grammar.isSeparator separator.kind = true → name.kind ≠ .identifier) :
    LongestPath (run ++ rest) run := by
  refine ⟨⟨text, path⟩, List.prefix_append run rest, ?_⟩
  intro other text' path' begins
  rcases List.prefix_or_prefix_of_prefix begins (List.prefix_append run rest) with within | beyond
  · exact within
  · obtain ⟨extra, rfl⟩ := beyond
    by_cases proper : extra = []
    · simp [proper]
    · obtain ⟨separator, name, more, rfl, separates, identifier⟩ :=
        path.exists_segment path' proper
      obtain ⟨behind, rest_eq⟩ := (List.prefix_append_right_inj run).1 begins
      exact absurd identifier (stuck separator name (more ++ behind) rest_eq.symm separates)

end Rule

/-! ## Steps in turn -/

namespace Parser

variable {α β : Type} {parser : Parser α} {feed rest : Feed}

theorem run_bind_of_ok {next : α → Parser β} {value : α}
    (ran : parser.run feed = (.ok value, rest)) :
    (parser >>= next).run feed = (next value).run rest := by
  rw [run_bind, ran]

theorem run_attempt_of_ok {value : α} (ran : parser.run feed = (.ok value, rest)) :
    (attempt parser).run feed = (.ok (some value), rest) := by
  rw [run_attempt, ran]

/-- An attempt that fails for the grammar puts back what it has taken. -/
theorem run_attempt_of_error {fault : Fault} (ran : parser.run feed = (.error fault, rest))
    (grammatical : fault.isGrammatical = true) : (attempt parser).run feed = (.ok none, feed) := by
  rw [run_attempt, ran]
  exact if_pos grammatical

end Parser

/-! ## Paths that are read -/

/-- What a window holds behind tokens that mark no end is the rest of what is ahead, and the
copies of the last token. -/
theorem Feed.exists_split_window {feed : Feed} {n : Nat} {taken rest : List Token}
    (last : feed.last.kind = .eof) (split : feed.window (n + 1) = taken ++ rest)
    (marks : ∀ token ∈ taken, token.kind ≠ .eof) :
    ∃ behind, feed.ahead = taken ++ behind ∧
      rest = behind ++ List.replicate (n + 1) feed.last := by
  have fits : taken.length ≤ feed.ahead.length := by
    apply Feed.le_of_take_window last
    rw [split, List.take_left]
    exact marks
  rcases List.append_eq_append_iff.1 split with
    ⟨gap, rfl, rest_eq⟩ | ⟨gap, ahead, rest_eq⟩
  · have nothing : gap = [] := by
      apply List.eq_nil_of_length_eq_zero
      rw [List.length_append] at fits
      omega
    exact ⟨[], by simp [nothing], by simpa [nothing] using rest_eq.symm⟩
  · exact ⟨gap, ahead, rest_eq⟩

/-- The names among some tokens. -/
def names (tokens : List Token) : List Token :=
  tokens.filter fun token => token.kind == .identifier

namespace Grammar

theorem spanOf?_concat {tokens : List Token} {span : Span} (spanned : spanOf? tokens = some span)
    (token : Token) : spanOf? (tokens ++ [token]) = some (span.join token.span) := by
  cases tokens with
  | nil => cases spanned
  | cons first rest =>
      cases spanned
      simp [spanOf?]

theorem names_segment {separator name : Token} (separates : isSeparator separator.kind = true)
    (identifier : name.kind = .identifier) (tokens : List Token) :
    names (tokens ++ [separator, name]) = names tokens ++ [name] := by
  have mark : separator.kind ≠ .identifier := by
    intro same
    rw [same] at separates
    cases separates
  simp [names, mark, identifier]

/-- Segments are read as long as a separator and a name follow.  What follows them is no
separator, or it is one without a name behind it and reading fails. -/
theorem segments_cases {passed tokens : List Token} {read : Spanned Text}
    (path : Rule.Path passed read.item) (spanned : spanOf? (names passed) = some read.span)
    (last : ∀ token ∈ tokens.getLast?, isSeparator token.kind = false) :
    ∃ more rest text, tokens = more ++ rest ∧ Rule.Path (passed ++ more) text ∧
      ((PathEnd rest ∧ ∃ span, spanOf? (names (passed ++ more)) = some span ∧
          segments read tokens = (.ok ⟨text, span⟩, more.length)) ∨
        ∃ separator name behind, rest = separator :: name :: behind ∧
          isSeparator separator.kind = true ∧ name.kind ≠ .identifier ∧
          segments read tokens =
            (.error (.located (.expectedToken .identifier name.found) name.span),
              more.length + 1)) := by
  fun_induction segments read tokens generalizing passed with
  | case1 read separator name tokens separates identifier outcome taken rec ih =>
      have longer : spanOf? (names (passed ++ [separator, name])) =
          some (read.span.join name.span) := by
        rw [names_segment separates identifier]
        exact spanOf?_concat spanned name
      have last' : ∀ token ∈ tokens.getLast?, isSeparator token.kind = false := by
        intro token ending
        exact last token (by simp [List.getLast?_cons, Option.mem_def.1 ending])
      obtain ⟨more, rest, text, rfl, further, outcomes⟩ :=
        ih (path.segment (isSeparator_iff.1 separates) identifier) longer last'
      rw [rec] at outcomes
      rw [List.append_assoc] at further outcomes
      refine ⟨separator :: name :: more, rest, text, rfl, further, ?_⟩
      rcases outcomes with
        ⟨ends, span, covers, ran⟩ | ⟨stray, other, behind, ahead, isSep, none, ran⟩
      · cases ran
        exact .inl ⟨ends, span, covers, rfl⟩
      · cases ran
        exact .inr ⟨stray, other, behind, ahead, isSep, none, rfl⟩
  | case2 read separator name tokens separates identifier =>
      exact ⟨[], _, read.item, rfl, by simpa using path,
        .inr ⟨separator, name, tokens, rfl, separates, identifier, rfl⟩⟩
  | case3 read separator name tokens separates =>
      refine ⟨[], _, read.item, rfl, by simpa using path,
        .inl ⟨?_, read.span, by simpa using spanned, rfl⟩⟩
      rintro _ ⟨⟩
      simpa using separates
  | case4 tokens read short =>
      refine ⟨[], tokens, read.item, rfl, by simpa using path,
        .inl ⟨?_, read.span, by simpa using spanned, rfl⟩⟩
      rcases tokens with _ | ⟨token, _ | ⟨other, tokens⟩⟩
      · simp [PathEnd]
      · rintro _ ⟨⟩
        exact last token rfl
      · exact absurd rfl (short token other tokens)

/-- Where a name stands there is a longest path, and it is read exactly if it ends where no
separator stands. -/
theorem run_path_of_name {feed : Feed} {first : Token} {tokens : List Token}
    (last : feed.last.kind = .eof) (ahead : feed.ahead = first :: tokens)
    (identifier : first.kind = .identifier) :
    ∃ run rest text, feed.ahead = run ++ rest ∧ Rule.Path run text ∧
      Rule.LongestPath feed.ahead run ∧
      ((PathEnd rest ∧ ∃ span, spanOf? (names run) = some span ∧
          path.run feed = (.ok ⟨text, span⟩, feed.skip run.length)) ∨
        (¬ PathEnd rest ∧ ∃ fault behind, path.run feed = (.error fault, behind) ∧
          fault.isGrammatical = true)) := by
  have mark : isSeparator feed.last.kind = false := by rw [last]; rfl
  have covers : spanOf? (names [first]) = some first.span := by simp [names, identifier, spanOf?]
  obtain ⟨more, window, text, split, longer, outcomes⟩ :=
    @segments_cases [first] ((feed.skip 1).window 2) ⟨first.value, first.span⟩
      (.name identifier) covers (by simp [Feed.window, mark])
  -- No token of a path marks the end, so all of them are ahead.
  have marks : ∀ token ∈ more, token.kind ≠ .eof := fun token member =>
    longer.nested.kind_ne_eof token (List.mem_cons_of_mem _ member)
  obtain ⟨rest, behind, rfl⟩ :=
    @Feed.exists_split_window (feed.skip 1) 1 more window last split marks
  rw [Feed.skip_ahead_of_cons ahead] at behind
  subst behind
  have ran : path.run feed =
      ((segments ⟨first.value, first.span⟩ ((feed.skip 1).window 2)).1,
        feed.skip ((segments ⟨first.value, first.span⟩ ((feed.skip 1).window 2)).2 + 1)) := by
    rw [path, Parser.run_bind, Parser.run_expect_of_cons ahead identifier (by simp)]
    dsimp only
    rw [Parser.run_takeBy, Feed.skip_skip, Nat.add_comm 1]
  rcases outcomes with
    ⟨ends, span, covered, read⟩ | ⟨separator, name, others, stray, separates, none, read⟩
  · have ends' : PathEnd rest := by
      cases rest with
      | nil => simp [PathEnd]
      | cons => exact ends
    refine ⟨first :: more, rest, text, ahead, longer, ?_, .inl ⟨ends', span, covered, ?_⟩⟩
    · rw [ahead]
      refine longer.longest ?_
      rintro separator name _ rfl separates
      rw [ends' separator.kind rfl] at separates
      cases separates
    · rw [ran, read]
      rfl
  · refine ⟨first :: more, rest, text, ahead, longer, ?_, .inr ⟨?_, _, _, by rw [ran, read], rfl⟩⟩
    · rw [ahead]
      refine longer.longest ?_
      rintro other another _ rfl _
      cases stray
      exact none
    · intro ends
      cases rest with
      | nil =>
          obtain ⟨rfl, _⟩ := List.cons.inj stray
          rw [Feed.skip_last, mark] at separates
          cases separates
      | cons token rest =>
          obtain ⟨rfl, _⟩ := List.cons.inj stray
          rw [ends token.kind rfl] at separates
          cases separates

/-- Where no name stands no path is read. -/
theorem run_path_of_other {feed : Feed} (other : feed.current.kind ≠ .identifier) :
    path.run feed =
      (.error (.located (.expectedToken .identifier feed.current.found) feed.current.span),
        feed) := by
  rw [path, Parser.run_bind, Parser.run_expect, if_neg other]

section

variable {feed rest : Feed}

/-- A string is a pattern. -/
theorem run_pattern_of_string (string : feed.current.kind = .string) :
    pattern.run feed =
      (.ok ⟨.literal feed.current.value, feed.current.span⟩, feed.advance.2) := by
  simp [pattern, Parser.run_attempt, Parser.run_expect, string]

/-- Where no string stands, the attempt to read one takes nothing. -/
theorem run_pattern_of_other (other : feed.current.kind ≠ .string) :
    pattern.run feed =
      (Parser.attempt path >>= fun
        | some constant => pure ⟨.path constant.item, constant.span⟩
        | none => do
          let token ← Parser.current
          Parser.failAt token.span (.expectedPattern token.found)).run feed := by
  have missing : (Parser.expect .string).run feed =
      (.error (.located (.expectedToken .string feed.current.found) feed.current.span), feed) := by
    rw [Parser.run_expect, if_neg other]
  exact Parser.run_bind_of_ok (Parser.run_attempt_of_error missing rfl)

theorem run_pattern_of_path {constant : Spanned Text} (other : feed.current.kind ≠ .string)
    (ran : path.run feed = (.ok constant, rest)) :
    pattern.run feed = (.ok ⟨.path constant.item, constant.span⟩, rest) := by
  rw [run_pattern_of_other other]
  exact Parser.run_bind_of_ok (Parser.run_attempt_of_ok ran)

/-- Where neither is read nothing is taken, and the fault is where the pattern should
begin. -/
theorem run_pattern_of_neither {fault : Fault} (other : feed.current.kind ≠ .string)
    (ran : path.run feed = (.error fault, rest)) (grammatical : fault.isGrammatical = true) :
    pattern.run feed =
      (.error (.located (.expectedPattern feed.current.found) feed.current.span), feed) := by
  rw [run_pattern_of_other other]
  exact Parser.run_bind_of_ok (Parser.run_attempt_of_error ran grammatical)

end

end Grammar

/-! ## Patterns at a cursor -/

namespace Cursor

/-- The longest path at the cursor's place, which no separator follows. -/
structure AtPath (cursor : Cursor) (run : List Token) : Prop where
  longest : Rule.LongestPath (cursor.tokens.drop cursor.index) run
  ends : PathEnd (cursor.tokens.drop (cursor.index + run.length))

/-- At a cursor a path is read exactly where one stands that no separator follows. -/
theorem run_path_cases {cursor : Cursor} (last : cursor.last.kind = .eof) :
    (∃ run text span, cursor.AtPath run ∧ Rule.Path run text ∧
      Grammar.spanOf? (names run) = some span ∧
      Grammar.path.run cursor.feed = (.ok ⟨text, span⟩, cursor.feed.skip run.length)) ∨
    ((¬ ∃ run, cursor.AtPath run) ∧ ∃ fault behind,
      Grammar.path.run cursor.feed = (.error fault, behind) ∧ fault.isGrammatical = true) := by
  by_cases identifier : cursor.feed.current.kind = .identifier
  · cases ahead : cursor.feed.ahead with
    | nil =>
        rw [Feed.current_of_nil ahead, feed, last] at identifier
        cases identifier
    | cons first tokens =>
        rw [Feed.current_of_cons ahead] at identifier
        obtain ⟨run, rest, text, split, path, longest, outcomes⟩ :=
          Grammar.run_path_of_name last ahead identifier
        have behind : cursor.tokens.drop (cursor.index + run.length) = rest := by
          rw [← List.drop_drop]
          exact Feed.skip_ahead_of_append split
        rcases outcomes with ⟨ends, span, covered, ran⟩ | ⟨ends, fault, after, ran, grammatical⟩
        · exact .inl ⟨run, text, span, ⟨longest, behind ▸ ends⟩, path, covered, ran⟩
        · refine .inr ⟨?_, fault, after, ran, grammatical⟩
          rintro ⟨other, atPath⟩
          cases atPath.longest.unique longest
          exact ends (behind ▸ atPath.ends)
  · refine .inr ⟨?_, _, _, Grammar.run_path_of_other identifier, rfl⟩
    rintro ⟨run, atPath⟩
    obtain ⟨text, path⟩ := atPath.longest.path
    obtain ⟨rest, ahead⟩ := atPath.longest.begins
    cases run with
    | nil => cases path.starts
    | cons first run =>
        rw [Feed.current_of_cons (show cursor.feed.ahead = first :: (run ++ rest) from ahead.symm)]
          at identifier
        exact identifier (Option.some.inj path.starts)

/-- Alternatives of a pattern that fail take nothing.  Take any cursor over tokens the last of
which marks the end.  A pattern is read as a string exactly if a string stands there, and one
token is taken.  It is read as a path exactly if the longest path that begins there ends where
no separator stands; its tokens are taken, and it is the text of all of them.  In every other
case the fault is at the token where the cursor stands, and the cursor stays. -/
theorem run_pattern_cases {cursor : Cursor} (last : cursor.last.kind = .eof) :
    (∀ text span after, cursor.run Grammar.pattern = (.ok ⟨.literal text, span⟩, after) ↔
      (cursor.get cursor.index).kind = .string ∧ text = (cursor.get cursor.index).value ∧
        span = (cursor.get cursor.index).span ∧
        after = { cursor with index := cursor.index + 1 }) ∧
    (∀ text span after, cursor.run Grammar.pattern = (.ok ⟨.path text, span⟩, after) ↔
      ∃ run, cursor.AtPath run ∧ text = run.flatMap Token.value ∧
        Grammar.spanOf? (names run) = some span ∧
        after = { cursor with index := cursor.index + run.length }) ∧
    ((cursor.get cursor.index).kind ≠ .string → (¬ ∃ run, cursor.AtPath run) →
      (cursor.run Grammar.pattern).1.mapError Fault.diagnostic =
          .error ⟨.grammar,
            "regex must be either a string literal or a path that refers to a regex constant, " ++
              "got " ++ (cursor.get cursor.index).found.describe,
            some (cursor.get cursor.index).span⟩ ∧
        (cursor.run Grammar.pattern).2 = cursor) := by
  rw [← feed_current]
  by_cases string : cursor.feed.current.kind = .string
  · have taken : cursor.feed.advance.2 = cursor.feed.skip 1 := by
      rw [Feed.advance_of_not_atEnd (by simp [Feed.atEnd, string])]
    have none : ¬ ∃ run, cursor.AtPath run := by
      rcases run_path_cases last with ⟨run, text, span, _, _, _, ran⟩ | ⟨none, _⟩
      · rw [Grammar.run_path_of_other (by simp [string])] at ran
        cases ran
      · exact none
    rw [run, Grammar.run_pattern_of_string string, taken]
    refine ⟨?_, ?_, fun other => absurd string other⟩
    · intro text span after
      constructor
      · rintro ⟨⟩
        exact ⟨string, rfl, rfl, rfl⟩
      · rintro ⟨_, rfl, rfl, rfl⟩
        rfl
    · simp [not_exists.1 none]
  rcases run_path_cases last with
    ⟨tokens, read, place, atPath, path, covered, ran⟩ | ⟨none, fault, behind, ran, grammatical⟩
  · rw [run, Grammar.run_pattern_of_path string ran]
    refine ⟨?_, ?_, fun _ none => absurd ⟨tokens, atPath⟩ none⟩
    · simp [string]
    · intro text span after
      constructor
      · rintro ⟨⟩
        exact ⟨tokens, atPath, path.text_eq, covered, rfl⟩
      · rintro ⟨other, atPath', rfl, covered', rfl⟩
        cases atPath.longest.unique atPath'.longest
        cases covered.symm.trans covered'
        rw [path.text_eq]
        rfl
  · rw [run, Grammar.run_pattern_of_neither string ran grammatical]
    refine ⟨?_, ?_, fun _ _ => ⟨rfl, rfl⟩⟩
    · simp [string]
    · simp [not_exists.1 none]

/-- A path that is broken off behind its second name, in front of an end mark: the fault is at
its first name, and nothing is taken.  Behind the end mark stands a path of one name. -/
theorem run_pattern_broken_path :
    let first : Token := ⟨.identifier, ['a'], ⟨0, 1, 1, 1⟩⟩
    let third : Token := ⟨.identifier, ['c'], ⟨5, 6, 1, 6⟩⟩
    let cursor : Cursor :=
      { tokens :=
          [first, ⟨.dot, ['.'], ⟨1, 2, 1, 2⟩⟩, ⟨.identifier, ['b'], ⟨2, 3, 1, 3⟩⟩,
            ⟨.pathSep, [':', ':'], ⟨3, 5, 1, 4⟩⟩, .endAt ⟨5, 5, 1, 6⟩, third]
        last := .endAt ⟨6, 6, 1, 7⟩
        source := "a.b::c".toList }
    ((cursor.run Grammar.pattern).1.mapError Fault.diagnostic =
          .error ⟨.grammar, "regex must be either a string literal or a path that refers to a " ++
            "regex constant, got `a`", some first.span⟩ ∧
        (cursor.run Grammar.pattern).2 = cursor) ∧
      Cursor.run { cursor with index := 5 } Grammar.pattern =
        (.ok ⟨.path ['c'], third.span⟩, { cursor with index := 6 }) := by
  intro first third cursor
  constructor
  · refine (run_pattern_cases rfl).2.2 (by decide) ?_
    rintro ⟨run, atPath⟩
    have path : Rule.Path (cursor.tokens.take 3) _ := .segment (.name rfl) (.inl rfl) rfl
    have longest : Rule.LongestPath cursor.tokens (cursor.tokens.take 3) := by
      refine @Rule.Path.longest _ (cursor.tokens.drop 3) _ path ?_
      rintro _ _ _ ⟨⟩ _
      decide
    cases atPath.longest.unique longest
    cases atPath.ends .pathSep rfl
  · have path : Rule.Path [third] ['c'] := .name rfl
    refine ((run_pattern_cases rfl).2.1 _ _ _).2
      ⟨[third], ⟨?_, by simp [cursor, PathEnd]⟩, rfl, rfl, rfl⟩
    exact @Rule.Path.longest _ [] _ path (by simp)

end Cursor

end GuardLang

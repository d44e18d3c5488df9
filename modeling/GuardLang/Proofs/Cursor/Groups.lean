import GuardLang.Cursor
import GuardLang.Proofs.Parser.Reads
import GuardLang.Proofs.Scanner.Lossless
import GuardLang.Proofs.Scanner.Stack
import Mathlib.Data.List.Nodup

/-!
# Groups of a scan

A cursor over the tokens of a scan can be moved anywhere and enters every group that it
stands in front of, and so does the cursor over the tokens inside.  `Cursor.Descends`
are all the cursors that come about in this way.  The tokens of each are a nested part of
what the scan has found (`Descends.part`).

Main statement: taking a group, which counts brackets without regard to their kinds, stops
at the token that took the opening one off the stack of the scanner
(`Cursor.Descends.group_eq_matched`).
-/

namespace GuardLang

/-! ## Brackets that enclose a group -/

/-- Every opening bracket of a nested run has a closing one of its kind behind it, and
between the two the run is nested. -/
theorem Nested.exists_group_at {before behind : List Token} {opener : Token} {bracket : Bracket}
    (nested : Nested (before ++ opener :: behind)) (opening : opener.kind = .opening bracket) :
    ∃ inner closer rest, behind = inner ++ closer :: rest ∧ closer.kind = .closing bracket ∧
      Nested inner := by
  rcases extensible_iff.1 ⟨_, nested⟩ with ⟨opened, leaves⟩
  have closes : Closes (opener :: opened) behind :=
    (closes_cons_opening_iff opening).1 (leaves.nested_append_iff.1 nested)
  rcases closes.unwinds with ⟨_, inner, closer, rest, rfl, same, closing, inside, _⟩
  cases opening.symm.trans same
  exact ⟨inner, closer, rest, rfl, closing, inside⟩

/-- No token comes twice. -/
theorem Ordered.nodup {tokens : List Token} (ordered : Ordered tokens) : tokens.Nodup := by
  refine ordered.before.imp ?_
  rintro first _ before rfl
  exact Nat.lt_irrefl _ before.1

/-- An opening bracket is paired with one closing bracket at most. -/
theorem Paired.unique {tokens : List Token} {opener closer other : Token} (nodup : tokens.Nodup)
    (first : Paired tokens opener closer) (second : Paired tokens opener other) :
    closer = other := by
  rcases first with ⟨before, inner, after, _, rfl, _, closing, nested⟩
  rcases second with ⟨before', inner', after', _, same, _, closing', nested'⟩
  have once : opener ∉ before ++ (inner ++ closer :: after) :=
    (List.nodup_cons.1 (List.nodup_middle.1 nodup)).1
  rw [List.mem_append, not_or] at once
  rcases (List.append_cons_inj_of_notMem once.1 once.2).1 same with ⟨_, _, behind⟩
  -- Both closing brackets are where a count of brackets finds the end of the group.
  have found : Parser.splitGroup 0 (inner' ++ other :: after') = some (inner, closer, after) := by
    rw [← behind]
    exact Parser.splitGroup_of_nested nested (by rw [closing]; rfl)
  rw [Parser.splitGroup_of_nested nested' (by rw [closing']; rfl)] at found
  cases found
  rfl

namespace Cursor

/-! ## Cursors in groups -/

/-- A cursor that comes about by moving and by entering groups. -/
inductive Descends (root : Cursor) : Cursor → Prop
  | root : Descends root root
  | moved {cursor : Cursor} (index : Nat) : Descends root cursor →
      Descends root { cursor with index }
  | entered {cursor after : Cursor} {group : Spanned Feed} : Descends root cursor →
      cursor.run Parser.group = (.ok group, after) → Descends root (.ofFeed group.item)

/-- The tokens of the cursor are a nested part of what has been found, with an end mark
behind them. -/
structure Part (source : Text) (found : List Token) (cursor : Cursor) : Prop where
  source_eq : cursor.source = source
  last_kind : cursor.last.kind = .eof
  nested : Nested cursor.tokens
  among : cursor.tokens <:+: found

theorem feed_current (cursor : Cursor) : cursor.feed.current = cursor.get cursor.index := by
  simp [feed, Feed.current, get, List.headD_eq_head?_getD]

/-- The span of a group goes from the start of its opening bracket to the end of its
closing one. -/
theorem join_eq_through {before inner rest : List Token} {opener closer : Token}
    (ordered : Ordered (before ++ opener :: (inner ++ closer :: rest))) :
    opener.span.join closer.span = opener.span.through closer.span := by
  have behind : opener.Before closer :=
    List.rel_of_pairwise_cons ordered.right.before (by simp)
  have proper := ordered.right.proper closer (by simp)
  exact Span.join_of_le (Nat.le_of_lt behind.1)
    (Nat.le_trans behind.2 (Nat.le_of_lt proper))

namespace Part

variable {source : Text} {found : List Token} {cursor : Cursor}

/-- A group is taken wherever an opening parenthesis stands. -/
theorem exists_group (part : cursor.Part source found) (ordered : Ordered found)
    (opening : (cursor.get cursor.index).kind = .opening .round) :
    ∃ inner closer rest,
      cursor.tokens.drop cursor.index = cursor.get cursor.index :: (inner ++ closer :: rest) ∧
      closer.kind = .closing .round ∧ Nested inner ∧
      cursor.run Parser.group =
        (.ok ⟨{ ahead := inner, last := .endAt closer.span.opening, source },
            (cursor.get cursor.index).span.through closer.span⟩,
          { cursor with index := cursor.index + inner.length + 2 }) := by
  generalize same : cursor.get cursor.index = opener at opening ⊢
  rw [← feed_current] at same
  cases ahead : cursor.feed.ahead with
  | nil =>
      rw [Feed.current_of_nil ahead] at same
      rw [← same, feed, part.last_kind] at opening
      cases opening
  | cons token behind =>
      rw [Feed.current_of_cons ahead] at same
      subst same
      have split : cursor.tokens = cursor.tokens.take cursor.index ++ token :: behind := by
        rw [← ahead]
        exact (List.take_append_drop _ _).symm
      have nested := part.nested
      rw [split] at nested
      rcases nested.exists_group_at opening with ⟨inner, closer, rest, rfl, closing, inside⟩
      have order := ordered.sublist part.among.sublist
      rw [split] at order
      refine ⟨inner, closer, rest, ahead, closing, inside, ?_⟩
      rw [run, Parser.run_group_of_nested ahead opening closing inside, join_eq_through order]
      simp [feed, Feed.skip, part.source_eq, Nat.add_assoc]

/-- A group is entered at an opening parenthesis only. -/
theorem opening_of_run {after : Cursor} {group : Spanned Feed}
    (entered : cursor.run Parser.group = (.ok group, after)) :
    (cursor.get cursor.index).kind = .opening .round := by
  rcases ran : Parser.group.run cursor.feed with ⟨outcome, rest⟩
  rw [run, ran] at entered
  cases entered
  rcases Parser.run_bind_eq_ok_iff.1 ran with ⟨opener, middle, expected, _⟩
  rw [Parser.run_expect] at expected
  split at expected
  · rename_i opening
    rwa [feed_current] at opening
  · cases expected

/-- The cursor in a group is again over a nested part of what has been found. -/
theorem entered (part : cursor.Part source found) (ordered : Ordered found) {after : Cursor}
    {group : Spanned Feed} (entered : cursor.run Parser.group = (.ok group, after)) :
    (ofFeed group.item).Part source found := by
  rcases part.exists_group ordered (opening_of_run entered) with
    ⟨inner, closer, rest, split, _, nested, ran⟩
  cases entered.symm.trans ran
  refine ⟨rfl, rfl, nested, .trans ?_ part.among⟩
  refine .trans ?_ (List.drop_suffix cursor.index cursor.tokens).isInfix
  rw [split]
  exact ⟨[cursor.get cursor.index], closer :: rest, by simp [ofFeed]⟩

end Part

/-- Moving and entering groups never leave what the scan has found. -/
theorem Descends.part {source : Text} {found : List Token} {root cursor : Cursor}
    (descends : root.Descends cursor) (part : root.Part source found) (ordered : Ordered found) :
    cursor.Part source found := by
  induction descends with
  | root => exact part
  | moved _ _ ih => exact ⟨ih.source_eq, ih.last_kind, ih.nested, ih.among⟩
  | entered _ entered ih => exact ih.entered ordered entered

/-- The cursor over the tokens of a scan. -/
theorem part_of_tokenize {source : Text} {stream : List Token} {root : Cursor}
    (tokenized : tokenize source = .ok stream) (rooted : ofTokens? stream source = some root) :
    ∃ found, Lexed .start source found ∧ Nested found ∧ root.Part source found := by
  rcases tokenize_eq_ok_iff.1 tokenized with ⟨found, lexed, nested, rfl⟩
  simp only [ofTokens?, List.getLast?_append, List.getLast?_singleton, Option.some_or,
    Option.map_some, List.dropLast_concat, Option.some.injEq] at rooted
  subst rooted
  exact ⟨found, lexed, nested, rfl, rfl, nested, List.infix_rfl⟩

/-- Counting brackets agrees with the stack of the scanner.  Take any cursor that comes
about from the tokens of a scan by moving and by entering groups, and let it stand in front
of an opening parenthesis.  Taking a group succeeds, and takes the tokens up to the one that
the scanner has matched with the parenthesis, which is a closing parenthesis.  The feed of
the group has the tokens between the two, which are nested, and an end mark where the closing
parenthesis starts.  The span goes from the start of the one to the end of the other. -/
theorem Descends.group_eq_matched {source : Text} {stream : List Token} {root cursor : Cursor}
    (tokenized : tokenize source = .ok stream) (rooted : ofTokens? stream source = some root)
    (descends : root.Descends cursor)
    (opening : (cursor.get cursor.index).kind = .opening .round) :
    ∃ inner closer rest,
      cursor.tokens.drop cursor.index = cursor.get cursor.index :: (inner ++ closer :: rest) ∧
      (∀ other, Scanner.Matches source (cursor.get cursor.index) other ↔ other = closer) ∧
      closer.kind = .closing .round ∧ Nested inner ∧
      cursor.run Parser.group =
        (.ok
          ⟨{ ahead := inner
             last := .endAt
              ⟨closer.span.start, closer.span.start, closer.span.line, closer.span.column⟩
             source },
            ⟨(cursor.get cursor.index).span.start, closer.span.stop,
              (cursor.get cursor.index).span.line, (cursor.get cursor.index).span.column⟩⟩,
          { cursor with index := cursor.index + inner.length + 2 }) := by
  rcases part_of_tokenize tokenized rooted with ⟨found, lexed, nested, whole⟩
  have part := descends.part whole lexed.ordered
  rcases part.exists_group lexed.ordered opening with
    ⟨inner, closer, rest, split, closing, inside, ran⟩
  have paired : Paired found (cursor.get cursor.index) closer := by
    have among : cursor.get cursor.index :: (inner ++ closer :: rest) <:+: found := by
      rw [← split]
      exact (List.drop_suffix _ _).isInfix.trans part.among
    rcases among with ⟨before, after, rfl⟩
    exact ⟨before, inner, rest ++ after, .round, by simp, opening, closing, inside⟩
  refine ⟨inner, closer, rest, split, ?_, closing, inside, ran⟩
  intro other
  rw [Scanner.matches_iff lexed nested]
  constructor
  · intro another
    exact another.unique lexed.ordered.nodup paired
  · rintro rfl
    exact paired

/-- The parenthesis in front of `b`, in square brackets within a group: the first of the
two groups there. -/
theorem Descends.exists_matches_inner :
    ∃ closer, closer.kind = .closing .round ∧
      ∀ other, Scanner.Matches "(a[(b)()])".toList ⟨.opening .round, ['('], ⟨3, 4, 1, 4⟩⟩ other ↔
        other = closer := by
  let root : Cursor :=
    { tokens :=
        [⟨.opening .round, ['('], ⟨0, 1, 1, 1⟩⟩, ⟨.identifier, ['a'], ⟨1, 2, 1, 2⟩⟩,
          ⟨.opening .square, ['['], ⟨2, 3, 1, 3⟩⟩, ⟨.opening .round, ['('], ⟨3, 4, 1, 4⟩⟩,
          ⟨.identifier, ['b'], ⟨4, 5, 1, 5⟩⟩, ⟨.closing .round, [')'], ⟨5, 6, 1, 6⟩⟩,
          ⟨.opening .round, ['('], ⟨6, 7, 1, 7⟩⟩, ⟨.closing .round, [')'], ⟨7, 8, 1, 8⟩⟩,
          ⟨.closing .square, [']'], ⟨8, 9, 1, 9⟩⟩, ⟨.closing .round, [')'], ⟨9, 10, 1, 10⟩⟩]
      last := .endAt ⟨10, 10, 1, 11⟩
      source := "(a[(b)()])".toList }
  have tokenized : tokenize root.source = .ok (root.tokens ++ [root.last]) := by decide +kernel
  have entered : root.Descends _ := .entered .root (rfl : root.run Parser.group = (.ok _, _))
  rcases group_eq_matched tokenized rfl (entered.moved 2) rfl with
    ⟨_, closer, _, _, matched, closing, _⟩
  exact ⟨closer, closing, matched⟩

end Cursor

end GuardLang

import GuardLang.Proofs.Cursor.Groups
import GuardLang.Proofs.Cursor.Onward
import GuardLang.Proofs.Grammar.Reads
import GuardLang.Proofs.Scanner.Trimmed
import Mathlib.Logic.Relation

/-!
# Bodies of closures

The body of a closure is whatever stands behind its header, up to the end of the item it belongs
to.  It is found by counting brackets without regard to their kinds.  On the tokens of a scan
the count agrees with the nesting of the brackets and never drops below zero
(`Grammar.depth_nonneg`).

Main statement: `Cursor.Descends.closure_ends_item`.
-/

namespace GuardLang

/-! ## Where an item ends -/

/-- A place among tokens lies outside all brackets. -/
def Outside (tokens : List Token) (i : Nat) : Prop := Nested (tokens.take i)

/-- From one place on, the first comma outside all brackets stands at another; or there is none,
and the tokens end there. -/
structure ItemEndsAt (tokens : List Token) (start stop : Nat) : Prop where
  start_le : start ≤ stop
  stop_le : stop ≤ tokens.length
  outside : Outside tokens stop
  comma : ∀ token ∈ tokens[stop]?, token.kind = .comma
  first : ∀ i, start ≤ i → i < stop → Outside tokens i → ∀ token ∈ tokens[i]?, token.kind ≠ .comma

/-- In an unbroken run no comma stands behind nested tokens. -/
theorem Unbroken.kind_ne_comma {front back : List Token} {token : Token}
    (unbroken : Unbroken (front ++ token :: back)) (nested : Nested front) :
    token.kind ≠ .comma := by
  intro comma
  rcases nested.exists_unbroken with ⟨body, rest, rfl, inside, ending⟩
  have ends : ItemEnd (rest ++ token :: back) := by
    cases rest with
    | nil => exact itemEnd_cons_iff.2 comma
    | cons other rest => exact itemEnd_cons_iff.2 (itemEnd_cons_iff.1 ending)
  -- Counted up to the comma, the run is shorter than it is.
  have short := Grammar.bodyLength_of_unbroken inside ends
  have whole := Grammar.bodyLength_of_unbroken unbroken itemEnd_nil
  rw [List.append_nil, List.append_assoc, short, List.length_append, List.length_append,
    List.length_cons] at whole
  omega

/-- An unbroken run, with nested tokens in front of it, ends an item. -/
theorem Unbroken.itemEndsAt {before body rest : List Token} (outside : Nested before)
    (unbroken : Unbroken body) (ending : ItemEnd rest) :
    ItemEndsAt (before ++ (body ++ rest)) before.length (before.length + body.length) := by
  have whole : before ++ (body ++ rest) = (before ++ body) ++ rest := (List.append_assoc ..).symm
  refine ⟨Nat.le_add_right _ _, ?_, ?_, ?_, ?_⟩
  · simp only [List.length_append]
    omega
  · rw [Outside, whole, ← List.length_append, List.take_left]
    exact outside.append unbroken.nested
  · rw [whole, ← List.length_append, List.getElem?_append_right (Nat.le_refl _), Nat.sub_self,
      ← List.head?_eq_getElem?]
    exact ending
  · intro i passed short outer token there
    rcases Nat.exists_eq_add_of_le passed with ⟨k, rfl⟩
    have bound : k < body.length := Nat.lt_of_add_lt_add_left short
    rw [Outside, List.take_length_add_append,
      List.take_append_of_le_length (Nat.le_of_lt bound)] at outer
    rw [List.getElem?_append_right (Nat.le_add_right _ _), Nat.add_sub_cancel_left,
      List.getElem?_append_left bound] at there
    have split : body = body.take k ++ token :: body.drop (k + 1) := by
      rcases List.getElem?_eq_some_iff.1 there with ⟨_, rfl⟩
      rw [← List.drop_eq_getElem_cons bound, List.take_append_drop]
    rw [split] at unbroken
    exact unbroken.kind_ne_comma (outer.of_append outside)

/-! ## The count of brackets -/

namespace Grammar

/-- The loop that takes the body of a closure from a feed comes to a state. -/
def BodyState.Reached (feed : Feed) (state : BodyState) : Prop :=
  Relation.ReflTransGen (fun state next => bodyRound state = .again next) ⟨0, none, feed⟩ state

/-- The count of brackets is the number of those that the tokens ahead close. -/
structure BodyState.Balanced (state : BodyState) : Prop where
  last_kind : state.feed.last.kind = .eof
  closes : ∃ opened, Closes opened state.feed.ahead ∧ state.depth = opened.length

/-- The next token opens a bracket, which has to be closed then, closes the last one open, or
does neither. -/
theorem BodyState.Balanced.step {state next : BodyState} (balanced : state.Balanced)
    (going : bodyRound state = .again next) : next.Balanced := by
  rcases state with ⟨depth, span, feed⟩
  rcases balanced with ⟨last, opened, closes, rfl⟩
  rcases bodyRound_eq_again going with ⟨eof, rfl⟩
  dsimp only at last closes eof
  refine ⟨by simpa using last, ?_⟩
  cases ahead : feed.ahead with
  | nil =>
      rw [Feed.current_of_nil ahead] at eof
      exact absurd last eof
  | cons token rest =>
      rw [Feed.current_of_cons ahead] at eof ⊢
      rw [ahead] at closes
      rw [Feed.advance_of_cons ahead eof, Feed.skip_ahead_of_cons ahead]
      dsimp only
      cases closes with
      | plain plain behind =>
          exact ⟨opened, behind, by rw [depthChange_of_isPlain plain, Int.add_zero]⟩
      | opening opening behind =>
          have up : depthChange token.kind = 1 := by rw [opening]; rfl
          exact ⟨token :: opened, behind, by rw [up, List.length_cons]; omega⟩
      | @closing outer _ _ _ _ _ closing behind =>
          have down : depthChange token.kind = -1 := by rw [closing]; rfl
          exact ⟨outer, behind, by rw [down, List.length_cons]; omega⟩

/-- Where nested tokens are ahead, the count of brackets never drops below zero. -/
theorem depth_nonneg {feed : Feed} (last : feed.last.kind = .eof) (nested : Nested feed.ahead)
    {state : BodyState} (reached : state.Reached feed) : 0 ≤ state.depth := by
  have balanced : state.Balanced := by
    induction reached with
    | refl => exact ⟨last, [], closes_nil_iff.2 nested, rfl⟩
    | tail _ going ih => exact ih.step going
  rcases balanced.closes with ⟨opened, _, depth⟩
  rw [depth]
  exact Int.natCast_nonneg _

/-! ## Closures -/

variable {source : Text} {feed : Feed} {opening param closing : Token} {typing : List Token}
  {paramType : Option Text}

/-- A closure is read to the end of its header. -/
theorem run_closure_of_header {behind : List Token} (tidy : feed.Tidy source)
    (ahead : feed.ahead = opening :: param :: (typing ++ closing :: behind))
    (isOpening : opening.kind = .pipe) (isParam : param.kind = .identifier)
    (typed : Rule.ParamType typing paramType) (isClosing : closing.kind = .pipe) :
    closure.run feed =
      (closureEnd opening param paramType).run (feed.skip (typing.length + 2)) := by
  have first := Parser.run_expect_of_cons ahead isOpening (by simp)
  have ahead' : (feed.skip 1).ahead = param :: (typing ++ closing :: behind) :=
    Feed.skip_ahead_of_cons ahead
  have second := Parser.run_expect_of_cons ahead' isParam (by simp)
  have behind' : ((feed.skip 1).skip 1).ahead = typing ++ closing :: behind :=
    Feed.skip_ahead_of_cons ahead'
  have tidy' : ((feed.skip 1).skip 1).Tidy source :=
    (tidy.skip_one ahead (by rw [isOpening]; rfl)).skip_one ahead' (by rw [isParam]; rfl)
  rw [closure_eq, Parser.run_bind, first]
  dsimp only
  rw [Parser.run_bind, second]
  dsimp only
  rw [Parser.run_bind, Parser.run_isAt]
  dsimp only
  cases typed with
  | none =>
      rw [Feed.current_of_cons behind', isClosing, Feed.skip_skip]
      rfl
  | @typed colon tokens text isColon type =>
      rcases type.exists_cover? with ⟨span, covered⟩
      have inside := tidy'.skip_one behind' (by rw [isColon]; rfl)
      have whole : Rule.Whole Rule.TypeName tokens ⟨text, span⟩ := ⟨type, covered⟩
      have read := type_reads.complete inside (Feed.skip_ahead_of_cons behind') whole
        (by simp [PathEnd, isClosing, isSeparator])
      rw [Feed.current_of_cons behind', isColon]
      change (Parser.advance >>= _).run _ = _
      rw [Parser.run_bind, Parser.run_advance,
        Feed.advance_of_cons behind' (by simp [isColon])]
      dsimp only
      rw [Parser.run_bind, read]
      dsimp only
      simp only [Feed.skip_skip, List.length_cons]
      congr 2
      omega

/-- Behind its header a closure takes the unbroken run in front of the place where the item
ends. -/
theorem run_closureEnd {body rest : List Token} (tidy : feed.Tidy source)
    (ahead : feed.ahead = closing :: (body ++ rest)) (isClosing : closing.kind = .pipe)
    (unbroken : Unbroken body) (ending : ItemEnd rest) :
    (closureEnd opening param paramType).run feed =
      (closureOf source opening param paramType closing (cover? body),
        feed.skip (body.length + 1)) := by
  have first := Parser.run_expect_of_cons ahead isClosing (by simp)
  have behind : (feed.skip 1).ahead = body ++ rest := Feed.skip_ahead_of_cons ahead
  have tidy' := tidy.skip_one ahead (by rw [isClosing]; rfl)
  have second := closureBody_reads.complete tidy' behind ⟨unbroken, rfl⟩ ending
  rw [closureEnd, Parser.run_bind, first]
  dsimp only
  rw [Parser.run_bind, second]
  dsimp only
  rw [Parser.run_bind, Parser.run_feed, Feed.skip_skip, Nat.add_comm 1]
  cases cover? body with
  | none => rfl
  | some span =>
      rw [closureOf, ← tidy.source_eq]
      rfl

end Grammar

/-! ## Cursors -/

namespace Cursor

/-- The header of a closure stands at the cursor, up to the place `start`: a parameter between
bars, perhaps with a type. -/
structure ClosureHeader (cursor : Cursor) (opening param closing : Token)
    (paramType : Option Text) (start : Nat) : Prop where
  opening_kind : opening.kind = .pipe
  param_kind : param.kind = .identifier
  closing_kind : closing.kind = .pipe
  ahead : ∃ typing, Rule.ParamType typing paramType ∧ start = cursor.index + typing.length + 3 ∧
    cursor.tokens.drop cursor.index =
      opening :: param :: (typing ++ closing :: cursor.tokens.drop start)

namespace ClosureHeader

variable {cursor : Cursor} {opening param closing : Token} {paramType : Option Text} {start : Nat}

theorem start_le (header : cursor.ClosureHeader opening param closing paramType start) :
    start ≤ cursor.tokens.length := by
  rcases header.ahead with ⟨typing, _, start_eq, ahead⟩
  have length := congrArg List.length ahead
  simp only [List.length_drop, List.length_cons, List.length_append] at length
  omega

/-- Behind the header no bracket is open that was not open in front of it. -/
theorem outside (header : cursor.ClosureHeader opening param closing paramType start)
    (outside : Outside cursor.tokens cursor.index) : Outside cursor.tokens start := by
  rcases header with ⟨isOpening, isParam, isClosing, typing, typed, rfl, ahead⟩
  have taken : Unbroken (opening :: param :: (typing ++ [closing])) :=
    .of_kind isOpening rfl (by simp) (.of_kind isParam rfl (by simp)
      (typed.unbroken.append (.of_kind isClosing rfl (by simp) .nil)))
  have passed : cursor.tokens.take (cursor.index + typing.length + 3) =
      cursor.tokens.take cursor.index ++ opening :: param :: (typing ++ [closing]) := by
    rw [Nat.add_assoc, List.take_add, ahead, List.append_cons typing, ← List.cons_append,
      ← List.cons_append, List.take_left' (by simp)]
  rw [Outside, passed]
  exact Nested.append outside taken.nested

/-- A closure takes the unbroken run behind its header, up to where the item ends. -/
theorem run_closure (header : cursor.ClosureHeader opening param closing paramType start)
    {source : Text} (tidy : cursor.feed.Tidy source) {body rest : List Token}
    (behind : cursor.tokens.drop start = body ++ rest) (unbroken : Unbroken body)
    (ending : ItemEnd rest) :
    cursor.run Grammar.closure =
      (Grammar.closureOf source opening param paramType closing (cover? body),
        { cursor with index := start + body.length }) := by
  rcases header with ⟨isOpening, isParam, isClosing, typing, typed, rfl, ahead⟩
  rw [behind] at ahead
  have split : cursor.feed.ahead = (opening :: param :: typing) ++ closing :: (body ++ rest) :=
    ahead
  have taken : Nested (opening :: param :: typing) :=
    .plain (by rw [isOpening]; rfl) (.plain (by rw [isParam]; rfl) typed.unbroken.nested)
  have ended : (Grammar.closureEnd opening param paramType).run
      (cursor.feed.skip (typing.length + 2)) = _ :=
    Grammar.run_closureEnd (tidy.skip split taken) (Feed.skip_ahead_of_append split) isClosing
      unbroken ending
  have index_eq : cursor.index + (typing.length + 2) + (body.length + 1) =
      cursor.index + typing.length + 3 + body.length := by omega
  rw [run, Grammar.run_closure_of_header tidy ahead isOpening isParam typed isClosing, ended,
    ← index_eq]
  rfl

/-- The span of a closure goes from its first bar to the end of its body. -/
theorem join_through (header : cursor.ClosureHeader opening param closing paramType start)
    (ordered : Ordered cursor.feed.ahead) {body rest : List Token} {first last : Token}
    (behind : cursor.tokens.drop start = body ++ rest) (isFirst : body.head? = some first)
    (isLast : body.getLast? = some last) :
    opening.span.join (first.span.through last.span) = opening.span.through last.span := by
  rcases header.ahead with ⟨typing, _, _, ahead⟩
  rw [feed, ahead, behind] at ordered
  have before : ∀ token ∈ body, opening.Before token := fun token member =>
    List.rel_of_pairwise_cons ordered.before (by simp [member])
  have lastIn := List.mem_of_getLast? isLast
  have proper := ordered.proper last (by simp [lastIn])
  exact Span.join_of_le (Nat.le_of_lt (before first (List.mem_of_mem_head? isFirst)).1)
    (Nat.le_trans (before last lastIn).2 (Nat.le_of_lt proper))

end ClosureHeader

/-- What is ahead of a cursor outside all brackets is tidy. -/
theorem Part.tidy_of_outside {source : Text} {found : List Token} {cursor : Cursor}
    (part : cursor.Part source found) (lexed : Lexed .start source found)
    (outside : Outside cursor.tokens cursor.index) : cursor.feed.Tidy source := by
  have nested := part.nested
  rw [← List.take_append_drop cursor.index cursor.tokens] at nested
  have ahead : cursor.feed.ahead.Sublist found :=
    (List.drop_sublist _ _).trans part.among.sublist
  exact ⟨part.source_eq, part.last_kind, nested.of_append outside, lexed.ordered.sublist ahead,
    fun token member => lexed.stands token (ahead.subset member)⟩

/-- A run ahead of a place goes from that place to the one in front of its end. -/
theorem ends_of_drop {cursor : Cursor} {start : Nat} {body rest : List Token}
    (ahead : cursor.tokens.drop start = body ++ rest) (nonempty : 0 < body.length) :
    body.head? = some (cursor.get start) ∧
      body.getLast? = some (cursor.get (start + body.length - 1)) := by
  constructor
  · rw [List.head?_eq_getElem?, List.getElem?_eq_getElem nonempty]
    exact congrArg some (get_of_drop ahead nonempty).symm
  · rw [List.getLast?_eq_getElem?, List.getElem?_eq_getElem (Nat.sub_one_lt_of_lt nonempty),
      Nat.add_sub_assoc nonempty]
    exact congrArg some (get_of_drop ahead _).symm

/-- A closure ends where its item ends.  Take any cursor that comes about from the tokens of a
scan by moving and by entering groups, and let the header of a closure stand at its place,
outside all brackets.  The closure takes the tokens from behind the header up to the first comma
outside all brackets, or up to the end mark.  They are nested, and while they are taken the count
of brackets never drops below zero.  The body is what the source has from the start of the first
of them to the end of the last, with no blanks around it, and the span goes from the first bar to
the end of the body.  Only if there are none, the closure is refused for want of a body, at its
second bar. -/
theorem Descends.closure_ends_item {source : Text} {stream : List Token} {root cursor : Cursor}
    {opening param closing : Token} {paramType : Option Text} {start : Nat}
    (tokenized : tokenize source = .ok stream) (rooted : ofTokens? stream source = some root)
    (descends : root.Descends cursor) (outside : Outside cursor.tokens cursor.index)
    (header : cursor.ClosureHeader opening param closing paramType start) :
    ∃ stop, ItemEndsAt cursor.tokens start stop ∧
      Nested ((cursor.tokens.take stop).drop start) ∧
      (∀ state : Grammar.BodyState, state.Reached (feed { cursor with index := start }) →
        0 ≤ state.depth) ∧
      LoopsWithin Grammar.bodyRound (cursor.tokens.length - start + 1)
        ⟨0, none, feed { cursor with index := start }⟩
        (Grammar.closureBody.run (feed { cursor with index := start })) ∧
      (cursor.run Grammar.closure).2 = { cursor with index := stop } ∧
      (start = stop → ∃ fault, (cursor.run Grammar.closure).1 = .error fault ∧
        fault.diagnostic = ⟨.grammar, "Expected closure body", some closing.span⟩) ∧
      (start < stop →
        (cursor.run Grammar.closure).1 = .ok
          { form := .closure
            param := some param.value
            paramType
            body := some (source.slice (cursor.get start).span.start
              (cursor.get (stop - 1)).span.stop)
            span := ⟨opening.span.start, (cursor.get (stop - 1)).span.stop, opening.span.line,
              opening.span.column⟩ } ∧
        (source.slice (cursor.get start).span.start
          (cursor.get (stop - 1)).span.stop).Trimmed) := by
  rcases part_of_tokenize tokenized rooted with ⟨found, lexed, _, whole⟩
  have part := descends.part whole lexed.ordered
  have tidy := part.tidy_of_outside lexed outside
  have behind : (feed { cursor with index := start }).Tidy source :=
    (descends.moved start).part whole lexed.ordered |>.tidy_of_outside lexed
      (header.outside outside)
  rcases behind.nested.exists_unbroken with ⟨body, rest, split, unbroken, ending⟩
  have ran := header.run_closure tidy split unbroken ending
  change cursor.tokens.drop start = body ++ rest at split
  refine ⟨start + body.length, ?_, ?_, ?_, ?_, ?_, ?_, ?_⟩
  · have ends := unbroken.itemEndsAt (header.outside outside) ending
    rwa [← split, List.take_append_drop, List.length_take_of_le header.start_le] at ends
  · rw [List.drop_take, Nat.add_sub_cancel_left, split, List.take_left]
    exact unbroken.nested
  · intro state reached
    exact Grammar.depth_nonneg behind.last_kind behind.nested reached
  · have loops := Grammar.closureBody_loopsWithin behind.last_kind
    rwa [show (feed { cursor with index := start }).ahead = cursor.tokens.drop start from rfl,
      List.length_drop] at loops
  · rw [ran]
  · intro none
    have empty : body = [] := List.eq_nil_of_length_eq_zero (by omega)
    rw [ran, empty]
    exact ⟨_, rfl, rfl⟩
  · intro taken
    rcases ends_of_drop split (by omega) with ⟨isFirst, isLast⟩
    have covered : cover? body = some _ := cover?_eq_some_iff.2 ⟨_, _, isFirst, isLast, rfl⟩
    have among : body <:+: found := by
      refine .trans ?_ ((List.drop_suffix start cursor.tokens).isInfix.trans part.among)
      rw [split]
      exact (List.prefix_append body rest).isInfix
    constructor
    · rw [ran, covered, Grammar.closureOf, header.join_through tidy.ordered split isFirst isLast]
      rfl
    · exact lexed.trimmed_run among isFirst isLast

/-- A closure in a group, with brackets of two kinds in its body, a comma in them and one behind
it. -/
theorem Descends.closure_ends_before_trim :
    let group : List Token :=
      [⟨.pipe, ['|'], ⟨1, 2, 1, 2⟩⟩, ⟨.identifier, ['s'], ⟨2, 3, 1, 3⟩⟩,
        ⟨.colon, [':'], ⟨3, 4, 1, 4⟩⟩, ⟨.ampersand, ['&'], ⟨5, 6, 1, 6⟩⟩,
        ⟨.identifier, "str".toList, ⟨6, 9, 1, 7⟩⟩, ⟨.pipe, ['|'], ⟨9, 10, 1, 10⟩⟩,
        ⟨.opening .square, ['['], ⟨11, 12, 1, 12⟩⟩, ⟨.identifier, ['s'], ⟨12, 13, 1, 13⟩⟩,
        ⟨.comma, [','], ⟨13, 14, 1, 14⟩⟩, ⟨.identifier, ['g'], ⟨15, 16, 1, 16⟩⟩,
        ⟨.opening .round, ['('], ⟨16, 17, 1, 17⟩⟩, ⟨.identifier, ['s'], ⟨17, 18, 1, 18⟩⟩,
        ⟨.closing .round, [')'], ⟨18, 19, 1, 19⟩⟩, ⟨.closing .square, [']'], ⟨19, 20, 1, 20⟩⟩,
        ⟨.comma, [','], ⟨21, 22, 1, 22⟩⟩, ⟨.identifier, "trim".toList, ⟨23, 27, 1, 24⟩⟩]
    let cursor : Cursor :=
      { tokens := group
        last := .endAt ⟨27, 27, 1, 28⟩
        source := "(|s: &str| [s, g(s)] , trim)".toList }
    ∃ stop, ItemEndsAt group 6 stop ∧
      (cursor.run Grammar.closure).2 = { cursor with index := stop } := by
  intro group cursor
  let root : Cursor :=
    { tokens := ⟨.opening .round, ['('], ⟨0, 1, 1, 1⟩⟩ :: (group ++
        [⟨.closing .round, [')'], ⟨27, 28, 1, 28⟩⟩])
      last := .endAt ⟨28, 28, 1, 29⟩
      source := cursor.source }
  have tokenized : tokenize root.source = .ok (root.tokens ++ [root.last]) := by decide +kernel
  have entered : root.Descends cursor := .entered .root (rfl : root.run Parser.group = (.ok _, _))
  have header : cursor.ClosureHeader ⟨.pipe, ['|'], ⟨1, 2, 1, 2⟩⟩
      ⟨.identifier, ['s'], ⟨2, 3, 1, 3⟩⟩ ⟨.pipe, ['|'], ⟨9, 10, 1, 10⟩⟩ (some "&str".toList) 6 :=
    ⟨rfl, rfl, rfl, (group.take 5).drop 2, .typed rfl (.reference rfl (.name rfl)), rfl, rfl⟩
  rcases closure_ends_item tokenized rfl entered .nil header with
    ⟨stop, ends, _, _, _, stopped, _⟩
  exact ⟨stop, ends, stopped⟩

end Cursor

end GuardLang

import GuardLang.Proofs.Parser.Onward

/-!
# Loops over tokens

The library defines what takes many tokens by recursion on a list of tokens, or on a number that
bounds how often it goes on.  A reader of tokens has neither: it goes round and round, looks at
the next token each time, and stops when it has seen enough.  Here a loop is given by what one
round does, and `Loops round n state result` says that it stops with a result in the `n`th round.

A loop that takes a token in each round but the last comes to an end, within one round more than
there are tokens ahead (`Round.Forward.loopsWithin`).  Groups and lists are such loops.
-/

namespace GuardLang

variable {σ ρ : Type}

/-- What one round of a loop comes to: a state to go on from, or a result. -/
inductive Round (σ ρ : Type) where
  | again (state : σ)
  | done (result : ρ)

/-- The result of a round or, where it goes on, of what `rest` comes to from there. -/
def Round.finish (rest : σ → ρ) : Round σ ρ → ρ
  | again state => rest state
  | done result => result

@[simp]
theorem Round.finish_again (rest : σ → ρ) (state : σ) : (again state).finish rest = rest state :=
  rfl

@[simp]
theorem Round.finish_done (rest : σ → ρ) (result : ρ) : (done result).finish rest = result :=
  rfl

/-- A loop comes from a state to its result in a number of rounds, the last one included. -/
inductive Loops (round : σ → Round σ ρ) : Nat → σ → ρ → Prop
  | done {state : σ} {result : ρ} : round state = .done result → Loops round 1 state result
  | again {n : Nat} {state next : σ} {result : ρ} : round state = .again next →
      Loops round n next result → Loops round (n + 1) state result

/-- A loop comes from a state to its result in a bounded number of rounds. -/
def LoopsWithin (round : σ → Round σ ρ) (bound : Nat) (state : σ) (result : ρ) : Prop :=
  ∃ n ≤ bound, Loops round n state result

/-- Every round goes on in the tokens ahead, and takes one unless it is the last round. -/
structure Round.Forward (round : σ → Round σ ρ) (feed : σ → Feed) (rest : ρ → Feed) : Prop where
  again : ∀ {state next}, (feed state).last.kind = .eof → round state = .again next →
    (feed state).Onward (feed next) ∧ (feed state).index < (feed next).index
  done : ∀ {state result}, (feed state).last.kind = .eof → round state = .done result →
    (feed state).Onward (rest result)

namespace Round.Forward

variable {round : σ → Round σ ρ} {feed : σ → Feed} {rest : ρ → Feed}

/-- A loop goes on in the tokens ahead if each round does. -/
theorem onward (forward : Round.Forward round feed rest) {bound : Nat} {state : σ} {result : ρ}
    (last : (feed state).last.kind = .eof) (loops : LoopsWithin round bound state result) :
    (feed state).Onward (rest result) := by
  rcases loops with ⟨n, -, loops⟩
  induction loops with
  | done ended => exact forward.done last ended
  | again going _ ih =>
      have onward := (forward.again last going).1
      exact onward.trans (ih (onward.last_eq ▸ last))

/-- A function that does a round and goes on, as long as it has fuel, is a loop that does not
run out of fuel: each round takes a token. -/
theorem loopsWithin (forward : Round.Forward round feed rest) (f : Nat → σ → ρ)
    (unfold : ∀ {fuel state}, (feed state).last.kind = .eof → (feed state).ahead.length ≤ fuel →
      f (fuel + 1) state = (round state).finish (f fuel))
    {fuel : Nat} (state : σ) (last : (feed state).last.kind = .eof)
    (enough : (feed state).ahead.length < fuel) :
    LoopsWithin round ((feed state).ahead.length + 1) state (f fuel state) := by
  induction fuel generalizing state with
  | zero => exact absurd enough (Nat.not_lt_zero _)
  | succ fuel ih =>
      have step := unfold last (Nat.le_of_lt_succ enough)
      cases ran : round state with
      | done result =>
          rw [ran] at step
          exact ⟨1, Nat.le_add_left _ _, step ▸ .done ran⟩
      | again next =>
          rw [ran] at step
          have further := forward.again last ran
          have fewer := further.1.length_lt further.2
          rcases ih next (further.1.last_eq ▸ last) (by omega) with ⟨n, bound, loops⟩
          exact ⟨n + 1, by omega, step ▸ .again ran loops⟩

end Round.Forward

namespace Parser

/-! ## Groups -/

/-- The state of a group that is being taken: the brackets open in it, the tokens inside so far,
and what lies ahead. -/
structure GroupState where
  depth : Nat
  inner : List Token
  feed : Feed

/-- A round of taking a group: one more token goes into it, unless the token closes it. -/
def groupRound (opener : Token) (state : GroupState) :
    Round GroupState (Except Fault (Spanned Feed) × Feed) :=
  let token := state.feed.current
  let rest := state.feed.advance.2
  let inner := state.inner ++ [token]
  if token.kind.isOpening then .again ⟨state.depth + 1, inner, rest⟩
  else if token.kind.isClosing then
    if state.depth = 0 then
      .done
        (.ok ⟨{ ahead := state.inner, last := .endAt token.span.opening, source := rest.source },
            opener.span.join token.span⟩,
          rest)
    else .again ⟨state.depth - 1, inner, rest⟩
  else if token.kind = .eof then
    .done (.error (.located (.unclosed ['(']) opener.span), rest)
  else .again ⟨state.depth, inner, rest⟩

theorem groupRound_forward (opener : Token) :
    Round.Forward (groupRound opener) GroupState.feed Prod.snd := by
  constructor
  · intro state next last going
    have eof : state.feed.current.kind ≠ .eof := by
      intro eof
      simp [groupRound, eof, TokenKind.isOpening, TokenKind.isClosing] at going
    have moved : next.feed = state.feed.advance.2 := by
      simp only [groupRound] at going
      repeat' split at going
      all_goals cases going
      all_goals rfl
    rw [moved]
    exact ⟨Feed.onward_advance last, Feed.index_lt_advance eof⟩
  · intro state result last ended
    have moved : result.2 = state.feed.advance.2 := by
      simp only [groupRound] at ended
      repeat' split at ended
      all_goals cases ended
      all_goals rfl
    rw [moved]
    exact Feed.onward_advance last

/-- The end mark behind all tokens closes no group. -/
theorem splitGroup_window {feed : Feed} (last : feed.last.kind = .eof) (depth n : Nat) :
    splitGroup depth (feed.window (n + 1)) =
      (splitGroup depth feed.ahead).map fun split =>
        (split.1, split.2.1, split.2.2 ++ List.replicate (n + 1) feed.last) := by
  rw [Feed.window]
  induction feed.ahead generalizing depth with
  | nil => simp [List.replicate_succ, splitGroup, last]
  | cons token tokens ih =>
      rw [List.cons_append]
      simp only [splitGroup, ih]
      split
      · rfl
      split
      · rfl
      · rw [Option.map_map, Option.map_map]
        rfl

/-- What follows the opening bracket of a group. -/
def groupRest (opener : Token) : Parser (Spanned Feed) :=
  takeBy fun feed =>
    match splitGroup 0 (feed.window (feed.ahead.length + 1)) with
    | some (inner, closer, _) =>
      (.ok ⟨{ ahead := inner, last := .endAt closer.span.opening, source := feed.source },
          opener.span.join closer.span⟩,
        inner.length + 1)
    | none =>
      (.error (.located (.unclosed ['(']) opener.span),
        (feed.ahead.takeWhile fun token => token.kind != .eof).length)

theorem group_eq : group = expect (.opening .round) >>= groupRest :=
  rfl

/-- What taking a group comes to from a state. -/
def groupEnd (opener : Token) (state : GroupState) : Except Fault (Spanned Feed) × Feed :=
  match splitGroup state.depth state.feed.ahead with
  | some (inner, closer, _) =>
    (.ok ⟨{ ahead := state.inner ++ inner, last := .endAt closer.span.opening,
            source := state.feed.source }, opener.span.join closer.span⟩,
      state.feed.skip (inner.length + 1))
  | none =>
    (.error (.located (.unclosed ['(']) opener.span),
      state.feed.skip (state.feed.ahead.takeWhile fun token => token.kind != .eof).length)

theorem run_groupRest {feed : Feed} (last : feed.last.kind = .eof) (opener : Token) :
    (groupRest opener).run feed = groupEnd opener ⟨0, [], feed⟩ := by
  rw [groupRest, run_takeBy, splitGroup_window last]
  unfold groupEnd
  cases splitGroup 0 feed.ahead <;> rfl

/-- A token that does not close the group goes into it. -/
theorem groupEnd_of_cons {opener token : Token} {depth : Nat} {inner rest : List Token}
    {feed : Feed} (deeper : Nat) (ahead : feed.ahead = token :: rest) (eof : token.kind ≠ .eof)
    (split : splitGroup depth (token :: rest) =
      (splitGroup deeper rest).map fun (inner, closer, after) => (token :: inner, closer, after)) :
    groupEnd opener ⟨depth, inner, feed⟩ =
      groupEnd opener ⟨deeper, inner ++ [token], feed.skip 1⟩ := by
  simp only [groupEnd, ahead, split, Feed.skip_ahead_of_cons ahead]
  cases splitGroup deeper rest with
  | none => simp [Feed.skip_skip, eof, Nat.add_comm 1]
  | some found => simp [Feed.skip_skip, Nat.add_comm 1]

/-- What taking a group comes to is found by one round and, if that is not the last, by what
taking it comes to from there. -/
theorem groupEnd_eq (opener : Token) {state : GroupState} (last : state.feed.last.kind = .eof) :
    groupEnd opener state = (groupRound opener state).finish (groupEnd opener) := by
  rcases state with ⟨depth, inner, feed⟩
  cases ahead : feed.ahead with
  | nil =>
      have ended := Feed.advance_of_atEnd (Feed.atEnd_of_nil ahead last)
      have mark : feed.current.kind = .eof := by rw [Feed.current_of_nil ahead]; exact last
      simp [groupEnd, groupRound, ahead, splitGroup, mark, ended, TokenKind.isOpening,
        TokenKind.isClosing]
  | cons token rest =>
      have current := Feed.current_of_cons ahead
      cases kind : token.kind with
      | opening bracket =>
          have taken := Feed.advance_of_cons ahead (by simp [kind])
          rw [groupEnd_of_cons (depth + 1) ahead (by simp [kind])
            (by simp [splitGroup, kind, TokenKind.isOpening, TokenKind.isClosing])]
          simp [groupRound, current, kind, TokenKind.isOpening, taken]
      | closing bracket =>
          have taken := Feed.advance_of_cons ahead (by simp [kind])
          cases depth with
          | zero =>
              simp [groupEnd, groupRound, ahead, splitGroup, current, kind, TokenKind.isOpening,
                TokenKind.isClosing, taken]
          | succ depth =>
              rw [groupEnd_of_cons depth ahead (by simp [kind])
                (by simp [splitGroup, kind, TokenKind.isOpening, TokenKind.isClosing])]
              simp [groupRound, current, kind, TokenKind.isOpening, TokenKind.isClosing, taken]
      | eof =>
          have ended := Feed.advance_of_atEnd (by simp [Feed.atEnd, current, kind] : feed.atEnd)
          simp [groupEnd, groupRound, ahead, splitGroup, current, kind, ended, TokenKind.isOpening,
            TokenKind.isClosing]
      | _ =>
          have taken := Feed.advance_of_cons ahead (by simp [kind])
          rw [groupEnd_of_cons depth ahead (by simp [kind])
            (by simp [splitGroup, kind, TokenKind.isOpening, TokenKind.isClosing])]
          simp [groupRound, current, kind, TokenKind.isOpening, TokenKind.isClosing, taken]

/-- Behind its opening bracket a group is taken in a loop. -/
theorem groupRest_loopsWithin {feed : Feed} (last : feed.last.kind = .eof) (opener : Token) :
    LoopsWithin (groupRound opener) (feed.ahead.length + 1) ⟨0, [], feed⟩
      ((groupRest opener).run feed) := by
  rw [run_groupRest last]
  exact (groupRound_forward opener).loopsWithin (fun _ => groupEnd opener)
    (fun last _ => groupEnd_eq opener last) ⟨0, [], feed⟩ last (Nat.lt_succ_self _)

theorem group_loopsWithin {feed rest : Feed} {opener : Token} (last : feed.last.kind = .eof)
    (expected : (expect (.opening .round)).run feed = (.ok opener, rest)) :
    LoopsWithin (groupRound opener) (rest.ahead.length + 1) ⟨0, [], rest⟩ (group.run feed) := by
  have same : rest.last = feed.last := by
    rcases cons_of_run_expect last (by simp) expected with ⟨_, _, _, rfl⟩
    rfl
  rw [group_eq, run_bind, expected]
  exact groupRest_loopsWithin (same ▸ last) opener

theorem group_progresses : group.Progresses := by
  rw [group_eq]
  refine .bind (.expect (by simp)) ?_
  intro opener feed last
  exact (groupRound_forward opener).onward last (groupRest_loopsWithin last opener)

/-- The tokens inside a group have an end mark behind them. -/
theorem last_kind_of_run_group {feed rest : Feed} {inside : Spanned Feed}
    (ran : group.run feed = (.ok inside, rest)) : inside.item.last.kind = .eof := by
  rw [group_eq] at ran
  rcases run_bind_eq_ok_iff.1 ran with ⟨opener, middle, _, taken⟩
  rw [groupRest, run_takeBy] at taken
  split at taken
  · cases taken
    rfl
  · cases taken

/-! ## Lists -/

variable {α : Type}

/-- The state of a list that is being read: the items so far and what lies ahead. -/
structure ListState (α : Type) where
  items : List α
  feed : Feed

/-- A round of reading a list: one more item, and the comma behind it unless the list ends
there. -/
def itemRound (item : Parser α) (state : ListState α) :
    Round (ListState α) (Except Fault (List α) × Feed) :=
  if state.feed.atEnd then .done (.ok state.items, state.feed)
  else
    match item.run state.feed with
    | (.error fault, rest) => .done (.error fault, rest)
    | (.ok value, rest) =>
      if rest.atEnd then .done (.ok (state.items ++ [value]), rest)
      else
        match (expect .comma).run rest with
        | (.error fault, rest) => .done (.error fault, rest)
        | (.ok _, rest) => .again ⟨state.items ++ [value], rest⟩

/-- What reading a list comes to from a state, if at most `fuel` more items are read. -/
def listEnd (item : Parser α) (fuel : Nat) (state : ListState α) : Except Fault (List α) × Feed :=
  let (outcome, rest) := (punctuatedUpTo item fuel).run state.feed
  (outcome.map (state.items ++ ·), rest)

theorem itemRound_forward {item : Parser α} (progresses : item.Progresses) :
    Round.Forward (itemRound item) ListState.feed Prod.snd := by
  constructor
  · intro state next last going
    unfold itemRound at going
    split at going
    · cases going
    split at going
    · cases going
    rename_i value rest read
    split at going
    · cases going
    split at going
    · cases going
    rename_i comma behind expected
    cases going
    have onward := progresses.forward.of_run last read
    have further := Forward.of_run (Progresses.expect (by simp)).forward (onward.last_eq ▸ last)
      expected
    exact ⟨onward.trans further,
      Nat.lt_of_lt_of_le (progresses.index_lt last read) further.index_le⟩
  · intro state result last ended
    unfold itemRound at ended
    split at ended
    · cases ended
      exact .refl _
    split at ended
    · rename_i read
      cases ended
      exact progresses.forward.of_run last read
    rename_i value rest read
    have onward := progresses.forward.of_run last read
    split at ended
    · cases ended
      exact onward
    split at ended
    · rename_i expected
      cases ended
      exact onward.trans (Forward.of_run (Progresses.expect (by simp)).forward
        (onward.last_eq ▸ last) expected)
    · cases ended

theorem listEnd_eq (item : Parser α) (fuel : Nat) (state : ListState α) :
    listEnd item (fuel + 1) state = (itemRound item state).finish (listEnd item fuel) := by
  unfold listEnd itemRound
  rw [punctuatedUpTo, run_bind, run_atEnd]
  dsimp only
  split
  · simp [Except.map]
  · rw [run_bind]
    rcases item.run state.feed with ⟨fault | value, rest⟩
    · rfl
    · dsimp only
      rw [run_bind, run_atEnd]
      dsimp only
      split
      · rfl
      · rw [run_bind]
        rcases (expect .comma).run rest with ⟨fault | comma, rest⟩
        · rfl
        · dsimp only
          rw [run_bind]
          rcases more : (punctuatedUpTo item fuel).run rest with ⟨fault | items, rest⟩
          · simp [more, Except.map]
          · simp [more, Except.map]

/-- A list whose items take tokens is read in a loop. -/
theorem punctuated_loopsWithin {item : Parser α} (progresses : item.Progresses) {feed : Feed}
    (last : feed.last.kind = .eof) :
    LoopsWithin (itemRound item) (feed.ahead.length + 1) ⟨[], feed⟩
      ((punctuated item).run feed) := by
  have ran : (punctuated item).run feed = listEnd item (feed.ahead.length + 1) ⟨[], feed⟩ := by
    change (punctuatedUpTo item (feed.ahead.length + 1)).run feed = _
    rw [listEnd]
    rcases (punctuatedUpTo item (feed.ahead.length + 1)).run feed with ⟨fault | items, rest⟩
    · rfl
    · rfl
  rw [ran]
  exact (itemRound_forward progresses).loopsWithin (listEnd item)
    (fun _ _ => listEnd_eq item _ _) ⟨[], feed⟩ last (Nat.lt_succ_self _)

theorem punctuated_forward {item : Parser α} (progresses : item.Progresses) :
    (punctuated item).Forward :=
  fun _ last => (itemRound_forward progresses).onward last (punctuated_loopsWithin progresses last)

end Parser

end GuardLang

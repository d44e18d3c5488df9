import GuardLang.Token

/-!
# Tokens to be parsed

A feed is what a parser has in front of it: the tokens ahead, the token that
stands behind all of them, and the annotation they were read from.  It also
counts the tokens that have been taken.

A feed never runs out.  Once all tokens ahead have been taken the last one is
seen over and over, and can be taken over and over.  An end mark is never taken,
wherever it stands, so a parser that has come to one goes on seeing it.
-/

namespace GuardLang

/-- The tokens ahead, the one behind them, the whole annotation, and the number
of tokens taken so far. -/
structure Feed where
  ahead : List Token
  last : Token
  source : Text
  index : Nat := 0
  deriving DecidableEq, Repr

namespace Feed

/-- The next token. -/
def current (feed : Feed) : Token := feed.ahead.headD feed.last

/-- Whether the next token marks the end. -/
def atEnd (feed : Feed) : Bool := feed.current.kind == .eof

/-- Take `n` tokens. -/
def skip (feed : Feed) (n : Nat) : Feed :=
  { feed with ahead := feed.ahead.drop n, index := feed.index + n }

/-- Take the next token, unless it marks the end. -/
def advance (feed : Feed) : Token × Feed :=
  (feed.current, if feed.atEnd then feed else feed.skip 1)

/-- The tokens ahead and `n` copies of the one behind them: what a parser sees
that takes at most so many more. -/
def window (feed : Feed) (n : Nat) : List Token := feed.ahead ++ List.replicate n feed.last

@[simp] theorem skip_ahead (feed : Feed) (n : Nat) :
    (feed.skip n).ahead = feed.ahead.drop n := rfl

@[simp] theorem skip_last (feed : Feed) (n : Nat) : (feed.skip n).last = feed.last := rfl

@[simp] theorem skip_source (feed : Feed) (n : Nat) : (feed.skip n).source = feed.source := rfl

@[simp] theorem skip_index (feed : Feed) (n : Nat) :
    (feed.skip n).index = feed.index + n := rfl

@[simp] theorem skip_zero (feed : Feed) : feed.skip 0 = feed := rfl

/-- Tokens can be taken in two goes. -/
theorem skip_skip (feed : Feed) (m n : Nat) : (feed.skip m).skip n = feed.skip (m + n) := by
  simp [skip, Nat.add_assoc]

/-- The next token is the first in every window. -/
theorem window_head? (feed : Feed) (n : Nat) :
    (feed.window (n + 1)).head? = some feed.current := by
  rcases feed with ⟨_ | ⟨token, rest⟩, last, source, index⟩ <;> rfl

/-- The next token is the one that is taken. -/
@[simp] theorem advance_fst (feed : Feed) : feed.advance.1 = feed.current := rfl

/-- An end mark stays. -/
theorem advance_of_atEnd {feed : Feed} (h : feed.atEnd) : feed.advance = (feed.current, feed) := by
  simp [advance, h]

/-- Any other token is taken. -/
theorem advance_of_not_atEnd {feed : Feed} (h : ¬ feed.atEnd) :
    feed.advance = (feed.current, feed.skip 1) := by
  simp [advance, h]

@[simp] theorem advance_last (feed : Feed) : feed.advance.2.last = feed.last := by
  unfold advance
  split <;> rfl

end Feed

end GuardLang

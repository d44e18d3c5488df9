import GuardLang.Proofs.Parser.Reads

/-!
# Parsers that depend on what they take

Some parsers look no further than the last token they take.  Wherever such a parser
gives a value, it gives the same value for the same tokens in any other place, and
leaves what stands behind them alone.

Unlike reading a rule this asks nothing of the tokens ahead but that none of them
marks the end, so it covers token lists that no scanner would give.
-/

namespace GuardLang

/-! ## Feeds -/

/-- No token ahead marks the end, and an end mark stands behind them. -/
structure Feed.Sealed (source : Text) (feed : Feed) : Prop where
  source_eq : feed.source = source
  last_kind : feed.last.kind = .eof
  marks : ∀ token ∈ feed.ahead, token.kind ≠ .eof

namespace Feed.Sealed

variable {source : Text} {feed : Feed}

theorem skip (sealed : feed.Sealed source) (n : Nat) : (feed.skip n).Sealed source :=
  ⟨sealed.source_eq, sealed.last_kind,
    fun token member => sealed.marks token (List.mem_of_mem_drop member)⟩

theorem atEnd_iff (sealed : feed.Sealed source) : feed.atEnd = true ↔ feed.ahead = [] := by
  cases ahead : feed.ahead with
  | nil => simp [Feed.atEnd_of_nil ahead sealed.last_kind]
  | cons token rest =>
      simp [Feed.atEnd_of_cons ahead (sealed.marks token (by rw [ahead]; exact List.mem_cons_self))]

end Feed.Sealed

/-! ## Parsers -/

namespace Parser

variable {α β : Type} {source : Text} {shape : List Token → Prop} {parser : Parser α}

/-- The tokens are taken and give the value, whatever stands behind them. -/
def Gives (source : Text) (tokens : List Token) (value : α) (parser : Parser α) : Prop :=
  ∀ ⦃feed : Feed⦄ ⦃more : List Token⦄, feed.Sealed source → feed.ahead = tokens ++ more →
    parser.run feed = (.ok value, feed.skip tokens.length)

/-- What is taken has the shape, and gives the same value everywhere. -/
def Local (source : Text) (shape : List Token → Prop) (parser : Parser α) : Prop :=
  ∀ ⦃feed rest : Feed⦄ ⦃value : α⦄, feed.Sealed source → parser.run feed = (.ok value, rest) →
    ∃ taken more, feed.ahead = taken ++ more ∧ rest = feed.skip taken.length ∧ shape taken ∧
      parser.Gives source taken value

theorem Gives.bind {next : α → Parser β} {front back : List Token} {first : α} {value : β}
    (one : parser.Gives source front first) (two : (next first).Gives source back value) :
    (parser >>= next).Gives source (front ++ back) value := by
  intro feed more sealed ahead
  rw [List.append_assoc] at ahead
  have ran := two (sealed.skip front.length) (Feed.skip_ahead_of_append ahead)
  rw [Feed.skip_skip, ← List.length_append] at ran
  exact run_bind_eq_ok_iff.2 ⟨first, _, one sealed ahead, ran⟩

theorem Gives.map {tokens : List Token} {value : α} (gives : parser.Gives source tokens value)
    (f : α → β) : (parser >>= fun value => pure (f value)).Gives source tokens (f value) := by
  intro feed more sealed ahead
  exact run_bind_eq_ok_iff.2 ⟨value, _, gives sealed ahead, rfl⟩

namespace Local

theorem weaken {shape' : List Token → Prop} (one : parser.Local source shape)
    (shapes : ∀ {tokens}, shape tokens → shape' tokens) : parser.Local source shape' := by
  intro feed rest value sealed ran
  rcases one sealed ran with ⟨taken, more, ahead, rest_eq, shaped, gives⟩
  exact ⟨taken, more, ahead, rest_eq, shapes shaped, gives⟩

/-- What a parser depends on does not depend on its faults. -/
theorem of_sameValues {other : Parser α} (one : other.Local source shape)
    (same : parser.SameValues other) : parser.Local source shape := by
  intro feed rest value sealed ran
  rcases one sealed ((same _ _ _).1 ran) with ⟨taken, more, ahead, rest_eq, shaped, gives⟩
  exact ⟨taken, more, ahead, rest_eq, shaped,
    fun _ _ sealed ahead => (same _ _ _).2 (gives sealed ahead)⟩

theorem bind {shape' : List Token → Prop} {next : α → Parser β} (one : parser.Local source shape)
    (two : ∀ value, (next value).Local source shape') :
    (parser >>= next).Local source fun tokens =>
      ∃ front back, tokens = front ++ back ∧ shape front ∧ shape' back := by
  intro feed rest value sealed ran
  rcases run_bind_eq_ok_iff.1 ran with ⟨first, middle, ran, ran'⟩
  rcases one sealed ran with ⟨front, behind, ahead, rfl, shaped, gives⟩
  rcases two first (sealed.skip _) ran' with ⟨back, more, ahead', rfl, shaped', gives'⟩
  rw [Feed.skip_ahead_of_append ahead] at ahead'
  refine ⟨front ++ back, more, ?_, ?_, ⟨front, back, rfl, shaped, shaped'⟩, gives.bind gives'⟩
  · rw [ahead, ahead', List.append_assoc]
  · rw [Feed.skip_skip, List.length_append]

theorem map (one : parser.Local source shape) (f : α → β) :
    (parser >>= fun value => pure (f value)).Local source shape := by
  intro feed rest value sealed ran
  rcases run_bind_eq_ok_iff.1 ran with ⟨first, middle, ran, same⟩
  cases same
  rcases one sealed ran with ⟨taken, more, ahead, rest_eq, shaped, gives⟩
  exact ⟨taken, more, ahead, rest_eq, shaped, gives.map f⟩

theorem expect {kind : TokenKind} (eof : kind ≠ .eof) :
    (Parser.expect kind).Local source fun tokens => ∃ token, tokens = [token] ∧ token.kind = kind := by
  intro feed rest token sealed ran
  rcases cons_of_run_expect sealed.last_kind eof ran with ⟨more, ahead, same, rfl⟩
  exact ⟨[token], more, ahead, rfl, ⟨token, rfl, same⟩,
    fun _ _ _ ahead => run_expect_of_cons ahead same eof⟩

/-- A step that takes nothing. -/
theorem ofExcept (outcome : Except Fault α) :
    (Parser.ofExcept outcome).Local source fun tokens => tokens = [] := by
  intro feed rest value _ ran
  rw [run_ofExcept] at ran
  cases ran
  exact ⟨[], feed.ahead, rfl, rfl, rfl, fun _ _ _ _ => rfl⟩

end Local

end Parser

end GuardLang

import GuardLang.Proofs.Order
import GuardLang.Proofs.Parser.Steps
import GuardLang.Proofs.Scanner.Lossless

/-!
# Parsers that read exactly a rule

A rule says which runs of tokens it derives and what they denote.  A parser reads
a rule if it gives a value exactly where the rule derives tokens that denote the
value, and takes these tokens.  Some parsers take as much as they can; they read
their rule where something stands behind that stops them.

Reading is shown for parsers in sequence and for choices by the next token, so
that each rule of a grammar is built from its parts as its parser is.
-/

namespace GuardLang

/-! ## Feeds -/

/-- The kind of the first token, if there is one. -/
def firstKind? (tokens : List Token) : Option TokenKind := tokens.head?.map Token.kind

@[simp]
theorem firstKind?_nil : firstKind? [] = none :=
  rfl

@[simp]
theorem firstKind?_cons (token : Token) (tokens : List Token) :
    firstKind? (token :: tokens) = some token.kind :=
  rfl

/-- What stands behind a run that is not empty does not change its first token. -/
theorem firstKind?_append {tokens : List Token} {kind : TokenKind}
    (starts : firstKind? tokens = some kind) (more : List Token) :
    firstKind? (tokens ++ more) = some kind := by
  cases tokens with
  | nil => cases starts
  | cons token tokens => exact starts

/-- The tokens ahead are tokens of the source, nested and in order, and an end mark stands
behind them. -/
structure Feed.Tidy (source : Text) (feed : Feed) : Prop where
  source_eq : feed.source = source
  last_kind : feed.last.kind = .eof
  nested : Nested feed.ahead
  ordered : Ordered feed.ahead
  stands : ∀ token ∈ feed.ahead, token.Stands source

namespace Feed.Tidy

variable {source : Text} {feed : Feed} {taken more : List Token}

/-- A feed stays tidy when a nested run is taken. -/
theorem skip (tidy : feed.Tidy source) (ahead : feed.ahead = taken ++ more)
    (nested : Nested taken) : (feed.skip taken.length).Tidy source := by
  have whole := tidy.nested
  have order := tidy.ordered
  rw [ahead] at whole order
  refine ⟨tidy.source_eq, tidy.last_kind, ?_, ?_, ?_⟩
  · rw [Feed.skip_ahead_of_append ahead]
    exact whole.of_append nested
  · rw [Feed.skip_ahead_of_append ahead]
    exact order.right
  · intro token member
    rw [Feed.skip_ahead_of_append ahead] at member
    exact tidy.stands token (ahead ▸ List.mem_append_right taken member)

theorem skip_one (tidy : feed.Tidy source) {token : Token} (ahead : feed.ahead = token :: more)
    (plain : token.kind.isPlain = true) : (feed.skip 1).Tidy source :=
  @skip source feed [token] more tidy ahead (.plain plain .nil)

theorem ordered_taken (tidy : feed.Tidy source) (ahead : feed.ahead = taken ++ more) :
    Ordered taken := by
  have order := tidy.ordered
  rw [ahead] at order
  exact order.left

/-- The next token is one of those ahead, or the end mark. -/
theorem current_cases (tidy : feed.Tidy source) :
    (feed.ahead = [] ∧ feed.current.kind = .eof) ∨
      ∃ token rest, feed.ahead = token :: rest ∧ feed.current = token ∧ token.kind ≠ .eof := by
  cases ahead : feed.ahead with
  | nil =>
      left
      rw [Feed.current_of_nil ahead]
      exact ⟨rfl, tidy.last_kind⟩
  | cons token rest =>
      right
      exact ⟨token, rest, rfl, Feed.current_of_cons ahead,
        tidy.nested.kind_ne_eof token (by simp [ahead])⟩

/-- A kind other than the end mark is found in the tokens ahead. -/
theorem current_kind_iff (tidy : feed.Tidy source) {kind : TokenKind} (eof : kind ≠ .eof) :
    feed.current.kind = kind ↔ firstKind? feed.ahead = some kind := by
  rcases tidy.current_cases with ⟨ahead, mark⟩ | ⟨token, rest, ahead, current, _⟩
  · simp [ahead, mark, eof.symm]
  · simp [ahead, current]

/-- A feed is at its end when no token is ahead. -/
theorem atEnd_iff (tidy : feed.Tidy source) : feed.atEnd = true ↔ feed.ahead = [] := by
  rcases tidy.current_cases with ⟨ahead, eof⟩ | ⟨token, rest, ahead, current, eof⟩
  · simp [Feed.atEnd, eof, ahead]
  · simp [Feed.atEnd, current, eof, ahead]

end Feed.Tidy

/-! ## Rules -/

variable {α β : Type}

namespace Rule

/-- A single token of a kind. -/
def Single (kind : TokenKind) (tokens : List Token) (token : Token) : Prop :=
  tokens = [token] ∧ token.kind = kind

/-- No token at all, which denotes the outcome if that is a value. -/
def Given (outcome : Except Fault α) (tokens : List Token) (value : α) : Prop :=
  tokens = [] ∧ outcome = .ok value

/-- One rule behind another, which may depend on what the first denotes. -/
def Seq (rule : List Token → α → Prop) (next : α → List Token → β → Prop) (tokens : List Token)
    (value : β) : Prop :=
  ∃ front back first, tokens = front ++ back ∧ rule front first ∧ next first back value

/-- Either of two rules. -/
def Either (rule rule' : List Token → α → Prop) (tokens : List Token) (value : α) : Prop :=
  rule tokens value ∨ rule' tokens value

/-- A rule whose values are changed. -/
def Mapped (rule : List Token → α → Prop) (f : α → β) (tokens : List Token) (value : β) : Prop :=
  ∃ read, rule tokens read ∧ f read = value

theorem mapped_mapped {γ : Type} (rule : List Token → α → Prop) (f : α → β) (g : β → γ) :
    Mapped (Mapped rule f) g = Mapped rule (g ∘ f) := by
  funext tokens value
  apply propext
  constructor
  · rintro ⟨_, ⟨read, derived, rfl⟩, rfl⟩
    exact ⟨read, derived, rfl⟩
  · rintro ⟨read, derived, rfl⟩
    exact ⟨f read, ⟨read, derived, rfl⟩, rfl⟩

theorem seq_single_iff {kind : TokenKind} {next : Token → List Token → β → Prop}
    {tokens : List Token} {value : β} :
    Seq (Single kind) next tokens value ↔
      ∃ token rest, tokens = token :: rest ∧ token.kind = kind ∧ next token rest value := by
  constructor
  · rintro ⟨_, rest, token, rfl, ⟨rfl, same⟩, derived⟩
    exact ⟨token, rest, rfl, same, derived⟩
  · rintro ⟨token, rest, rfl, same, derived⟩
    exact ⟨[token], rest, token, rfl, ⟨rfl, same⟩, derived⟩

theorem seq_given_iff {rule : List Token → α → Prop} {outcome : α → Except Fault β}
    {tokens : List Token} {value : β} :
    Seq rule (fun first => Given (outcome first)) tokens value ↔
      ∃ first, rule tokens first ∧ outcome first = .ok value := by
  constructor
  · rintro ⟨front, _, first, rfl, derived, rfl, same⟩
    rw [List.append_nil]
    exact ⟨first, derived, same⟩
  · rintro ⟨first, derived, same⟩
    exact ⟨tokens, [], first, (List.append_nil _).symm, derived, rfl, same⟩

end Rule

/-! ## Reading -/

/-- A parser gives a value exactly where the rule derives tokens that denote it,
and takes these tokens.  It is sure to do so only if what stands behind them
stops it. -/
structure Parser.Reads (source : Text) (rule : List Token → α → Prop) (stop : List Token → Prop)
    (parser : Parser α) : Prop where
  sound : ∀ {feed rest : Feed} {value : α}, feed.Tidy source →
    parser.run feed = (.ok value, rest) →
    ∃ taken more, feed.ahead = taken ++ more ∧ rest = feed.skip taken.length ∧ rule taken value
  complete : ∀ {feed : Feed} {taken more : List Token} {value : α}, feed.Tidy source →
    feed.ahead = taken ++ more → rule taken value → stop more →
    parser.run feed = (.ok value, feed.skip taken.length)
  nested : ∀ {taken : List Token} {value : α}, rule taken value → Nested taken

/-- Two parsers give the same values and differ in their faults at most. -/
def Parser.SameValues (parser other : Parser α) : Prop :=
  ∀ (feed rest : Feed) (value : α),
    parser.run feed = (.ok value, rest) ↔ other.run feed = (.ok value, rest)

/-- Nothing needs to stop a parser. -/
def Anywhere (_ : List Token) : Prop := True

namespace Parser.SameValues

variable {parser other : Parser α}

theorem refl (parser : Parser α) : parser.SameValues parser :=
  fun _ _ _ => .rfl

theorem bind {next next' : α → Parser β} (first : parser.SameValues other)
    (second : ∀ value, (next value).SameValues (next' value)) :
    (parser >>= next).SameValues (other >>= next') := by
  intro feed rest value
  rw [run_bind_eq_ok_iff, run_bind_eq_ok_iff]
  constructor
  · rintro ⟨one, middle, ran, ran'⟩
    exact ⟨one, middle, (first _ _ _).1 ran, (second one _ _ _).1 ran'⟩
  · rintro ⟨one, middle, ran, ran'⟩
    exact ⟨one, middle, (first _ _ _).2 ran, (second one _ _ _).2 ran'⟩

/-- To find a token and then take it is to expect it. -/
theorem ifAt {kind : TokenKind} (next : Token → Parser α) :
    (do if ← isAt [kind] then advance >>= next else other).SameValues
      (do if ← isAt [kind] then expect kind >>= next else other) := by
  intro feed rest value
  by_cases same : feed.current.kind = kind
  · simp [run_expect, same]
  · simp [same]

end Parser.SameValues

namespace Parser.Reads

variable {source : Text} {rule rule' : List Token → α → Prop} {stop : List Token → Prop}
  {parser other : Parser α}

/-- A parser that reads a rule reads one that derives the same. -/
theorem congr (reads : parser.Reads source rule stop)
    (same : ∀ {tokens value}, Ordered tokens → (rule tokens value ↔ rule' tokens value))
    (nested : ∀ {tokens value}, rule' tokens value → Nested tokens) :
    parser.Reads source rule' stop := by
  refine ⟨?_, ?_, nested⟩
  · intro feed rest value tidy ran
    rcases reads.sound tidy ran with ⟨taken, more, ahead, rest_eq, derived⟩
    exact ⟨taken, more, ahead, rest_eq, (same (tidy.ordered_taken ahead)).1 derived⟩
  · intro feed taken more value tidy ahead derived stops
    exact reads.complete tidy ahead ((same (tidy.ordered_taken ahead)).2 derived) stops

/-- A rule may be stated in another way. -/
theorem of_iff (reads : parser.Reads source rule stop)
    (same : ∀ {tokens value}, rule tokens value ↔ rule' tokens value) :
    parser.Reads source rule' stop :=
  reads.congr (fun _ => same) fun derived => reads.nested (same.2 derived)

/-- What a parser reads does not depend on its faults. -/
theorem of_sameValues (reads : other.Reads source rule stop) (same : parser.SameValues other) :
    parser.Reads source rule stop :=
  ⟨fun tidy ran => reads.sound tidy ((same _ _ _).1 ran),
    fun tidy ahead derived stops => (same _ _ _).2 (reads.complete tidy ahead derived stops),
    reads.nested⟩

/-- More may stop a parser than has to. -/
theorem weaken {stop' : List Token → Prop} (reads : parser.Reads source rule stop)
    (stops : ∀ {more}, stop' more → stop more) : parser.Reads source rule stop' :=
  ⟨reads.sound, fun tidy ahead derived more => reads.complete tidy ahead derived (stops more),
    reads.nested⟩

/-- To expect a token that is no bracket. -/
theorem expect {kind : TokenKind} (plain : kind.isPlain = true) :
    (Parser.expect kind).Reads source (Rule.Single kind) stop := by
  have eof : kind ≠ .eof := (TokenKind.isPlain_iff.1 plain).2.2
  constructor
  · intro feed rest token tidy ran
    rcases cons_of_run_expect tidy.last_kind eof ran with ⟨tokens, ahead, same, rest_eq⟩
    exact ⟨[token], tokens, ahead, rest_eq, rfl, same⟩
  · rintro feed _ more token tidy ahead ⟨rfl, same⟩ _
    exact run_expect_of_cons ahead same eof
  · rintro _ token ⟨rfl, same⟩
    exact .plain (same ▸ plain) .nil

/-- A step that takes nothing reads no token. -/
theorem given {outcome : Except Fault α}
    (still : ∀ {feed : Feed}, feed.Tidy source → parser.run feed = (outcome, feed)) :
    parser.Reads source (Rule.Given outcome) stop := by
  constructor
  · intro feed rest value tidy ran
    rw [still tidy] at ran
    cases ran
    exact ⟨[], feed.ahead, rfl, rfl, rfl, rfl⟩
  · rintro feed _ more value tidy ahead ⟨rfl, rfl⟩ _
    exact still tidy
  · rintro _ value ⟨rfl, _⟩
    exact .nil

/-- A step that only fails reads nothing. -/
theorem fails (fails : ∀ (feed rest : Feed) (value : α), parser.run feed ≠ (.ok value, rest)) :
    parser.Reads source (fun _ _ => False) stop :=
  ⟨fun _ ran => absurd ran (fails _ _ _), fun _ _ derived => derived.elim,
    fun derived => derived.elim⟩

/-- Two parsers in sequence read two rules in sequence, if the tokens of the
second rule stop the first parser. -/
theorem bind {rule' : α → List Token → β → Prop} {stop' : List Token → Prop}
    {next : α → Parser β} (first : parser.Reads source rule stop)
    (second : ∀ value, (next value).Reads source (rule' value) stop')
    (stops : ∀ {value taken more result}, rule' value taken result → stop' more →
      stop (taken ++ more)) :
    (parser >>= next).Reads source (Rule.Seq rule rule') stop' := by
  constructor
  · intro feed rest result tidy ran
    rcases run_bind_eq_ok_iff.1 ran with ⟨value, middle, one, two⟩
    rcases first.sound tidy one with ⟨front, behind, ahead, rfl, derived⟩
    have tidy' := tidy.skip ahead (first.nested derived)
    rcases (second value).sound tidy' two with ⟨back, more, ahead', rfl, derived'⟩
    rw [Feed.skip_ahead_of_append ahead] at ahead'
    refine ⟨front ++ back, more, ?_, ?_, front, back, value, rfl, derived, derived'⟩
    · rw [ahead, ahead', List.append_assoc]
    · rw [Feed.skip_skip, List.length_append]
  · rintro feed _ more result tidy ahead ⟨front, back, value, rfl, derived, derived'⟩ stopped
    rw [List.append_assoc] at ahead
    have one := first.complete tidy ahead derived (stops derived' stopped)
    have tidy' := tidy.skip ahead (first.nested derived)
    have two := (second value).complete tidy' (Feed.skip_ahead_of_append ahead) derived' stopped
    rw [Feed.skip_skip, ← List.length_append] at two
    exact run_bind_eq_ok_iff.2 ⟨value, _, one, two⟩
  · rintro _ result ⟨front, back, value, rfl, derived, derived'⟩
    exact (first.nested derived).append ((second value).nested derived')

/-- A token, and what is read behind it. -/
theorem expect_bind {kind : TokenKind} {rule' : Token → List Token → β → Prop}
    {next : Token → Parser β} (plain : kind.isPlain = true)
    (second : ∀ token, (next token).Reads source (rule' token) stop) :
    (Parser.expect kind >>= next).Reads source (Rule.Seq (Rule.Single kind) rule') stop :=
  @bind _ _ _ _ Anywhere _ _ _ _ (expect plain) second fun _ _ => trivial

/-- To change what is read. -/
theorem map (reads : parser.Reads source rule stop) (f : α → β) :
    (parser >>= fun value => pure (f value)).Reads source (Rule.Mapped rule f) stop := by
  constructor
  · intro feed rest result tidy ran
    rcases run_bind_eq_ok_iff.1 ran with ⟨value, middle, one, two⟩
    cases two
    rcases reads.sound tidy one with ⟨taken, more, ahead, rest_eq, derived⟩
    exact ⟨taken, more, ahead, rest_eq, value, derived, rfl⟩
  · rintro feed taken more result tidy ahead ⟨value, derived, rfl⟩ stopped
    exact run_bind_eq_ok_iff.2 ⟨value, _, reads.complete tidy ahead derived stopped, rfl⟩
  · rintro taken result ⟨value, derived, rfl⟩
    exact reads.nested derived

/-- A choice by the next token, if only the first rule begins with it. -/
theorem ifAt {kind : TokenKind} (eof : kind ≠ .eof) (first : parser.Reads source rule stop)
    (second : other.Reads source rule' stop)
    (starts : ∀ {taken value}, rule taken value → firstKind? taken = some kind)
    (avoids : ∀ {taken more value}, rule' taken value → stop more →
      firstKind? (taken ++ more) ≠ some kind) :
    (do if ← isAt [kind] then parser else other).Reads source (Rule.Either rule rule') stop := by
  have chosen : ∀ feed : Feed, (do if ← isAt [kind] then parser else other).run feed =
      if feed.current.kind = kind then parser.run feed else other.run feed := by
    intro feed
    by_cases same : feed.current.kind = kind
    · simp [same]
    · simp [same]
  constructor
  · intro feed rest value tidy ran
    rw [chosen] at ran
    split at ran
    · rcases first.sound tidy ran with ⟨taken, more, ahead, rest_eq, derived⟩
      exact ⟨taken, more, ahead, rest_eq, .inl derived⟩
    · rcases second.sound tidy ran with ⟨taken, more, ahead, rest_eq, derived⟩
      exact ⟨taken, more, ahead, rest_eq, .inr derived⟩
  · rintro feed taken more value tidy ahead (derived | derived) stopped
    · have same : feed.current.kind = kind := by
        rw [tidy.current_kind_iff eof, ahead]
        exact firstKind?_append (starts derived) more
      rw [chosen, if_pos same]
      exact first.complete tidy ahead derived stopped
    · have differs : ¬ feed.current.kind = kind := by
        rw [tidy.current_kind_iff eof, ahead]
        exact avoids derived stopped
      rw [chosen, if_neg differs]
      exact second.complete tidy ahead derived stopped
  · rintro taken value (derived | derived)
    · exact first.nested derived
    · exact second.nested derived

/-- A choice by the next token, which is taken if it is there. -/
theorem ifTaken {kind : TokenKind} {rule : Token → List Token → α → Prop}
    {next : Token → Parser α} (plain : kind.isPlain = true)
    (first : ∀ token, (next token).Reads source (rule token) stop)
    (second : other.Reads source rule' stop)
    (avoids : ∀ {taken more value}, rule' taken value → stop more →
      firstKind? (taken ++ more) ≠ some kind) :
    (do if ← isAt [kind] then advance >>= next else other).Reads source
      (Rule.Either (Rule.Seq (Rule.Single kind) rule) rule') stop := by
  have eof : kind ≠ .eof := (TokenKind.isPlain_iff.1 plain).2.2
  have starts : ∀ {taken value}, Rule.Seq (Rule.Single kind) rule taken value →
      firstKind? taken = some kind := by
    intro taken value derived
    rcases Rule.seq_single_iff.1 derived with ⟨token, rest, rfl, same, _⟩
    rw [firstKind?_cons, same]
  exact of_sameValues (ifAt eof (expect_bind plain first) second starts avoids) (.ifAt next)

end Parser.Reads

end GuardLang

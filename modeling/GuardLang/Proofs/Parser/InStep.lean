import GuardLang.Proofs.Alike
import GuardLang.Proofs.Parser.Steps
import Mathlib.Data.List.Forall2

/-!
# Feeds in step

Two annotations are aligned if their tokens correspond: same kinds, same values,
same texts, and spans in some relation that lasts when spans are joined.  Feeds
over such tokens are in step if what lies ahead corresponds.

A parser sees a span only to join it with others or to cut a text out of the
source, so it does the same on feeds in step: it gives corresponding values and
leaves feeds in step, or it fails for the same cause at corresponding places.
This module says so for the steps of which the grammar is built.

What holds of all spans, such as being located, is had by aligning an annotation
with itself.
-/

namespace GuardLang

/-- Two annotations whose tokens correspond. -/
structure Alignment extends Nearness where
  left : Text
  right : Text
  pairs : List (Token × Token)
  alike : ∀ pair ∈ pairs, pair.1.Alike near pair.2
  text_eq : ∀ pair ∈ pairs, pair.1.span.text left = pair.2.span.text right

namespace Alignment

variable (alignment : Alignment)

/-- Runs of pairs have tokens of the same kinds. -/
theorem map_kind_eq {run : List (Token × Token)} (among : ∀ pair ∈ run, pair ∈ alignment.pairs) :
    (run.map Prod.snd).map Token.kind = (run.map Prod.fst).map Token.kind := by
  rw [List.map_map, List.map_map]
  refine List.map_congr_left ?_
  intro pair member
  exact (alignment.alike pair (among pair member)).kind_eq.symm

/-- The part of an alignment that a run of its pairs makes. -/
def within {run : List (Token × Token)} (among : run <:+: alignment.pairs) : Alignment :=
  { alignment with
    pairs := run
    alike := fun pair member => alignment.alike pair (among.subset member)
    text_eq := fun pair member => alignment.text_eq pair (among.subset member) }

/-- The part of an alignment that stands behind a pair. -/
abbrev behind {pair : Token × Token} {run : List (Token × Token)}
    (among : pair :: run <:+: alignment.pairs) : Alignment :=
  alignment.within ((List.suffix_cons pair run).isInfix.trans among)

/-! ## Feeds -/

/-- The tokens ahead are corresponding runs, which are nested, and end marks
stand behind them. -/
structure InStep (feed other : Feed) : Prop where
  source_left : feed.source = alignment.left
  source_right : other.source = alignment.right
  last_kind : feed.last.kind = .eof
  last : feed.last.Alike alignment.near other.last
  ahead : ∃ run, run <:+: alignment.pairs ∧ feed.ahead = run.map Prod.fst ∧
    other.ahead = run.map Prod.snd
  nested : Nested feed.ahead

namespace InStep

variable {alignment : Alignment} {feed other : Feed}

/-- Either no token is ahead, or corresponding ones are. -/
theorem cases (step : alignment.InStep feed other) :
    (feed.ahead = [] ∧ other.ahead = []) ∨
      ∃ token rest other' rest', feed.ahead = token :: rest ∧ other.ahead = other' :: rest' ∧
        token.Alike alignment.near other' ∧ token.kind ≠ .eof ∧
        token.span.text feed.source = other'.span.text other.source := by
  rcases step.ahead with ⟨run, among, left, right⟩
  cases run with
  | nil => exact .inl ⟨left, right⟩
  | cons pair run =>
      have member : pair ∈ alignment.pairs := among.subset List.mem_cons_self
      refine .inr ⟨pair.1, _, pair.2, _, left, right, alignment.alike pair member, ?_, ?_⟩
      · exact step.nested.kind_ne_eof pair.1 (by simp [left])
      · rw [step.source_left, step.source_right]
        exact alignment.text_eq pair member

theorem last_kind_right (step : alignment.InStep feed other) : other.last.kind = .eof :=
  step.last.kind_eq ▸ step.last_kind

theorem length_eq (step : alignment.InStep feed other) :
    feed.ahead.length = other.ahead.length := by
  rcases step.ahead with ⟨run, _, left, right⟩
  rw [left, right, List.length_map, List.length_map]

/-- The next tokens correspond. -/
theorem current (step : alignment.InStep feed other) :
    feed.current.Alike alignment.near other.current := by
  rcases step.cases with ⟨left, right⟩ | ⟨token, _, token', _, left, right, alike, _⟩
  · rw [Feed.current_of_nil left, Feed.current_of_nil right]
    exact step.last
  · rw [Feed.current_of_cons left, Feed.current_of_cons right]
    exact alike

theorem atEnd_eq (step : alignment.InStep feed other) : feed.atEnd = other.atEnd := by
  rw [Feed.atEnd, Feed.atEnd, step.current.kind_eq]

/-- Feeds that are in step over a part are in step over the whole. -/
theorem of_within {run : List (Token × Token)} {among : run <:+: alignment.pairs}
    (step : (alignment.within among).InStep feed other) : alignment.InStep feed other := by
  rcases step.ahead with ⟨part, inside, left, right⟩
  exact ⟨step.source_left, step.source_right, step.last_kind, step.last,
    ⟨part, inside.trans among, left, right⟩, step.nested⟩

/-- Feeds stay in step when they go past corresponding runs that leave nested
tokens. -/
theorem skip (step : alignment.InStep feed other) {n : Nat} (nested : Nested (feed.ahead.drop n)) :
    alignment.InStep (feed.skip n) (other.skip n) := by
  refine ⟨step.source_left, step.source_right, step.last_kind, step.last, ?_, nested⟩
  rcases step.ahead with ⟨run, among, left, right⟩
  refine ⟨run.drop n, (List.drop_suffix n run).isInfix.trans among, ?_, ?_⟩
  · simp [left]
  · simp [right]

/-- Feeds stay in step when a token is taken that is no bracket. -/
theorem advance (step : alignment.InStep feed other) (plain : feed.current.kind.isPlain = true) :
    alignment.InStep feed.advance.2 other.advance.2 := by
  rcases step.cases with ⟨left, _⟩ | ⟨token, rest, token', rest', left, right, alike, eof, _⟩
  · rw [Feed.current_of_nil left, step.last_kind] at plain
    cases plain
  · rw [Feed.current_of_cons left] at plain
    rw [Feed.advance_of_cons left eof, Feed.advance_of_cons right (alike.kind_eq ▸ eof)]
    refine step.skip ?_
    have nested := step.nested
    rw [left] at nested ⊢
    exact nested.tail_of_isPlain plain

end InStep

/-! ## Outcomes -/

variable {α β : Type}

/-- Two outcomes agree: corresponding values and feeds in step, or the same cause
at corresponding places. -/
inductive Agree (related : α → β → Prop) : Except Fault α × Feed → Except Fault β × Feed → Prop
  | ok {value : α} {value' : β} {rest rest' : Feed} : related value value' →
      alignment.InStep rest rest' → Agree related (.ok value, rest) (.ok value', rest')
  | error {cause : Cause} {span span' : Span} {rest rest' : Feed} : cause.Ordinary →
      alignment.near span span' →
      Agree related (.error (.located cause span), rest) (.error (.located cause span'), rest')

/-- A parser does the same on feeds in step. -/
def Steady (related : α → α → Prop) (parser : Parser α) : Prop :=
  ∀ feed other, alignment.InStep feed other →
    alignment.Agree related (parser.run feed) (parser.run other)

namespace Agree

variable {alignment : Alignment} {feed other : Feed}

/-- Steps agree in sequence. -/
theorem bind {related : α → α → Prop} {related' : β → β → Prop} {parser parser' : Parser α}
    {next next' : α → Parser β}
    (first : alignment.Agree related (parser.run feed) (parser'.run other))
    (second : ∀ value value' rest rest', related value value' → alignment.InStep rest rest' →
      alignment.Agree related' ((next value).run rest) ((next' value').run rest')) :
    alignment.Agree related' ((parser >>= next).run feed) ((parser' >>= next').run other) := by
  rw [Parser.run_bind, Parser.run_bind]
  generalize parser.run feed = outcome at first
  generalize parser'.run other = outcome' at first
  cases first with
  | ok same step => exact second _ _ _ _ same step
  | error ordinary close => exact .error ordinary close

/-- The left one of two outcomes that agree. -/
theorem left {related : α → β → Prop} {outcome : Except Fault α × Feed}
    {outcome' : Except Fault β × Feed} (agree : alignment.Agree related outcome outcome') :
    (∃ value rest, outcome = (.ok value, rest) ∧ (∃ value', related value value') ∧
      ∃ rest', alignment.InStep rest rest') ∨
    ∃ cause span rest, outcome = (.error (.located cause span), rest) ∧ cause.Ordinary ∧
      ∃ span', alignment.near span span' := by
  cases agree with
  | ok same step => exact .inl ⟨_, _, rfl, ⟨_, same⟩, _, step⟩
  | error ordinary close => exact .inr ⟨_, _, _, rfl, ordinary, _, close⟩

theorem pure {related : α → β → Prop} {value : α} {value' : β} (same : related value value')
    (step : alignment.InStep feed other) :
    alignment.Agree related ((Pure.pure value : Parser α).run feed)
      ((Pure.pure value' : Parser β).run other) :=
  .ok same step

theorem failAt {related : α → β → Prop} {span span' : Span} {cause : Cause}
    (ordinary : cause.Ordinary) (close : alignment.near span span') :
    alignment.Agree related ((Parser.failAt span cause).run feed)
      ((Parser.failAt span' cause).run other) :=
  .error ordinary close

/-- Alike outcomes that take nothing agree. -/
theorem ofExcept {related : α → β → Prop} {outcome : Except Fault α} {outcome' : Except Fault β}
    (alike : Outcome.Alike alignment.near related outcome outcome')
    (step : alignment.InStep feed other) :
    alignment.Agree related ((Parser.ofExcept outcome).run feed)
      ((Parser.ofExcept outcome').run other) := by
  cases alike with
  | ok same => exact .ok same step
  | error ordinary close => exact .error ordinary close

/-- Outcomes that agree over a part agree over the whole. -/
theorem of_within {run : List (Token × Token)} {among : run <:+: alignment.pairs}
    {related : α → β → Prop} {outcome : Except Fault α × Feed} {outcome' : Except Fault β × Feed}
    (agree : (alignment.within among).Agree related outcome outcome') :
    alignment.Agree related outcome outcome' := by
  cases agree with
  | ok same step => exact .ok same step.of_within
  | error ordinary close => exact .error ordinary close

/-- Outcomes that agree are alike. -/
theorem outcome {related : α → β → Prop} {outcome : Except Fault α × Feed}
    {outcome' : Except Fault β × Feed} (agree : alignment.Agree related outcome outcome') :
    Outcome.Alike alignment.near related outcome.1 outcome'.1 := by
  cases agree with
  | ok same _ => exact .ok same
  | error ordinary close => exact .error ordinary close

end Agree

/-! ## Steps -/

namespace Steady

variable {alignment : Alignment}

theorem atEnd : alignment.Steady Eq Parser.atEnd := by
  intro feed other step
  exact .ok step.atEnd_eq step

theorem isAt (kinds : List TokenKind) : alignment.Steady Eq (Parser.isAt kinds) := by
  intro feed other step
  rw [Parser.run_isAt, Parser.run_isAt, step.current.kind_eq]
  exact .ok rfl step

theorem current : alignment.Steady (Token.Alike alignment.near) Parser.current := by
  intro feed other step
  exact .ok step.current step

/-- To expect a token that is no bracket is steady. -/
theorem expect {kind : TokenKind} (plain : kind.isPlain = true) :
    alignment.Steady (Token.Alike alignment.near) (Parser.expect kind) := by
  intro feed other step
  have current := step.current
  rw [Parser.run_expect, Parser.run_expect, ← current.kind_eq, ← current.found_eq]
  by_cases same : feed.current.kind = kind
  · rw [if_pos same, if_pos same]
    exact .ok current (step.advance (same ▸ plain))
  · rw [if_neg same, if_neg same]
    exact .error ⟨rfl, by simp⟩ current.span

/-- To take a group is steady, and it never fails for being left open. -/
theorem group :
    alignment.Steady
      (fun inner inner' => alignment.InStep inner.item inner'.item ∧
        alignment.near inner.span inner'.span)
      Parser.group := by
  intro feed other step
  have current := step.current
  by_cases opening : feed.current.kind = .opening .round
  · rcases step.ahead with ⟨run, among, left, right⟩
    cases run with
    | nil =>
        rw [Feed.current_of_nil left, step.last_kind] at opening
        cases opening
    | cons opener run =>
        rw [List.map_cons] at left right
        rw [Feed.current_of_cons left] at opening
        have nested := step.nested
        rw [left] at nested
        rcases nested.exists_group opening with ⟨inner, closer, rest, split, closing, inside, behind⟩
        -- The group is cut at the same place on both sides.
        rcases List.map_eq_append_iff.1 split with ⟨innerRun, run, rfl, rfl, tail⟩
        rcases List.map_eq_cons_iff.1 tail with ⟨closerPair, restRun, rfl, rfl, rfl⟩
        rw [List.map_append, List.map_cons] at left right
        have innerAmong : innerRun <:+: alignment.pairs := by
          refine List.IsInfix.trans ⟨[opener], closerPair :: restRun, ?_⟩ among
          simp
        have openerAlike := alignment.alike opener (among.subset (by simp))
        have closerAlike := alignment.alike closerPair (among.subset (by simp))
        have inside' : Nested (innerRun.map Prod.snd) :=
          inside.of_map_kind_eq (alignment.map_kind_eq fun _ member => innerAmong.subset member)
        rw [Parser.run_group_of_nested left opening closing inside,
          Parser.run_group_of_nested right (openerAlike.kind_eq ▸ opening)
            (closerAlike.kind_eq ▸ closing) inside', List.length_map, List.length_map]
        refine .ok ⟨?_, alignment.near_join openerAlike.span closerAlike.span⟩ (step.skip ?_)
        · exact ⟨step.source_left, step.source_right, rfl,
            ⟨rfl, rfl, alignment.near_opening closerAlike.span⟩,
            ⟨innerRun, innerAmong, rfl, rfl⟩, inside⟩
        · have passed : feed.ahead.drop (innerRun.length + 2) = restRun.map Prod.fst := by
            rw [left]
            simp [List.drop_append]
          rw [passed]
          exact behind
  · rw [Parser.group, Parser.run_bind, Parser.run_bind, Parser.run_expect, Parser.run_expect,
      ← current.kind_eq, ← current.found_eq, if_neg opening, if_neg opening]
    exact .error ⟨rfl, by simp⟩ current.span

/-- To try a steady parser is steady. -/
theorem attempt {related : α → α → Prop} {parser : Parser α}
    (steady : alignment.Steady related parser) :
    alignment.Steady (Option.Rel related) (Parser.attempt parser) := by
  intro feed other step
  have agree := steady feed other step
  rw [Parser.run_attempt, Parser.run_attempt]
  generalize parser.run feed = outcome at agree
  generalize parser.run other = outcome' at agree
  cases agree with
  | ok same rest => exact .ok (.some same) rest
  | @error cause span span' rest rest' ordinary close =>
      have same : (Fault.located cause span).isGrammatical =
          (Fault.located cause span').isGrammatical := rfl
      dsimp only
      rw [← same]
      split
      · exact .ok .none step
      · exact .error ordinary close

/-- To read a list of items is steady if to read one is. -/
theorem punctuatedUpTo {related : α → α → Prop} {item : Parser α}
    (steady : alignment.Steady related item) (fuel : Nat) :
    alignment.Steady (List.Forall₂ related) (Parser.punctuatedUpTo item fuel) := by
  induction fuel with
  | zero =>
      intro feed other step
      exact .pure .nil step
  | succ fuel ih =>
      intro feed other step
      simp only [Parser.punctuatedUpTo]
      apply Agree.bind (atEnd feed other step)
      rintro ended _ feed other rfl step
      cases ended with
      | true => exact .pure .nil step
      | false =>
          apply Agree.bind (steady feed other step)
          intro first first' feed other same step
          apply Agree.bind (atEnd feed other step)
          rintro ended _ feed other rfl step
          cases ended with
          | true => exact .pure (.cons same .nil) step
          | false =>
              apply Agree.bind (expect rfl feed other step)
              intro _ _ feed other _ step
              apply Agree.bind (ih feed other step)
              intro more more' feed other rest step
              exact .pure (.cons same rest) step

theorem punctuated {related : α → α → Prop} {item : Parser α}
    (steady : alignment.Steady related item) :
    alignment.Steady (List.Forall₂ related) (Parser.punctuated item) := by
  intro feed other step
  have agree := punctuatedUpTo steady (feed.ahead.length + 1) feed other step
  rw [Parser.punctuated, Parser.run_bind, Parser.run_bind, Parser.run_feed, Parser.run_feed]
  dsimp only
  rw [← step.length_eq]
  exact agree

end Steady

namespace Agree

variable {alignment : Alignment} {feed other : Feed}

/-- To expect a token that is no bracket, and to go on with what stands behind it
alone. -/
theorem expect_bind {related : β → β → Prop} {kind : TokenKind} {next next' : Token → Parser β}
    (plain : kind.isPlain = true) (step : alignment.InStep feed other)
    (found : ∀ (pair : Token × Token) (run : List (Token × Token)) (rest rest' : Feed)
      (among : pair :: run <:+: alignment.pairs), pair.1.kind = kind →
      rest.ahead = run.map Prod.fst → rest'.ahead = run.map Prod.snd →
      (alignment.behind among).InStep rest rest' →
      alignment.Agree related ((next pair.1).run rest) ((next' pair.2).run rest')) :
    alignment.Agree related ((Parser.expect kind >>= next).run feed)
      ((Parser.expect kind >>= next').run other) := by
  have current := step.current
  rw [Parser.run_bind, Parser.run_bind, Parser.run_expect, Parser.run_expect, ← current.kind_eq,
    ← current.found_eq]
  by_cases same : feed.current.kind = kind
  · rw [if_pos same, if_pos same]
    rcases step.ahead with ⟨run, among, left, right⟩
    cases run with
    | nil =>
        rw [← same, Feed.current_of_nil left, step.last_kind] at plain
        cases plain
    | cons pair run =>
        rw [List.map_cons] at left right
        have eof : pair.1.kind ≠ .eof := step.nested.kind_ne_eof pair.1 (by simp [left])
        have eof' : pair.2.kind ≠ .eof :=
          (alignment.alike pair (among.subset List.mem_cons_self)).kind_eq ▸ eof
        have rest := step.advance (same ▸ plain)
        rw [Feed.current_of_cons left] at same
        rw [Feed.advance_of_cons left eof, Feed.advance_of_cons right eof'] at rest
        rw [Feed.current_of_cons left, Feed.current_of_cons right, Feed.advance_of_cons left eof,
          Feed.advance_of_cons right eof']
        have left' := Feed.skip_ahead_of_cons left
        have right' := Feed.skip_ahead_of_cons right
        exact found pair run _ _ among same left' right' ⟨rest.source_left, rest.source_right,
          rest.last_kind, rest.last, ⟨run, List.infix_refl _, left', right'⟩, rest.nested⟩
  · rw [if_neg same, if_neg same]
    exact .error ⟨rfl, by simp⟩ current.span

/-- To look for a token that is no bracket, and to go on behind it if it is
there. -/
theorem ifAt {related : α → α → Prop} {kind : TokenKind} {next next' : Token → Parser α}
    {otherwise otherwise' : Parser α} (plain : kind.isPlain = true) (step : alignment.InStep feed other)
    (found : ∀ token token' rest rest', token.Alike alignment.near token' →
      alignment.InStep rest rest' →
      alignment.Agree related ((next token).run rest) ((next' token').run rest'))
    (missing : alignment.Agree related (otherwise.run feed) (otherwise'.run other)) :
    alignment.Agree related
      ((do if ← Parser.isAt [kind] then Parser.advance >>= next else otherwise).run feed)
      ((do if ← Parser.isAt [kind] then Parser.advance >>= next' else otherwise').run other) := by
  simp only [Parser.run_bind, Parser.run_isAt, ← step.current.kind_eq]
  by_cases same : feed.current.kind = kind
  · rw [if_pos (by simp [same]), if_pos (by simp [same])]
    simp only [Parser.run_bind, Parser.run_advance]
    exact found _ _ _ _ step.current (step.advance (same ▸ plain))
  · rw [if_neg (by simp [same]), if_neg (by simp [same])]
    exact missing

end Agree

end Alignment

end GuardLang

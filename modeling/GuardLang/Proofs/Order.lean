import GuardLang.Grammar.Function

/-!
# Tokens in order

The tokens of a scan stand one behind the other.  The span of a run of them goes
from the start of the first to the end of the last, and this is also what joining
their spans one after the other gives (`spanOf?_eq_cover?`).
-/

namespace GuardLang

/-- One token ends before another begins. -/
def Token.Before (first second : Token) : Prop :=
  first.span.start < second.span.start ∧ first.span.stop ≤ second.span.start

/-- Tokens that cover some text and stand one behind the other. -/
structure Ordered (tokens : List Token) : Prop where
  proper : ∀ token ∈ tokens, token.span.start < token.span.stop
  before : tokens.Pairwise Token.Before

/-- The span from the start of one span to the end of another. -/
def Span.through (first last : Span) : Span :=
  ⟨first.start, last.stop, first.line, first.column⟩

/-- A span that lies behind another one extends it. -/
theorem Span.join_of_le {a b : Span} (start_le : a.start ≤ b.start) (stop_le : a.stop ≤ b.stop) :
    a.join b = a.through b := by
  simp [Span.join, start_le, Nat.max_eq_right stop_le, Span.through]

/-- The span from the first to the last of some tokens. -/
def cover? (tokens : List Token) : Option Span :=
  match tokens.head?, tokens.getLast? with
  | some first, some last => some (first.span.through last.span)
  | _, _ => none

theorem cover?_eq_some_iff {tokens : List Token} {span : Span} :
    cover? tokens = some span ↔
      ∃ first last, tokens.head? = some first ∧ tokens.getLast? = some last ∧
        span = first.span.through last.span := by
  unfold cover?
  constructor
  · intro covered
    split at covered
    · rename_i first last head_eq last_eq
      cases covered
      exact ⟨first, last, head_eq, last_eq, rfl⟩
    · cases covered
  · rintro ⟨first, last, head_eq, last_eq, rfl⟩
    rw [head_eq, last_eq]

@[simp]
theorem cover?_singleton (token : Token) : cover? [token] = some token.span :=
  rfl

/-- Every run that is not empty has a span. -/
theorem exists_cover?_cons (token : Token) (tokens : List Token) :
    ∃ span, cover? (token :: tokens) = some span :=
  ⟨_, cover?_eq_some_iff.2 ⟨token, _, rfl, List.getLast?_cons, rfl⟩⟩

namespace Ordered

variable {tokens first second : List Token}

theorem sublist (ordered : Ordered tokens) (part : first.Sublist tokens) : Ordered first :=
  ⟨fun token member => ordered.proper token (part.subset member), ordered.before.sublist part⟩

theorem left (ordered : Ordered (first ++ second)) : Ordered first :=
  ordered.sublist (List.sublist_append_left _ _)

theorem right (ordered : Ordered (first ++ second)) : Ordered second :=
  ordered.sublist (List.sublist_append_right _ _)

/-- No token of a run ends behind its last one. -/
theorem stop_le_getLast (ordered : Ordered tokens) {token last : Token} (member : token ∈ tokens)
    (ending : tokens.getLast? = some last) : token.span.stop ≤ last.span.stop := by
  rcases List.getLast?_eq_some_iff.1 ending with ⟨front, rfl⟩
  rcases List.mem_append.1 member with member | member
  · have before := (List.pairwise_append.1 ordered.before).2.2 token member last (by simp)
    have proper := ordered.proper last (by simp)
    exact Nat.le_trans before.2 (Nat.le_of_lt proper)
  · rcases List.mem_singleton.1 member with rfl
    exact Nat.le_refl _

/-- No token of a run begins before its first one. -/
theorem head_le_start (ordered : Ordered tokens) {token head : Token} (member : token ∈ tokens)
    (starts : tokens.head? = some head) : head.span.start ≤ token.span.start := by
  rcases List.head?_eq_some_iff.1 starts with ⟨rest, rfl⟩
  rcases List.mem_cons.1 member with rfl | member
  · exact Nat.le_refl _
  · exact Nat.le_of_lt (List.rel_of_pairwise_cons ordered.before member).1

/-- The span of a run tells its tokens, and those in front of it, from the others. -/
theorem filter_of_cover? {before run after : List Token}
    (ordered : Ordered (before ++ (run ++ after))) {span : Span}
    (covered : cover? run = some span) :
    ((before ++ (run ++ after)).filter fun token => token.span.start < span.start) = before ∧
      ((before ++ (run ++ after)).filter fun token =>
        span.start ≤ token.span.start ∧ token.span.start < span.stop) = run := by
  rcases cover?_eq_some_iff.1 covered with ⟨head, last, head_eq, last_eq, span_eq⟩
  have start_eq : span.start = head.span.start := by rw [span_eq, Span.through]
  have stop_eq : span.stop = last.span.stop := by rw [span_eq, Span.through]
  have early : ∀ token ∈ before, token.span.start < span.start := by
    intro token member
    have headMember : head ∈ run ++ after := List.mem_append_left _ (List.mem_of_mem_head? head_eq)
    have next := (List.pairwise_append.1 ordered.before).2.2 token member head headMember
    exact start_eq ▸ next.1
  have inside : ∀ token ∈ run, span.start ≤ token.span.start ∧ token.span.start < span.stop := by
    intro token member
    have proper := ordered.right.left.proper token member
    have stop_le := ordered.right.left.stop_le_getLast member last_eq
    have start_le := ordered.right.left.head_le_start member head_eq
    omega
  have late : ∀ token ∈ after, span.start ≤ token.span.start ∧ span.stop ≤ token.span.start := by
    intro token member
    have lastMember := List.mem_of_getLast? last_eq
    have next := (List.pairwise_append.1 ordered.right.before).2.2 last lastMember token member
    have start_le := (inside last lastMember).1
    exact ⟨Nat.le_trans start_le (Nat.le_of_lt next.1), stop_eq ▸ next.2⟩
  constructor
  · rw [List.filter_append, List.filter_eq_self.2, List.filter_eq_nil_iff.2, List.append_nil]
    · intro token member
      rcases List.mem_append.1 member with member | member
      · simpa using (inside token member).1
      · simpa using (late token member).1
    · intro token member
      simpa using early token member
  · rw [List.filter_append, List.filter_append, List.filter_eq_nil_iff.2, List.filter_eq_self.2,
      List.filter_eq_nil_iff.2, List.nil_append, List.append_nil]
    · intro token member
      simpa using fun _ => (late token member).2
    · intro token member
      simpa using inside token member
    · intro token member
      have first := early token member
      simp
      omega

/-- The span of two runs and what stands between them is the join of the spans of
the two. -/
theorem cover?_between {gap : List Token} (ordered : Ordered (first ++ (gap ++ second)))
    {a b : Span} (left : cover? first = some a) (right : cover? second = some b) :
    cover? (first ++ (gap ++ second)) = some (a.join b) := by
  rcases cover?_eq_some_iff.1 left with ⟨firstHead, firstLast, firstHead_eq, firstLast_eq, rfl⟩
  rcases cover?_eq_some_iff.1 right with
    ⟨secondHead, secondLast, secondHead_eq, secondLast_eq, rfl⟩
  have across := (List.pairwise_append.1 ordered.before).2.2
  have secondMember : secondHead ∈ second := List.mem_of_mem_head? secondHead_eq
  have behind : secondHead ∈ gap ++ second := List.mem_append_right _ secondMember
  have starts : firstHead.span.start ≤ secondHead.span.start := by
    have before := across firstHead (List.mem_of_mem_head? firstHead_eq) secondHead behind
    exact Nat.le_of_lt before.1
  have ends : firstLast.span.stop ≤ secondLast.span.stop := by
    have before := across firstLast (List.mem_of_getLast? firstLast_eq) secondHead behind
    have proper := ordered.right.proper secondHead behind
    have last := ordered.right.right.stop_le_getLast secondMember secondLast_eq
    exact Nat.le_trans before.2 (Nat.le_trans (Nat.le_of_lt proper) last)
  have joined : (firstHead.span.through firstLast.span).join
      (secondHead.span.through secondLast.span) =
      (firstHead.span.through firstLast.span).through (secondHead.span.through secondLast.span) :=
    Span.join_of_le starts ends
  rw [joined]
  refine cover?_eq_some_iff.2 ⟨firstHead, secondLast, ?_, ?_, rfl⟩
  · simp [firstHead_eq]
  · simp [secondLast_eq]

/-- The span of two runs in a row is the join of their spans. -/
theorem cover?_append (ordered : Ordered (first ++ second)) {a b : Span}
    (left : cover? first = some a) (right : cover? second = some b) :
    cover? (first ++ second) = some (a.join b) :=
  @cover?_between first second [] ordered a b left right

end Ordered

/-- Joining the spans of a run gives the span from its first to its last token. -/
theorem spanOf?_eq_cover? {tokens : List Token} (ordered : Ordered tokens) :
    Grammar.spanOf? tokens = cover? tokens := by
  have joined : ∀ (rest passed : List Token) (span : Span), Ordered (passed ++ rest) →
      cover? passed = some span →
      cover? (passed ++ rest) =
        some (rest.foldl (fun span token => span.join token.span) span) := by
    intro rest
    induction rest with
    | nil =>
        intro passed span _ covered
        simpa using covered
    | cons token rest ih =>
        intro passed span ordered covered
        rw [List.append_cons] at ordered ⊢
        rw [List.foldl_cons]
        exact ih _ _ ordered (ordered.left.cover?_append covered (cover?_singleton token))
  cases tokens with
  | nil => rfl
  | cons first rest => exact (joined rest [first] first.span ordered rfl).symm

end GuardLang

import GuardLang.Proofs.Grammar.Options

/-!
# Where items and options stand

An item of a list is derived from a run of the list's tokens, and its span lies in
this run.  The runs stand one behind the other with commas between them, so the spans
do, too.  In the same way what a draft holds was said by an option that stands among
the tokens of the annotation.
-/

namespace GuardLang

/-! ## Spans of runs -/

/-- A span that goes from one token of a run to another one and covers some text. -/
def Span.Spans (tokens : List Token) (span : Span) : Prop :=
  span.start < span.stop ∧ (∃ first ∈ tokens, first.span.start = span.start) ∧
    ∃ last ∈ tokens, last.span.stop = span.stop

namespace Span.Spans

variable {tokens others : List Token} {span : Span}

theorem mono (spans : span.Spans tokens) (among : ∀ token ∈ tokens, token ∈ others) :
    span.Spans others := by
  rcases spans with ⟨proper, ⟨first, head, starts⟩, last, final, stops⟩
  exact ⟨proper, ⟨first, among first head, starts⟩, last, among last final, stops⟩

theorem of_cover? (ordered : Ordered tokens) (covered : cover? tokens = some span) :
    span.Spans tokens := by
  rcases cover?_eq_some_iff.1 covered with ⟨first, last, first_eq, last_eq, rfl⟩
  have head := List.mem_of_mem_head? first_eq
  have proper := ordered.proper first head
  have reaches := ordered.stop_le_getLast head last_eq
  exact ⟨Nat.lt_of_lt_of_le proper reaches, ⟨first, head, rfl⟩, last, List.mem_of_getLast? last_eq,
    rfl⟩

/-- What stands in front of a run ends before its span begins. -/
theorem stop_le_start (spans : span.Spans others) {token : Token}
    (before : ∀ other ∈ others, token.Before other) : token.span.stop ≤ span.start := by
  rcases spans with ⟨_, ⟨first, head, starts⟩, _⟩
  rw [← starts]
  exact (before first head).2

/-- What stands behind a run begins where its span has ended. -/
theorem stop_le_of_before (spans : span.Spans tokens) {token : Token}
    (before : ∀ other ∈ tokens, other.Before token) : span.stop ≤ token.span.start := by
  rcases spans with ⟨_, _, last, final, stops⟩
  rw [← stops]
  exact (before last final).2

end Span.Spans

/-! ## Items -/

namespace Rule

variable {α : Type} {item : List Token → Spanned α → Prop} {tokens : List Token}
  {values : List (Spanned α)}

/-- Every item of a list is derived from a run of its tokens. -/
theorem Listed.exists_run {α : Type} {item : List Token → α → Prop} {values : List α}
    (listed : Listed item tokens values) :
    ∀ value ∈ values, ∃ run, run <:+: tokens ∧ item run value := by
  induction listed with
  | nil => simp
  | @last tokens value derived =>
      intro other member
      cases List.mem_singleton.1 member
      exact ⟨tokens, List.infix_refl _, derived⟩
  | @more tokens rest comma value values derived _ _ ih =>
      intro other member
      rcases List.mem_cons.1 member with rfl | member
      · exact ⟨tokens, (List.prefix_append _ _).isInfix, derived⟩
      · rcases ih other member with ⟨run, among, derived⟩
        have behind : rest <:+: tokens ++ comma :: rest :=
          ((List.suffix_cons comma rest).trans (List.suffix_append _ _)).isInfix
        exact ⟨run, among.trans behind, derived⟩

/-- The spans of items lie among the tokens of their list. -/
theorem Listed.spans (spans : ∀ {run value}, item run value → Ordered run → value.span.Spans run)
    (listed : Listed item tokens values) (ordered : Ordered tokens) :
    ∀ value ∈ values, value.span.Spans tokens := by
  intro value member
  rcases listed.exists_run value member with ⟨run, among, derived⟩
  exact (spans derived (ordered.sublist among.sublist)).mono fun _ member => among.subset member

/-- A comma and more keep the spans of two items apart. -/
theorem Listed.pairwise
    (spans : ∀ {run value}, item run value → Ordered run → value.span.Spans run)
    (listed : Listed item tokens values) (ordered : Ordered tokens) :
    values.Pairwise fun first second => first.span.stop < second.span.start := by
  induction listed with
  | nil => exact .nil
  | last _ => exact List.pairwise_singleton _ _
  | @more tokens rest comma value values derived _ listed ih =>
      have behind := ordered.right
      have ordered' := behind.sublist (List.sublist_cons_self comma rest)
      refine .cons ?_ (ih ordered')
      intro other member
      have front := (spans derived ordered.left).stop_le_of_before
        fun token member => (List.pairwise_append.1 ordered.before).2.2 token member comma (by simp)
      have back := (listed.spans spans ordered' other member).stop_le_start
        fun token member => List.rel_of_pairwise_cons behind.before member
      have proper := behind.proper comma List.mem_cons_self
      omega

end Rule

/-! ## Options -/

namespace Rule

variable {S V D : Type} {source : Text} {rules : Rules S V D} {grammar : Grammar S V D}
  {enabled : Capabilities} {tokens : List Token}

/-- An option stands among the tokens, outside all brackets. -/
def Stands (rules : Rules S V D) (enabled : Capabilities) (tokens : List Token)
    (setting : Setting S V D) : Prop :=
  ∃ before taken after, tokens = before ++ (taken ++ after) ∧ Nested before ∧
    Sets rules enabled taken setting

theorem Options.stands (reads : grammar.Reads source rules) {settings : List (Setting S V D)}
    (options : Options rules enabled tokens settings) :
    ∀ setting ∈ settings, Stands rules enabled tokens setting := by
  induction options with
  | nil => simp
  | @option taken gap rest setting settings sets comma _ ih =>
      intro other member
      rcases List.mem_cons.1 member with rfl | member
      · exact ⟨[], taken, gap ++ rest, by simp, .nil, sets⟩
      · rcases ih other member with ⟨before, found, after, rfl, nested, sets'⟩
        have separator : Nested gap := by
          cases comma with
          | none => exact .nil
          | comma isComma => exact .plain (by rw [isComma]; rfl) .nil
        exact ⟨taken ++ gap ++ before, found, after, by simp,
          ((sets.nested reads).append separator).append nested, sets'⟩

/-- All that a draft holds was said by options that stand among the tokens. -/
structure Holds (rules : Rules S V D) (enabled : Capabilities) (tokens : List Token)
    (draft : Draft S V D) : Prop where
  sanitizers : draft.items.sanitizers = [] ∨
    Stands rules enabled tokens (.sanitize draft.items.sanitizers)
  validators : draft.items.validators = [] ∨
    Stands rules enabled tokens (.validate draft.items.validators)
  defaultValue : ∀ value ∈ draft.defaultValue, Stands rules enabled tokens (.default value)

theorem Holds.addTo {draft : Draft S V D} {setting : Setting S V D}
    (holds : Holds rules enabled tokens draft) (stands : Stands rules enabled tokens setting) :
    Holds rules enabled tokens (setting.addTo draft) := by
  cases setting with
  | sanitize items => exact { holds with sanitizers := .inr stands }
  | validate items => exact { holds with validators := .inr stands }
  | default value =>
      refine { holds with defaultValue := ?_ }
      rintro _ ⟨⟩
      exact stands
  | newUnchecked => exact { holds with }

theorem Holds.foldl {settings : List (Setting S V D)}
    (stands : ∀ setting ∈ settings, Stands rules enabled tokens setting) {draft : Draft S V D}
    (holds : Holds rules enabled tokens draft) :
    Holds rules enabled tokens (settings.foldl Setting.addTo draft) := by
  induction settings generalizing draft with
  | nil => exact holds
  | cons setting settings ih =>
      rw [List.forall_mem_cons] at stands
      exact ih stands.2 (holds.addTo stands.1)

/-- What an annotation declares stands among its tokens. -/
theorem Annotated.holds (reads : grammar.Reads source rules) {draft : Draft S V D}
    (annotated : Annotated rules enabled tokens draft) : Holds rules enabled tokens draft := by
  rcases annotated with ⟨settings, options, _, rfl⟩
  exact Holds.foldl (options.stands reads) ⟨.inl rfl, .inl rfl, by simp⟩

end Rule

end GuardLang

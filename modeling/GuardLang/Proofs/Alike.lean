import GuardLang.Fault
import GuardLang.Proofs.Located

/-!
# What differs in spans

Relations between spans, and between tokens and outcomes that are the same but
for their spans.  With the relation that puts every located span next to itself,
what is alike to itself has only located spans.
-/

namespace GuardLang

/-! ## Relations between spans -/

/-- Of two spans the one that starts later. -/
def Span.later (first second : Span) : Span :=
  if second.start < first.start then first else second

/-- A relation between spans that lasts when new spans are made from old ones. -/
structure Nearness where
  near : Span → Span → Prop
  near_join : ∀ {first second other another : Span}, near first second → near other another →
    near (first.join other) (second.join another)
  near_opening : ∀ {first second : Span}, near first second → near first.opening second.opening
  near_later : ∀ {first second other another : Span}, near first second → near other another →
    near (first.later other) (second.later another)

namespace Nearness

/-- All spans are near each other. -/
def anywhere : Nearness where
  near _ _ := True
  near_join _ _ := trivial
  near_opening _ := trivial
  near_later _ _ := trivial

/-- A span is near itself if it is located in a source. -/
def located (source : Text) : Nearness where
  near first second := first = second ∧ first.Located source
  near_join := by
    rintro first _ other _ ⟨rfl, one⟩ ⟨rfl, two⟩
    exact ⟨rfl, one.join two⟩
  near_opening := by
    rintro first _ ⟨rfl, one⟩
    exact ⟨rfl, one.opening⟩
  near_later := by
    rintro first _ other _ ⟨rfl, one⟩ ⟨rfl, two⟩
    refine ⟨rfl, ?_⟩
    unfold Span.later
    split
    · exact one
    · exact two

end Nearness

/-! ## Tokens and outcomes -/

/-- Two tokens that differ only in their spans. -/
structure Token.Alike (near : Span → Span → Prop) (token other : Token) : Prop where
  kind_eq : token.kind = other.kind
  value_eq : token.value = other.value
  span : near token.span other.span

theorem Token.Alike.found_eq {near : Span → Span → Prop} {token other : Token}
    (alike : token.Alike near other) : token.found = other.found := by
  rw [Token.found, Token.found, alike.kind_eq, alike.value_eq]

/-- A cause that a reading may give: an error in the annotation, but not a group
that is left open. -/
structure Cause.Ordinary (cause : Cause) : Prop where
  within_general : cause.category.within .general = true
  ne_unclosed : ∀ opener, cause ≠ .unclosed opener

/-- Two outcomes: related values, or the same cause at places near each other. -/
inductive Outcome.Alike (near : Span → Span → Prop) {α β : Type} (related : α → β → Prop) :
    Except Fault α → Except Fault β → Prop
  | ok {value : α} {other : β} : related value other → Alike near related (.ok value) (.ok other)
  | error {cause : Cause} {span other : Span} : cause.Ordinary → near span other →
      Alike near related (.error (.located cause span)) (.error (.located cause other))

namespace Outcome.Alike

variable {near : Span → Span → Prop} {α β γ δ : Type}

/-- Outcomes are alike in sequence. -/
theorem bind {related : α → β → Prop} {related' : γ → δ → Prop} {outcome : Except Fault α}
    {other : Except Fault β} {next : α → Except Fault γ} {next' : β → Except Fault δ}
    (first : Alike near related outcome other)
    (second : ∀ value value', related value value' →
      Alike near related' (next value) (next' value')) :
    Alike near related' (outcome >>= next) (other >>= next') := by
  cases first with
  | ok same => exact second _ _ same
  | error ordinary close => exact .error ordinary close

/-- Outcomes stay alike when their values are changed alike. -/
theorem map {related : α → β → Prop} {related' : γ → δ → Prop} {outcome : Except Fault α}
    {other : Except Fault β} {f : α → γ} {g : β → δ} (alike : Alike near related outcome other)
    (changed : ∀ value value', related value value' → related' (f value) (g value')) :
    Alike near related' (outcome.map f) (other.map g) := by
  cases alike with
  | ok same => exact .ok (changed _ _ same)
  | error ordinary close => exact .error ordinary close

/-- Outcomes are alike in less. -/
theorem mono {related related' : α → β → Prop} {outcome : Except Fault α} {other : Except Fault β}
    (alike : Alike near related outcome other)
    (weaker : ∀ value value', related value value' → related' value value') :
    Alike near related' outcome other := by
  cases alike with
  | ok same => exact .ok (weaker _ _ same)
  | error ordinary close => exact .error ordinary close

/-- Outcomes that are alike succeed together. -/
theorem exists_ok {related : α → β → Prop} {outcome : Except Fault α} {other : Except Fault β}
    (alike : Alike near related outcome other) (succeeds : outcome.isOk = true) :
    ∃ value value', outcome = .ok value ∧ other = .ok value' ∧ related value value' := by
  cases alike with
  | ok same => exact ⟨_, _, rfl, rfl, same⟩
  | error => cases succeeds

/-- The left one of two outcomes that are alike. -/
theorem left {related : α → β → Prop} {outcome : Except Fault α} {other : Except Fault β}
    (alike : Alike near related outcome other) :
    (∃ value, outcome = .ok value ∧ ∃ value', related value value') ∨
      ∃ cause span, outcome = .error (.located cause span) ∧ cause.Ordinary ∧
        ∃ span', near span span' := by
  cases alike with
  | ok same => exact .inl ⟨_, rfl, _, same⟩
  | error ordinary close => exact .inr ⟨_, _, rfl, ordinary, _, close⟩

end Outcome.Alike

end GuardLang

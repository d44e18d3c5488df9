import GuardLang.Proofs.Declaration.Steps
import GuardLang.Proofs.Grammar.InStep

/-!
# Declarations of aligned annotations

Options are read one after the other into a draft.  On feeds in step the drafts
stay alike, so whole annotations that are aligned are read alike, and the guards
they describe are checked alike.

Main statements: `Alignment.readRaw_alike` for the reading alone and
`Alignment.readChecked_alike` for reading and checking.
-/

namespace GuardLang

/-- Two drafts that differ at most in spans and bodies. -/
structure Draft.Alike {S V D : Type} (near : Span → Span → Prop) (sanitizer : Span → S → S → Prop)
    (validator : Span → V → V → Prop) (draft other : Draft S V D) : Prop where
  items : draft.items.Alike near sanitizer validator other.items
  newUnchecked_eq : draft.newUnchecked = other.newUnchecked
  defaultValue : Option.Rel (Spanned.Alike near Eq) draft.defaultValue other.defaultValue

namespace Alignment

open Grammar

variable {alignment : Alignment} {S V D : Type} {sanitizer : Span → S → S → Prop}
  {validator : Span → V → V → Prop}

/-- A grammar all of whose rules are steady. -/
structure SteadyGrammar (alignment : Alignment) (sanitizer : Span → S → S → Prop)
    (validator : Span → V → V → Prop) (grammar : Grammar S V D) : Prop where
  sanitizer : alignment.Steady (Spanned.AlikeAt alignment.near sanitizer) grammar.sanitizer
  validator : alignment.Steady (Spanned.AlikeAt alignment.near validator) grammar.validator
  defaultValue : alignment.Steady (Spanned.Alike alignment.near Eq) grammar.defaultValue

/-! ## Options -/

namespace Agree

variable {feed other : Feed} {keyword keyword' : Token}

/-- To take the group of an option is steady. -/
theorem optionGroup (same : keyword.Alike alignment.near keyword')
    (step : alignment.InStep feed other) :
    alignment.Agree alignment.InStep ((optionGroup keyword).run feed)
      ((optionGroup keyword').run other) := by
  apply bind (Steady.isAt [.opening .round] feed other step)
  rintro opened _ feed other rfl step
  cases opened with
  | true =>
      apply bind (Steady.group feed other step)
      intro group group' feed other groups step
      exact .pure groups.1 step
  | false =>
      rw [same.value_eq]
      exact .failAt ⟨rfl, by simp⟩ same.span

/-- To read what an option says is steady. -/
theorem optionValue {grammar : Grammar S V D}
    (steady : alignment.SteadyGrammar sanitizer validator grammar) (enabled : Capabilities)
    {draft draft' : Draft S V D} (drafts : draft.Alike alignment.near sanitizer validator draft')
    (same : keyword.Alike alignment.near keyword') (step : alignment.InStep feed other) :
    alignment.Agree (Draft.Alike alignment.near sanitizer validator)
      ((optionValue grammar enabled keyword draft).run feed)
      ((optionValue grammar enabled keyword' draft').run other) := by
  unfold Grammar.optionValue
  rw [same.value_eq]
  rcases (Keyword.ofName? _ : Option OptionKind) with _ | (_ | _ | _ | _)
  · exact .failAt ⟨rfl, by simp⟩ same.span
  · apply bind (optionGroup same step)
    intro inner inner' feed other inside step
    apply bind (.ofExcept (Steady.punctuated steady.sanitizer inner inner' inside).outcome step)
    intro sanitizers sanitizers' feed other items step
    exact .pure ⟨⟨items, drafts.items.validators⟩, drafts.newUnchecked_eq, drafts.defaultValue⟩ step
  · apply bind (optionGroup same step)
    intro inner inner' feed other inside step
    apply bind (.ofExcept (Steady.punctuated steady.validator inner inner' inside).outcome step)
    intro validators validators' feed other items step
    exact .pure ⟨⟨drafts.items.sanitizers, items⟩, drafts.newUnchecked_eq, drafts.defaultValue⟩ step
  · apply bind (Steady.expect rfl feed other step)
    intro _ _ feed other _ step
    apply bind (steady.defaultValue feed other step)
    intro value value' feed other values step
    exact .pure ⟨drafts.items, drafts.newUnchecked_eq, .some values⟩ step
  · apply bind (.ofExcept (require_alike enabled .newUnchecked same.span) step)
    intro _ _ feed other _ step
    exact .pure ⟨drafts.items, rfl, drafts.defaultValue⟩ step

/-- To take a comma is steady. -/
theorem skipComma (step : alignment.InStep feed other) :
    alignment.Agree (fun _ _ => True) (skipComma.run feed) (skipComma.run other) := by
  apply ifAt rfl step
  · intro _ _ feed other _ step
    exact .pure trivial step
  · exact .pure trivial step

end Agree

/-- Keywords that correspond have been seen alike. -/
theorem any_value_eq {seen seen' : List Token} {keyword keyword' : Token}
    (alike : List.Forall₂ (Token.Alike alignment.near) seen seen')
    (same : keyword.value = keyword'.value) :
    (seen.any fun earlier => earlier.value == keyword.value) =
      seen'.any fun earlier => earlier.value == keyword'.value := by
  induction alike with
  | nil => rfl
  | cons first _ ih => rw [List.any_cons, List.any_cons, ih, first.value_eq, same]

/-- To read an option is steady. -/
theorem Agree.option {feed other : Feed} {grammar : Grammar S V D}
    (steady : alignment.SteadyGrammar sanitizer validator grammar) (enabled : Capabilities)
    {seen seen' : List Token} (keywords : List.Forall₂ (Token.Alike alignment.near) seen seen')
    {draft draft' : Draft S V D} (drafts : draft.Alike alignment.near sanitizer validator draft')
    (step : alignment.InStep feed other) :
    alignment.Agree
      (fun read read' => read.1.Alike alignment.near read'.1 ∧
        read.2.Alike alignment.near sanitizer validator read'.2)
      ((option grammar enabled seen draft).run feed)
      ((option grammar enabled seen' draft').run other) := by
  have current := step.current
  simp only [Grammar.option, Parser.run_bind, Parser.run_advance]
  rw [← current.kind_eq, ← current.found_eq, any_value_eq keywords current.value_eq]
  by_cases name : feed.current.kind = .identifier
  · have identifier : ¬ feed.current.kind ≠ .identifier := not_not_intro name
    have step := step.advance (by rw [name]; rfl)
    simp only [if_neg identifier]
    split
    · rw [current.value_eq]
      exact .failAt ⟨rfl, by simp⟩ current.span
    · apply Agree.bind (.optionValue steady enabled drafts current step)
      intro draft draft' feed other drafts step
      apply Agree.bind (.skipComma step)
      intro _ _ feed other _ step
      exact .pure ⟨current, drafts⟩ step
  · rw [if_pos name, if_pos name]
    exact .failAt ⟨rfl, by simp⟩ current.span

/-- To read options is steady. -/
theorem optionsUpTo_alike {grammar : Grammar S V D}
    (steady : alignment.SteadyGrammar sanitizer validator grammar) (enabled : Capabilities)
    (fuel : Nat) {progress progress' : Progress S V D}
    (keywords : List.Forall₂ (Token.Alike alignment.near) progress.keywords progress'.keywords)
    (drafts : progress.draft.Alike alignment.near sanitizer validator progress'.draft)
    (step : alignment.InStep progress.feed progress'.feed) :
    Outcome.Alike alignment.near (Draft.Alike alignment.near sanitizer validator)
      ((optionsUpTo grammar enabled fuel progress).1.map fun _ =>
        (optionsUpTo grammar enabled fuel progress).2.draft)
      ((optionsUpTo grammar enabled fuel progress').1.map fun _ =>
        (optionsUpTo grammar enabled fuel progress').2.draft) := by
  induction fuel generalizing progress progress' with
  | zero => exact .ok drafts
  | succ fuel ih =>
      have agree := Agree.option steady enabled keywords drafts step
      simp only [optionsUpTo, ← step.atEnd_eq]
      split
      · exact .ok drafts
      · generalize (option grammar enabled progress.keywords progress.draft).run
          progress.feed = outcome at agree ⊢
        generalize (option grammar enabled progress'.keywords progress'.draft).run
          progress'.feed = outcome' at agree ⊢
        cases agree with
        | error ordinary close => exact .error ordinary close
        | ok read step =>
            refine ih ?_ read.2 step
            exact List.rel_append keywords (.cons read.1 .nil)

/-! ## Declarations -/

/-- The grammar of string types is steady. -/
theorem steady_ofStrings (enabled : Capabilities) :
    alignment.SteadyGrammar (fun span => Sanitizer.Alike (alignment.Bodies span))
      (fun span => StringValidator.Alike (alignment.Bodies span)) (.ofStrings enabled) :=
  ⟨Steady.stringSanitizer, Steady.stringValidator enabled, Steady.stringDefault⟩

/-- The grammar of a number type is steady. -/
theorem steady_ofNumbers {α : Type} (type : LiteralType α) (known : List NumericValidatorKind) :
    alignment.SteadyGrammar (fun span => Sanitizer.Alike (alignment.Bodies span))
      (fun span => NumericValidator.Alike (alignment.Bodies span)) (.ofNumbers type known) :=
  ⟨Steady.numericSanitizer _, Steady.numericValidator type known, Steady.number type⟩

/-- To read a declaration by a steady grammar is steady. -/
theorem readOptions_alike {feed other : Feed} {grammar : Grammar S V D}
    (steady : alignment.SteadyGrammar sanitizer validator grammar) (enabled : Capabilities)
    (guard : RawItems S V → RawGuard) (literal : D → Literal)
    (guards : ∀ items others, items.Alike alignment.near sanitizer validator others →
      (guard items).Alike alignment.near alignment.Bodies (guard others))
    (step : alignment.InStep feed other) :
    Outcome.Alike alignment.near (RawDeclaration.Alike alignment.near alignment.Bodies)
      (Family.readOptions grammar enabled feed guard literal).2
      (Family.readOptions grammar enabled other guard literal).2 := by
  have drafts := @optionsUpTo_alike _ _ _ _ _ _ _ steady enabled feed.ahead.length { feed }
    { feed := other } .nil ⟨⟨.nil, .nil⟩, rfl, .none⟩ step
  rw [Family.readOptions_snd, Family.readOptions_snd, Grammar.options, Grammar.options,
    ← step.length_eq]
  refine drafts.map ?_
  intro draft draft' same
  refine ⟨guards _ _ same.items, same.newUnchecked_eq, ?_⟩
  have defaults := same.defaultValue
  generalize draft.defaultValue = value at defaults ⊢
  generalize draft'.defaultValue = value' at defaults ⊢
  cases defaults with
  | none => exact .none
  | some values => exact .some ⟨congrArg literal values.item, values.span⟩

/-- Feeds in step are read alike for every family. -/
theorem readRaw_alike {feed other : Feed} (family : Family) (enabled : Capabilities)
    (step : alignment.InStep feed other) :
    Outcome.Alike alignment.near (RawDeclaration.Alike alignment.near alignment.Bodies)
      (family.readRaw enabled feed).2 (family.readRaw enabled other).2 := by
  cases family with
  | string =>
      exact readOptions_alike (steady_ofStrings enabled) enabled .string .text
        (fun _ _ items => .string items) step
  | integer type =>
      exact readOptions_alike (steady_ofNumbers _ _) enabled (.integer type) _
        (fun _ _ items => .integer items) step
  | float type =>
      exact readOptions_alike (steady_ofNumbers _ _) enabled (.float type) _
        (fun _ _ items => .float items) step

/-- Feeds in step are read and checked alike for every family. -/
theorem readChecked_alike {feed other : Feed} (family : Family) (enabled : Capabilities)
    (step : alignment.InStep feed other) :
    Outcome.Alike alignment.near (Declaration.Alike alignment.near (Somewhere alignment.Bodies))
      ((family.readRaw enabled feed).2 >>= fun raw => raw.check.2)
      ((family.readRaw enabled other).2 >>= fun raw => raw.check.2) :=
  (readRaw_alike family enabled step).bind fun _ _ same => same.check

end Alignment

end GuardLang

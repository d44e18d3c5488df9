import GuardLang.Proofs.Declaration.Derivation
import GuardLang.Proofs.Declaration.InStep
import GuardLang.Proofs.Scanner.Slice

/-!
# Reading a slice again

What a parser reads can be read again from the text of its span alone.  The tokens
of the slice are those of the run it was read from, so the two are aligned; a run of
tokens covers the same text on both sides, so that even the bodies of closures are
equal.

Main statement: `Parser.Repeats.of_steady`, for every parser that reads a rule and
does the same on aligned tokens.
-/

namespace GuardLang

/-! ## Aligning a slice -/

namespace Alignment

/-- The tokens of a run, in the source and in the text that a span covers. -/
def slice (source : Text) (span : Span) (pairs : List (Token × Token))
    (alike : ∀ pair ∈ pairs,
      pair.1.Alike (Nearness.slice span.start span.stop).near pair.2) : Alignment where
  toNearness := .slice span.start span.stop
  left := source
  right := span.text source
  pairs := pairs
  alike := alike
  text_eq pair member := Span.text_slice (alike pair member).span source

/-- Bodies are the same in a slice. -/
theorem eq_of_slice_bodies {source : Text} {span place : Span} {pairs : List (Token × Token)}
    {alike : ∀ pair ∈ pairs, pair.1.Alike (Nearness.slice span.start span.stop).near pair.2}
    {body other : Text} (bodies : (slice source span pairs alike).Bodies place body other) :
    body = other := by
  rcases bodies with ⟨among, _, _, _, left, right, _⟩
  have spans := spanOf?_rel fun pair member =>
    among.subset (List.mem_cons_of_mem _ (List.mem_append_right _ (List.mem_cons_of_mem _ member)))
  rw [left, right] at spans
  cases spans with
  | some close => exact Span.text_slice close source

/-- A run of tokens, with nothing behind it, is in step with the tokens of the text
that it covers. -/
theorem exists_inStep_slice {source : Text} {tokens run : List Token} {span : Span}
    (lexed : Lexed .start source tokens) (among : run <:+: tokens) (nested : Nested run)
    (covered : cover? run = some span) :
    ∃ (alignment : Alignment) (feed : Feed) (stream : List Token), feed.Tidy source ∧
      feed.ahead = run ∧ tokenize (span.text source) = .ok stream ∧
      alignment.InStep feed (.ofTokens stream (span.text source)) ∧
      ∀ place body other, alignment.Bodies place body other → body = other := by
  rcases lexed.exists_slice among covered with ⟨start_le, stop_le, moved, relexed, alike⟩
  rcases List.forall₂_iff_zip.1 alike with ⟨length_eq, zipped⟩
  have kinds : run.map Token.kind = moved.map Token.kind := by
    rw [← List.forall₂_eq_eq_eq, List.forall₂_map_left_iff, List.forall₂_map_right_iff]
    exact alike.imp fun _ _ same => same.kind_eq
  have nested' : Nested moved := nested.of_map_kind_eq kinds.symm
  have pairs_alike : ∀ pair ∈ run.zip moved,
      pair.1.Alike (Nearness.slice span.start span.stop).near pair.2 :=
    fun pair member => zipped member
  -- The end mark of the slice stands where the run ends.
  have mark_near : (Nearness.slice span.start span.stop).near ⟨span.stop, span.stop, 1, 1⟩
      (Scanner.endMark (Position.start.walk (span.text source))).span := by
    have length_eq := Span.length_text stop_le
    change span.stop = span.start + (Position.start.walk (span.text source)).offset ∧
      span.stop = span.start + (Position.start.walk (span.text source)).offset ∧
      span.stop ≤ span.stop ∧ span.stop ≤ span.stop
    rw [Position.walk_offset, Position.start_offset, length_eq]
    omega
  refine ⟨slice source span (run.zip moved) pairs_alike,
    { ahead := run, last := .endAt ⟨span.stop, span.stop, 1, 1⟩, source }, _,
    ⟨rfl, rfl, nested, lexed.ordered.sublist among.sublist,
      fun token member => lexed.stands token (among.subset member)⟩, rfl,
    tokenize_eq_ok_iff.2 ⟨moved, relexed, nested', rfl⟩, ?_, fun _ _ _ => eq_of_slice_bodies⟩
  refine ⟨rfl, rfl, rfl, ?_, ⟨_, List.infix_refl _, ?_, ?_⟩, nested⟩
  · rw [Feed.ofTokens_last]
    exact ⟨rfl, rfl, mark_near⟩
  · exact (List.map_fst_zip (Nat.le_of_eq length_eq)).symm
  · rw [Feed.ofTokens_ahead]
    exact (List.map_snd_zip (Nat.le_of_eq length_eq.symm)).symm

end Alignment

/-! ## Parsers -/

namespace Parser

variable {α : Type} {source : Text} {rule : List Token → Spanned α → Prop}
  {parser : Parser (Spanned α)}

/-- Scanned and parsed alone, the text of its span gives the item again, and no token
is left over. -/
def Rereads (source : Text) (value : Spanned α) (parser : Parser (Spanned α)) : Prop :=
  ∃ tokens span rest, tokenize (value.span.text source) = .ok tokens ∧
    parser.run (.ofTokens tokens (value.span.text source)) = (.ok ⟨value.item, span⟩, rest) ∧
    rest.ahead = []

/-- What a rule derives from a run of the source, the parser reads again from the text
that the run covers. -/
def Repeats (source : Text) (rule : List Token → Spanned α → Prop)
    (parser : Parser (Spanned α)) : Prop :=
  ∀ ⦃tokens run : List Token⦄ ⦃value : Spanned α⦄, Lexed .start source tokens →
    run <:+: tokens → rule run value → cover? run = some value.span → parser.Rereads source value

/-- A parser that reads a rule repeats it if it does the same on aligned tokens, bodies
of closures apart. -/
theorem Repeats.of_steady {related : (Text → Text → Prop) → α → α → Prop}
    (reads : parser.Reads source rule ItemEnd)
    (steady : ∀ alignment : Alignment,
      alignment.Steady (Spanned.AlikeAt alignment.near fun span => related (alignment.Bodies span))
        parser)
    (eq_of_related : ∀ {bodies : Text → Text → Prop} {item other : α},
      (∀ body body', bodies body body' → body = body') → related bodies item other →
      item = other) : parser.Repeats source rule := by
  intro tokens run value lexed among derived covered
  rcases Alignment.exists_inStep_slice lexed among (reads.nested derived) covered with
    ⟨alignment, feed, stream, tidy, rfl, tokenized, step, equal⟩
  have read := reads.complete tidy (List.append_nil _).symm derived itemEnd_nil
  have agree := steady alignment _ _ step
  rw [read] at agree
  generalize outcome : parser.run (.ofTokens stream (value.span.text source)) = other at agree
  cases agree with
  | @ok _ reread _ rest alike step =>
      rcases reread with ⟨item, span⟩
      cases eq_of_related (equal _) alike.item
      refine ⟨stream, span, rest, tokenized, outcome, ?_⟩
      have length_eq := step.length_eq
      rw [Feed.skip_ahead, List.drop_length, List.length_nil] at length_eq
      exact List.length_eq_zero_iff.1 length_eq.symm

end Parser

/-! ## Functions and default values -/

namespace Grammar

theorem typedFunction_repeats (source expected : Text) :
    (typedFunction expected).Repeats source (Rule.Custom source expected) :=
  .of_steady (typedFunction_reads expected) (fun _ => Alignment.Steady.typedFunction expected)
    fun equal alike => BoundFunction.Alike.eq equal alike

/-- No body is part of a default value. -/
theorem Reads.repeats_default {S V D : Type} {source : Text} {rules : Rules S V D}
    {grammar : Grammar S V D} (reads : grammar.Reads source rules)
    (steady : ∀ alignment : Alignment,
      alignment.Steady (Spanned.Alike alignment.near Eq) grammar.defaultValue) :
    grammar.defaultValue.Repeats source rules.defaultValue :=
  @Parser.Repeats.of_steady _ _ _ _ (fun _ => Eq) (reads.defaultValue.weaken fun _ => trivial)
    steady fun _ same => same

end Grammar

end GuardLang

import GuardLang.Proofs.Declaration.Derivation
import GuardLang.Proofs.Grammar.Segments
import Mathlib.Data.List.Nodup
import Mathlib.Data.List.Perm.Basic

/-!
# The order of options

An annotation may give its options in any order, with or without commas between
them.  Options with different keywords write to different parts of a draft, so what
they say together does not depend on their order; and each says the same wherever
it stands.

Main statement: `readRaw_commutes`, for all token lists with one end mark.
-/

namespace GuardLang

/-! ## Drafts -/

namespace Setting

variable {S V D : Type}

/-- Options with different keywords do not get in each other's way. -/
theorem addTo_comm {first second : Setting S V D} (different : first.kind ≠ second.kind)
    (draft : Draft S V D) :
    second.addTo (first.addTo draft) = first.addTo (second.addTo draft) := by
  cases first <;> cases second <;> first | rfl | exact absurd rfl different

/-- What options with different keywords say together does not depend on their
order. -/
theorem draft_perm {settings others : List (Setting S V D)} (perm : others.Perm settings)
    (distinct : (settings.map kind).Nodup) : draft others = draft settings := by
  apply (perm.symm.foldl_eq' _ _).symm
  intro first member second member' draft
  by_cases same : first.kind = second.kind
  · rw [List.inj_on_of_nodup_map distinct member member' same]
  · exact addTo_comm same draft

end Setting

/-! ## Rows -/

/-- A row holds the tokens of its runs and commas. -/
theorem Row.forall_mem_iff {runs : List (List Token)} {tokens : List Token} {p : Token → Prop}
    (row : Row runs tokens) (commas : ∀ token, token.kind = .comma → p token) :
    (∀ token ∈ tokens, p token) ↔ ∀ run ∈ runs, ∀ token ∈ run, p token := by
  induction row with
  | nil => simp
  | @cons run gap rest runs comma _ ih =>
      have between : ∀ token ∈ gap, p token := by
        cases comma with
        | none => simp
        | comma isComma => simpa using commas _ isComma
      rw [List.forall_mem_append, List.forall_mem_append, ih, List.forall_mem_cons]
      constructor
      · rintro ⟨⟨first, _⟩, others⟩
        exact ⟨first, others⟩
      · rintro ⟨first, others⟩
        exact ⟨⟨first, between⟩, others⟩

/-! ## Annotations -/

namespace Family

variable {S V D : Type} {grammar : Grammar S V D} {source : Text}

/-- The options that a grammar accepts can be cut into pieces, which are accepted in
any order with the same outcome. -/
theorem readOptions_commutes (value : grammar.defaultValue.Local source Valued)
    (enabled : Capabilities) (guard : RawItems S V → RawGuard) (literal : D → Literal)
    {tokens : List Token} {mark : Token} {raw : RawDeclaration}
    (marks : ∀ token ∈ tokens, token.kind ≠ .eof) (last : mark.kind = .eof)
    (accepted : (readOptions grammar enabled (.ofTokens (tokens ++ [mark]) source) guard
      literal).2 = .ok raw) :
    ∃ segments, Cut segments tokens ∧ ∀ {others arranged}, others.Perm segments →
      Row others arranged →
      (readOptions grammar enabled (.ofTokens (arranged ++ [mark]) source) guard literal).2 =
        .ok raw := by
  have sealed : ∀ {tokens : List Token}, (∀ token ∈ tokens, token.kind ≠ .eof) →
      (Feed.ofTokens (tokens ++ [mark]) source).Sealed source := by
    intro tokens marks
    exact ⟨rfl, by rw [Feed.ofTokens_last]; exact last, by rwa [Feed.ofTokens_ahead]⟩
  have steps := Grammar.steps value enabled
  rw [readOptions_snd_eq_ok_iff] at accepted
  rcases accepted with ⟨draft, read, rfl⟩
  rcases (steps.options_iff (sealed marks)).1 read with ⟨segments, settings, row, each, distinct, rfl⟩
  rw [Feed.ofTokens_ahead] at row
  refine ⟨segments, ⟨row, ?_⟩, ?_⟩
  · have both := each.imp fun _ _ tells => And.intro tells.segment tells
    exact ((List.forall₂_and_left _ _).1 both).1
  · intro others arranged perm row'
    rcases List.perm_comp_forall₂ perm each with ⟨settings', each', perm'⟩
    have commas : ∀ token : Token, token.kind = .comma → token.kind ≠ .eof := by
      intro token comma
      simp [comma]
    have marks' : ∀ token ∈ arranged, token.kind ≠ .eof := by
      rw [row'.forall_mem_iff commas]
      exact fun run member => (row.forall_mem_iff commas).1 marks run (perm.mem_iff.1 member)
    rw [readOptions_snd_eq_ok_iff]
    refine ⟨Setting.draft settings, (steps.options_iff (sealed marks')).2 ?_, rfl⟩
    rw [Feed.ofTokens_ahead]
    exact ⟨others, settings', row', each', (perm'.map _).nodup_iff.2 distinct,
      (Setting.draft_perm perm' distinct).symm⟩

end Family

/-- Options commute.  Let a family accept a token list that ends in its only end mark.
The list can be cut into options, in one way.  Whatever order these are put in, with or
without a comma behind each, they are accepted and declare the same; so their guard is
accepted or refused in the same way, too. -/
theorem readRaw_commutes (family : Family) (enabled : Capabilities) (source : Text)
    {tokens : List Token} {mark : Token} {raw : RawDeclaration}
    (marks : ∀ token ∈ tokens, token.kind ≠ .eof) (last : mark.kind = .eof)
    (accepted : (family.readRaw enabled (.ofTokens (tokens ++ [mark]) source)).2 = .ok raw) :
    (∃! segments, Cut segments tokens) ∧
      ∀ segments, Cut segments tokens → ∀ others arranged, others.Perm segments →
        Row others arranged →
        (family.readRaw enabled (.ofTokens (arranged ++ [mark]) source)).2 = .ok raw ∧
          ((family.readRaw enabled (.ofTokens (arranged ++ [mark]) source)).2 >>=
            fun raw => raw.check.2) =
          ((family.readRaw enabled (.ofTokens (tokens ++ [mark]) source)).2 >>=
            fun raw => raw.check.2) := by
  have pieces : ∃ segments, Cut segments tokens ∧ ∀ {others arranged}, others.Perm segments →
      Row others arranged →
      (family.readRaw enabled (.ofTokens (arranged ++ [mark]) source)).2 = .ok raw := by
    cases family with
    | string =>
        exact Family.readOptions_commutes Grammar.stringDefault_local enabled _ _ marks last accepted
    | integer type =>
        exact Family.readOptions_commutes (Grammar.number_local _) enabled _ _ marks last accepted
    | float type =>
        exact Family.readOptions_commutes (Grammar.number_local _) enabled _ _ marks last accepted
  rcases pieces with ⟨segments, cut, commutes⟩
  refine ⟨⟨segments, cut, fun other cut' => cut.unique marks cut'⟩, ?_⟩
  intro others cut' arranged tokens' perm row
  cases cut.unique marks cut'
  have same := commutes perm row
  rw [same, accepted]
  exact ⟨rfl, rfl⟩

/-- A group that a square bracket closes, and a value behind it, change places. -/
theorem readRaw_commutes_square :
    ∃ raw,
      (Family.string.readRaw {} (.ofTokens
        [⟨.identifier, "sanitize".toList, ⟨0, 8, 1, 1⟩⟩, ⟨.opening .round, ['('], ⟨8, 9, 1, 9⟩⟩,
          ⟨.identifier, "trim".toList, ⟨9, 13, 1, 10⟩⟩,
          ⟨.closing .square, [']'], ⟨13, 14, 1, 14⟩⟩, ⟨.comma, [','], ⟨14, 15, 1, 15⟩⟩,
          ⟨.identifier, "default".toList, ⟨15, 22, 1, 16⟩⟩, ⟨.equals, ['='], ⟨22, 23, 1, 23⟩⟩,
          ⟨.string, ['a'], ⟨23, 26, 1, 24⟩⟩, ⟨.eof, [], ⟨26, 26, 1, 27⟩⟩]
        "sanitize(trim],default=\"a\"".toList)).2 = .ok raw ∧
      (Family.string.readRaw {} (.ofTokens
        [⟨.identifier, "default".toList, ⟨15, 22, 1, 16⟩⟩, ⟨.equals, ['='], ⟨22, 23, 1, 23⟩⟩,
          ⟨.string, ['a'], ⟨23, 26, 1, 24⟩⟩, ⟨.identifier, "sanitize".toList, ⟨0, 8, 1, 1⟩⟩,
          ⟨.opening .round, ['('], ⟨8, 9, 1, 9⟩⟩, ⟨.identifier, "trim".toList, ⟨9, 13, 1, 10⟩⟩,
          ⟨.closing .square, [']'], ⟨13, 14, 1, 14⟩⟩, ⟨.comma, [','], ⟨14, 15, 1, 15⟩⟩,
          ⟨.eof, [], ⟨26, 26, 1, 27⟩⟩]
        "sanitize(trim],default=\"a\"".toList)).2 = .ok raw := by
  refine ⟨{ guard := .string { sanitizers := [⟨{ kind := .trim }, ⟨9, 13, 1, 10⟩⟩] }
            newUnchecked := false
            defaultValue := some ⟨.text ['a'], ⟨23, 26, 1, 24⟩⟩ }, ?accepted, ?_⟩
  case accepted => decide +kernel
  have group : Segment [⟨.identifier, "sanitize".toList, ⟨0, 8, 1, 1⟩⟩,
      ⟨.opening .round, ['('], ⟨8, 9, 1, 9⟩⟩, ⟨.identifier, "trim".toList, ⟨9, 13, 1, 10⟩⟩,
      ⟨.closing .square, [']'], ⟨13, 14, 1, 14⟩⟩] :=
    ⟨.sanitize, _, _, rfl, ⟨rfl, rfl⟩, _, [_], _, rfl, rfl,
      settles_cons_iff.2 ⟨by decide, settles_nil_iff.2 rfl⟩, rfl⟩
  have value : Segment [⟨.identifier, "default".toList, ⟨15, 22, 1, 16⟩⟩,
      ⟨.equals, ['='], ⟨22, 23, 1, 23⟩⟩, ⟨.string, ['a'], ⟨23, 26, 1, 24⟩⟩] :=
    ⟨.default, _, _, rfl, ⟨rfl, rfl⟩, _, _, rfl, rfl, .inl ⟨_, rfl, .inl rfl⟩⟩
  have comma : Rule.OptionalComma [⟨.comma, [','], ⟨14, 15, 1, 15⟩⟩] := .comma rfl
  have cut : Cut _ _ := ⟨.cons comma (.cons .none .nil),
    List.forall_mem_cons.2 ⟨group, List.forall_mem_cons.2 ⟨value, by simp⟩⟩⟩
  refine ((readRaw_commutes .string {} _ ?_ rfl ?_).2 _ cut _ _ (.swap _ _ _)
    (.cons .none (.cons comma .nil))).1
  · decide
  · decide +kernel

end GuardLang

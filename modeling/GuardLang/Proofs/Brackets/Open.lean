import GuardLang.Proofs.Brackets
import Mathlib.Data.List.Induction

/-!
# Open brackets

The first part of a run may leave brackets open.  `Leaves passed opened` says which
ones: between each two of them, and around them, the tokens are nested.  Whether a run
is nested then depends on its second part alone, which has to close what the first
part leaves open (`Leaves.nested_append_iff`).

A part that leaves brackets open, and only such a part, can be extended to a nested run
(`extensible_iff`).
-/

namespace GuardLang

/-! ## Closing one token after the other -/

section

variable {opened tokens : List Token} {token : Token} {bracket : Bracket}

theorem closes_cons_plain_iff (plain : token.kind.isPlain = true) :
    Closes opened (token :: tokens) ↔ Closes opened tokens := by
  constructor
  · intro closes
    cases closes with
    | plain _ rest => exact rest
    | opening opening _ =>
        rw [opening] at plain
        cases plain
    | closing _ closing _ =>
        rw [closing] at plain
        cases plain
  · exact .plain plain

theorem closes_cons_opening_iff (opening : token.kind = .opening bracket) :
    Closes opened (token :: tokens) ↔ Closes (token :: opened) tokens := by
  constructor
  · intro closes
    cases closes with
    | plain plain _ =>
        rw [opening] at plain
        cases plain
    | opening _ rest => exact rest
    | closing _ closing _ =>
        rw [opening] at closing
        cases closing
  · exact .opening opening

/-- A closing token has to match the innermost open one. -/
theorem closes_cons_closing_iff (closing : token.kind = .closing bracket) :
    Closes opened (token :: tokens) ↔
      ∃ opener outer, opened = opener :: outer ∧ opener.kind = .opening bracket ∧
        Closes outer tokens := by
  constructor
  · intro closes
    cases closes with
    | plain plain _ =>
        rw [closing] at plain
        cases plain
    | opening opening _ =>
        rw [closing] at opening
        cases opening
    | closing opening same rest =>
        cases closing.symm.trans same
        exact ⟨_, _, rfl, opening, rest⟩
  · rintro ⟨opener, outer, rfl, opening, rest⟩
    exact .closing opening closing rest

/-- A nested run changes nothing about what has to be closed. -/
theorem closes_append_iff {inner : List Token} (nested : Nested inner) :
    Closes opened (inner ++ tokens) ↔ Closes opened tokens := by
  constructor
  · intro closes
    induction nested generalizing opened tokens with
    | nil => exact closes
    | plain plain _ ih => exact ih ((closes_cons_plain_iff plain).1 closes)
    | group opening closing _ _ innerIH restIH =>
        rw [List.cons_append, List.append_assoc, List.cons_append,
          closes_cons_opening_iff opening] at closes
        rcases (closes_cons_closing_iff closing).1 (innerIH closes) with
          ⟨_, _, same, _, rest⟩
        cases same
        exact restIH rest
  · exact Closes.append nested

end

/-! ## What a run leaves open -/

/-- The run leaves these opening tokens open, innermost first: it consists of nested
runs with one of them between each two. -/
inductive Leaves : List Token → List Token → Prop
  | nested {passed : List Token} : Nested passed → Leaves passed []
  | opening {passed inside opened : List Token} {opener : Token} {bracket : Bracket} :
      Leaves passed opened → opener.kind = .opening bracket → Nested inside →
      Leaves (passed ++ opener :: inside) (opener :: opened)

namespace Leaves

variable {passed opened tokens : List Token} {token : Token} {bracket : Bracket}

theorem nil : Leaves [] [] :=
  .nested .nil

/-- A nested run leaves nothing more open. -/
theorem append (leaves : Leaves passed opened) (nested : Nested tokens) :
    Leaves (passed ++ tokens) opened := by
  cases leaves with
  | nested first => exact .nested (first.append nested)
  | opening outer opening inside =>
      rw [List.append_assoc, List.cons_append]
      exact .opening outer opening (inside.append nested)

theorem plain (leaves : Leaves passed opened) (plain : token.kind.isPlain = true) :
    Leaves (passed ++ [token]) opened :=
  leaves.append (.plain plain .nil)

theorem push (leaves : Leaves passed opened) (opening : token.kind = .opening bracket) :
    Leaves (passed ++ [token]) (token :: opened) :=
  .opening leaves opening .nil

theorem pop {opener : Token} (leaves : Leaves passed (opener :: opened))
    (opening : opener.kind = .opening bracket) (closing : token.kind = .closing bracket) :
    Leaves (passed ++ [token]) opened := by
  cases leaves with
  | opening outer _ inside =>
      rw [List.append_assoc, List.cons_append]
      exact outer.append (.group opening closing inside .nil)

/-- Behind a run, exactly what closes the tokens it leaves open makes it nested. -/
theorem nested_append_iff (leaves : Leaves passed opened) :
    Nested (passed ++ tokens) ↔ Closes opened tokens := by
  induction leaves generalizing tokens with
  | nested nested => rw [← closes_nil_iff, closes_append_iff nested]
  | opening _ opening inside ih =>
      rw [List.append_assoc, List.cons_append, ih, closes_cons_opening_iff opening,
        closes_append_iff inside]

/-- What is open can be closed. -/
theorem exists_closes (leaves : Leaves passed opened) : ∃ tokens, Closes opened tokens := by
  induction leaves with
  | nested => exact ⟨[], .nil⟩
  | @opening _ _ _ _ bracket _ opening _ ih =>
      rcases ih with ⟨tokens, closes⟩
      exact ⟨⟨.closing bracket, [], ⟨0, 0, 0, 0⟩⟩ :: tokens, .closing opening rfl closes⟩

end Leaves

/-! ## Runs that can be extended -/

/-- Some tokens behind the run make it nested. -/
def Extensible (tokens : List Token) : Prop := ∃ more, Nested (tokens ++ more)

theorem Extensible.of_append {front back : List Token} (whole : Extensible (front ++ back)) :
    Extensible front := by
  rcases whole with ⟨more, nested⟩
  rw [List.append_assoc] at nested
  exact ⟨back ++ more, nested⟩

/-- A run can be extended exactly if it leaves some tokens open. -/
theorem extensible_iff {tokens : List Token} :
    Extensible tokens ↔ ∃ opened, Leaves tokens opened := by
  constructor
  · induction tokens using List.reverseRecOn with
    | nil => exact fun _ => ⟨[], .nil⟩
    | append_singleton front token ih =>
        intro whole
        rcases ih whole.of_append with ⟨opened, leaves⟩
        rcases whole with ⟨more, nested⟩
        rw [List.append_assoc, List.singleton_append, leaves.nested_append_iff] at nested
        cases nested with
        | plain plain _ => exact ⟨opened, leaves.plain plain⟩
        | opening opening _ => exact ⟨_, leaves.push opening⟩
        | closing opening closing _ => exact ⟨_, leaves.pop opening closing⟩
  · rintro ⟨opened, leaves⟩
    rcases leaves.exists_closes with ⟨more, closes⟩
    exact ⟨more, leaves.nested_append_iff.2 closes⟩

/-! ## The innermost open bracket -/

theorem TokenKind.exists_of_isOpening {kind : TokenKind} (opening : kind.isOpening = true) :
    ∃ bracket, kind = .opening bracket := by
  cases kind with
  | opening bracket => exact ⟨bracket, rfl⟩
  | _ => cases opening

/-- The opening token is the innermost one that the run leaves open. -/
def InnermostOpen (tokens : List Token) (opener : Token) : Prop :=
  ∃ before inside, tokens = before ++ opener :: inside ∧ opener.kind.isOpening = true ∧
    Nested inside

theorem Leaves.innermostOpen {passed outer : List Token} {opener : Token}
    (leaves : Leaves passed (opener :: outer)) : InnermostOpen passed opener := by
  cases leaves with
  | opening _ opening inside => exact ⟨_, _, rfl, by rw [opening]; rfl, inside⟩

/-- A run that leaves a token open is not nested. -/
theorem not_nested_of_opening {before inside : List Token} {opener : Token}
    (opening : opener.kind.isOpening = true) (nested : Nested inside) :
    ¬ Nested (before ++ opener :: inside) := by
  intro whole
  rcases TokenKind.exists_of_isOpening opening with ⟨bracket, kind⟩
  rcases extensible_iff.1 ⟨_, whole⟩ with ⟨opened, leaves⟩
  rw [← List.append_nil (before ++ _), (leaves.opening kind nested).nested_append_iff] at whole
  cases whole

theorem InnermostOpen.not_nested {tokens : List Token} {opener : Token}
    (innermost : InnermostOpen tokens opener) : ¬ Nested tokens := by
  rcases innermost with ⟨before, inside, rfl, opening, nested⟩
  exact not_nested_of_opening opening nested

/-- Two tokens of a run stand in one place, or one of them stands before the other. -/
theorem split_cases {front back front' back' : List Token} {token token' : Token}
    (same : front ++ token :: back = front' ++ token' :: back') :
    (front = front' ∧ token = token') ∨
      (∃ between, front' = front ++ token :: between ∧ back = between ++ token' :: back') ∨
      ∃ between, front = front' ++ token' :: between ∧ back' = between ++ token :: back := by
  rcases List.append_eq_append_iff.1 same with ⟨rest, rfl, tails⟩ | ⟨rest, rfl, tails⟩
  · rcases List.cons_eq_append_iff.1 tails with ⟨rfl, heads⟩ | ⟨between, rfl, rfl⟩
    · exact .inl ⟨by simp, (List.cons.inj heads).1.symm⟩
    · exact .inr (.inl ⟨between, rfl, rfl⟩)
  · rcases List.cons_eq_append_iff.1 tails with ⟨rfl, heads⟩ | ⟨between, rfl, rfl⟩
    · exact .inl ⟨by simp, (List.cons.inj heads).1⟩
    · exact .inr (.inr ⟨between, rfl, rfl⟩)

/-- Only one token is the innermost open one. -/
theorem InnermostOpen.unique {tokens : List Token} {opener other : Token}
    (innermost : InnermostOpen tokens opener) (another : InnermostOpen tokens other) :
    opener = other := by
  rcases innermost with ⟨before, inside, rfl, opening, nested⟩
  rcases another with ⟨before', inside', same, opening', nested'⟩
  -- If the two stood apart, the later one would be open inside a nested run.
  rcases split_cases same with ⟨_, same⟩ | ⟨between, _, rfl⟩ | ⟨between, _, rfl⟩
  · exact same
  · exact absurd nested (not_nested_of_opening opening' nested')
  · exact absurd nested' (not_nested_of_opening opening nested)

/-! ## Brackets alone -/

/-- The brackets among some tokens. -/
def delimiters (tokens : List Token) : List Token :=
  tokens.filter fun token => token.kind.isOpening || token.kind.isClosing

theorem closes_delimiters_iff {opened tokens : List Token}
    (marks : ∀ token ∈ tokens, token.kind ≠ .eof) :
    Closes opened (delimiters tokens) ↔ Closes opened tokens := by
  induction tokens generalizing opened with
  | nil => exact .rfl
  | cons token tokens ih =>
      have behind : ∀ {opened}, Closes opened (delimiters tokens) ↔ Closes opened tokens :=
        ih fun other member => marks other (List.mem_cons_of_mem _ member)
      cases kind : token.kind with
      | opening bracket =>
          have kept : delimiters (token :: tokens) = token :: delimiters tokens := by
            simp [delimiters, kind, TokenKind.isOpening]
          rw [kept, closes_cons_opening_iff kind, closes_cons_opening_iff kind, behind]
      | closing bracket =>
          have kept : delimiters (token :: tokens) = token :: delimiters tokens := by
            simp [delimiters, kind, TokenKind.isClosing]
          simp only [kept, closes_cons_closing_iff kind, behind]
      | eof => exact absurd kind (marks token List.mem_cons_self)
      | _ =>
          have dropped : delimiters (token :: tokens) = delimiters tokens := by
            simp [delimiters, kind, TokenKind.isOpening, TokenKind.isClosing]
          rw [dropped, behind, closes_cons_plain_iff (by rw [kind]; rfl)]

/-- Whether tokens are nested is a matter of the brackets among them. -/
theorem nested_delimiters_iff {tokens : List Token} (marks : ∀ token ∈ tokens, token.kind ≠ .eof) :
    Nested (delimiters tokens) ↔ Nested tokens := by
  rw [← closes_nil_iff, closes_delimiters_iff marks, closes_nil_iff]

end GuardLang

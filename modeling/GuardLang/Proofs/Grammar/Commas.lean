import GuardLang.Proofs.Grammar.Segments

/-!
# Cutting at commas

Tokens can be cut at the commas that lie outside all brackets, without a parser
(`itemRuns`).  In a nested run this gives unbroken runs with commas between them
(`Nested.itemRuns`).  A list whose items are unbroken is therefore one item for each of
these runs, in order (`Rule.listed_iff_forall₂`).
-/

namespace GuardLang

/-! ## The cut -/

/-- Cut tokens at the commas outside all brackets, when so many are open in front of
them. -/
def cutAtCommas (depth : Nat) : List Token → List (List Token)
  | [] => [[]]
  | token :: rest =>
    if token.kind = .comma ∧ depth = 0 then [] :: cutAtCommas depth rest
    else (cutAtCommas (depthBehind depth token.kind) rest).modifyHead (token :: ·)

/-- The runs between the commas outside all brackets.  If nothing stands behind the last
comma, no run does. -/
def itemRuns (tokens : List Token) : List (List Token) :=
  if (cutAtCommas 0 tokens).getLast? = some [] then (cutAtCommas 0 tokens).dropLast
  else cutAtCommas 0 tokens

theorem cutAtCommas_ne_nil (depth : Nat) (tokens : List Token) : cutAtCommas depth tokens ≠ [] := by
  induction tokens generalizing depth with
  | nil => simp [cutAtCommas]
  | cons token rest ih =>
      rw [cutAtCommas]
      split
      · simp
      · simpa [List.modifyHead_eq_nil_iff] using ih _

theorem cutAtCommas_comma {comma : Token} (isComma : comma.kind = .comma) (rest : List Token) :
    cutAtCommas 0 (comma :: rest) = [] :: cutAtCommas 0 rest := by
  rw [cutAtCommas, if_pos ⟨isComma, rfl⟩]

theorem cutAtCommas_plain {depth : Nat} {token : Token} (plain : token.kind.isPlain = true)
    (goes : depth = 0 → token.kind ≠ .comma) (rest : List Token) :
    cutAtCommas depth (token :: rest) = (cutAtCommas depth rest).modifyHead (token :: ·) := by
  rcases TokenKind.isPlain_iff.1 plain with ⟨opening, closing, _⟩
  have same : depthBehind depth token.kind = depth := by simp [depthBehind, opening, closing]
  rw [cutAtCommas, if_neg fun separates => goes separates.2 separates.1, same]

/-- A group stays whole if what is inside it does. -/
theorem cutAtCommas_group {depth : Nat} {opener closer : Token} {inner : List Token}
    {bracket : Bracket} (opening : opener.kind = .opening bracket)
    (closing : closer.kind = .closing bracket)
    (inside : ∀ tokens, cutAtCommas (depth + 1) (inner ++ tokens) =
      (cutAtCommas (depth + 1) tokens).modifyHead (inner ++ ·)) (rest : List Token) :
    cutAtCommas depth (opener :: (inner ++ closer :: rest)) =
      (cutAtCommas depth rest).modifyHead (opener :: (inner ++ [closer]) ++ ·) := by
  have up : depthBehind depth opener.kind = depth + 1 := by rw [opening]; rfl
  have down : depthBehind (depth + 1) closer.kind = depth := by rw [closing]; rfl
  rw [cutAtCommas, if_neg (by simp [opening]), up, inside, cutAtCommas, if_neg (by simp [closing]),
    down]
  simp [List.modifyHead_modifyHead, Function.comp_def]

/-- Inside brackets a nested run stays whole. -/
theorem cutAtCommas_append_of_nested {inner : List Token} (nested : Nested inner) (depth : Nat)
    (tokens : List Token) :
    cutAtCommas (depth + 1) (inner ++ tokens) =
      (cutAtCommas (depth + 1) tokens).modifyHead (inner ++ ·) := by
  induction nested generalizing depth tokens with
  | nil => exact (congrFun List.modifyHead_id _).symm
  | plain plain _ ih =>
      rw [List.cons_append, cutAtCommas_plain plain (by simp), ih]
      simp [List.modifyHead_modifyHead, Function.comp_def]
  | group opening closing _ _ innerIH restIH =>
      rw [List.cons_append, List.append_assoc, List.cons_append,
        cutAtCommas_group opening closing (innerIH _), restIH]
      simp [List.modifyHead_modifyHead, Function.comp_def]

/-- An unbroken run stays whole everywhere. -/
theorem cutAtCommas_append {run : List Token} (unbroken : Unbroken run) (tokens : List Token) :
    cutAtCommas 0 (run ++ tokens) = (cutAtCommas 0 tokens).modifyHead (run ++ ·) := by
  induction unbroken with
  | nil => exact (congrFun List.modifyHead_id _).symm
  | plain plain comma _ ih =>
      rw [List.cons_append, cutAtCommas_plain plain fun _ => comma, ih]
      simp [List.modifyHead_modifyHead, Function.comp_def]
  | group opening closing nested _ ih =>
      rw [List.cons_append, List.append_assoc, List.cons_append,
        cutAtCommas_group opening closing (cutAtCommas_append_of_nested nested _), ih]
      simp [List.modifyHead_modifyHead, Function.comp_def]

/-! ## Runs between commas -/

/-- Unbroken runs with commas between them, and perhaps one behind the last.  Where no
comma stands behind it, a run has some token. -/
inductive ItemRuns : List Token → List (List Token) → Prop
  | nil : ItemRuns [] []
  | last {run : List Token} : Unbroken run → run ≠ [] → ItemRuns run [run]
  | more {run rest : List Token} {comma : Token} {runs : List (List Token)} : Unbroken run →
      comma.kind = .comma → ItemRuns rest runs → ItemRuns (run ++ comma :: rest) (run :: runs)

namespace ItemRuns

variable {tokens : List Token} {runs : List (List Token)}

/-- Such runs are found by cutting. -/
theorem itemRuns_eq (separated : ItemRuns tokens runs) : itemRuns tokens = runs := by
  induction separated with
  | nil => rfl
  | @last run unbroken some =>
      have whole : cutAtCommas 0 run = [run] := by
        simpa [cutAtCommas] using cutAtCommas_append unbroken []
      simp [itemRuns, whole, some]
  | @more run rest comma runs unbroken isComma _ ih =>
      have first : cutAtCommas 0 (run ++ comma :: rest) = run :: cutAtCommas 0 rest := by
        rw [cutAtCommas_append unbroken, cutAtCommas_comma isComma]
        simp
      rcases List.exists_cons_of_ne_nil (cutAtCommas_ne_nil 0 rest) with ⟨second, others, cut⟩
      rw [← ih, itemRuns, itemRuns, first, cut, List.getLast?_cons_cons, List.dropLast_cons_cons]
      split <;> rfl

/-- Each run is unbroken and a part of the whole. -/
theorem of_mem (separated : ItemRuns tokens runs) :
    ∀ run ∈ runs, Unbroken run ∧ run <:+: tokens := by
  induction separated with
  | nil => simp
  | last unbroken _ =>
      intro run member
      rw [List.mem_singleton.1 member]
      exact ⟨unbroken, List.infix_rfl⟩
  | @more first rest comma runs unbroken _ _ ih =>
      intro run member
      rcases List.mem_cons.1 member with rfl | member
      · exact ⟨unbroken, List.prefix_append _ _ |>.isInfix⟩
      · rcases ih run member with ⟨unbroken, part⟩
        refine ⟨unbroken, part.trans ?_⟩
        rw [List.append_cons]
        exact (List.suffix_append _ _).isInfix

/-- Where a rule derives an item from each of the runs, they make a list. -/
theorem listed {α : Type} {item : List Token → α → Prop} {values : List α}
    (separated : ItemRuns tokens runs) (each : List.Forall₂ item runs values) :
    Rule.Listed item tokens values := by
  induction separated generalizing values with
  | nil =>
      cases each
      exact .nil
  | last _ _ =>
      cases each with
      | cons derived none =>
          cases none
          exact .last derived
  | more _ isComma _ ih =>
      cases each with
      | cons derived each => exact .more derived isComma (ih each)

end ItemRuns

/-- Cutting a nested run gives unbroken runs with commas between them. -/
theorem Nested.itemRuns {tokens : List Token} (nested : Nested tokens) :
    ItemRuns tokens (itemRuns tokens) := by
  induction length : tokens.length using Nat.strongRecOn generalizing tokens with
  | _ n ih =>
      rcases nested.exists_unbroken with ⟨run, rest, rfl, unbroken, ending⟩
      cases rest with
      | nil =>
          rw [List.append_nil]
          cases run with
          | nil => exact .nil
          | cons token run =>
              have last : ItemRuns (token :: run) [token :: run] := .last unbroken (by simp)
              rwa [last.itemRuns_eq]
      | cons comma rest =>
          have isComma := itemEnd_cons_iff.1 ending
          have behind : Nested rest :=
            (nested.of_append unbroken.nested).tail_of_isPlain (by rw [isComma]; rfl)
          have shorter : rest.length < n := by
            rw [← length, List.length_append, List.length_cons]
            omega
          have separated := ItemRuns.more unbroken isComma (ih _ shorter behind rfl)
          rwa [separated.itemRuns_eq]

/-! ## Lists -/

namespace Rule

variable {α : Type} {item : List Token → α → Prop} {tokens : List Token} {values : List α}

/-- The items of a list are what the rule derives from the runs between commas. -/
theorem Listed.exists_itemRuns (unbroken : ∀ {run value}, item run value → Unbroken run ∧ run ≠ [])
    (listed : Listed item tokens values) :
    ∃ runs, ItemRuns tokens runs ∧ List.Forall₂ item runs values := by
  induction listed with
  | nil => exact ⟨[], .nil, .nil⟩
  | last derived =>
      exact ⟨_, .last (unbroken derived).1 (unbroken derived).2, .cons derived .nil⟩
  | more derived isComma _ ih =>
      rcases ih with ⟨runs, separated, each⟩
      exact ⟨_, .more (unbroken derived).1 isComma separated, .cons derived each⟩

/-- A nested run is a list exactly if the rule derives an item from each of the runs
between its commas. -/
theorem listed_iff_forall₂ (unbroken : ∀ {run value}, item run value → Unbroken run ∧ run ≠ [])
    (nested : Nested tokens) :
    Listed item tokens values ↔ List.Forall₂ item (itemRuns tokens) values := by
  constructor
  · intro listed
    rcases listed.exists_itemRuns unbroken with ⟨runs, separated, each⟩
    rwa [separated.itemRuns_eq]
  · exact ItemRuns.listed nested.itemRuns

end Rule

end GuardLang

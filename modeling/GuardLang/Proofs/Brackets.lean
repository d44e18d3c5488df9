import GuardLang.Grammar.Function
import GuardLang.Parser

/-!
# Nested brackets

A run of tokens is nested if its brackets match in kind and order.  The library
decides nesting in three ways: a scanner keeps a stack of opening tokens, a
parser counts the brackets of a group without regard to their kinds, and the
body of a closure is found by a second count.

The three agree.  A stack that ends up empty has seen a nested run
(`closes_nil_iff`), a group is cut at the bracket that matches its first one
(`splitGroup_of_nested`), and the body of a closure in a nested run is nested
and ends in front of the first comma outside all brackets
(`Nested.exists_unbroken`).
-/

namespace GuardLang

namespace TokenKind

/-- Whether a token of this kind is neither a bracket nor an end mark. -/
def isPlain (kind : TokenKind) : Bool :=
  !kind.isOpening && !kind.isClosing && kind != .eof

/-- A plain token neither opens nor closes a group and marks no end. -/
theorem isPlain_iff {kind : TokenKind} :
    kind.isPlain = true ↔ kind.isOpening = false ∧ kind.isClosing = false ∧ kind ≠ .eof := by
  simp [isPlain, and_assoc]

theorem isPlain_of_ne {kind : TokenKind} (opening : ∀ bracket, kind ≠ .opening bracket)
    (closing : ∀ bracket, kind ≠ .closing bracket) (eof : kind ≠ .eof) : kind.isPlain = true := by
  cases kind with
  | opening bracket => exact absurd rfl (opening bracket)
  | closing bracket => exact absurd rfl (closing bracket)
  | eof => exact absurd rfl eof
  | _ => rfl

end TokenKind

/-! ## Nested runs -/

/-- A run of tokens whose brackets match in kind and order, without end marks. -/
inductive Nested : List Token → Prop
  | nil : Nested []
  | plain {token : Token} {rest : List Token} : token.kind.isPlain = true → Nested rest →
      Nested (token :: rest)
  | group {opener closer : Token} {inner rest : List Token} {bracket : Bracket} :
      opener.kind = .opening bracket → closer.kind = .closing bracket → Nested inner →
      Nested rest → Nested (opener :: (inner ++ closer :: rest))

namespace Nested

/-- Nested runs in a row are nested. -/
theorem append {first second : List Token} (left : Nested first) (right : Nested second) :
    Nested (first ++ second) := by
  induction left with
  | nil => exact right
  | plain plain _ ih => exact .plain plain ih
  | group opening closing inner _ _ ih =>
      rw [List.cons_append, List.append_assoc, List.cons_append]
      exact .group opening closing inner ih

/-- No token of a nested run marks the end. -/
theorem kind_ne_eof {tokens : List Token} (nested : Nested tokens) :
    ∀ token ∈ tokens, token.kind ≠ .eof := by
  induction nested with
  | nil => simp
  | plain plain _ ih =>
      intro token member
      rcases List.mem_cons.1 member with rfl | member
      · exact (TokenKind.isPlain_iff.1 plain).2.2
      · exact ih token member
  | group opening closing _ _ innerIH restIH =>
      intro token member
      rcases List.mem_cons.1 member with rfl | member
      · simp [opening]
      rcases List.mem_append.1 member with member | member
      · exact innerIH token member
      rcases List.mem_cons.1 member with rfl | member
      · simp [closing]
      · exact restIH token member

/-- Nesting is a matter of kinds. -/
theorem of_map_kind_eq {tokens others : List Token} (nested : Nested tokens)
    (same : others.map Token.kind = tokens.map Token.kind) : Nested others := by
  induction nested generalizing others with
  | nil =>
      rw [List.map_eq_nil_iff.1 same]
      exact .nil
  | plain plain _ ih =>
      rw [List.map_cons] at same
      rcases List.map_eq_cons_iff.1 same with ⟨other, rest, rfl, kind, behind⟩
      exact .plain (kind ▸ plain) (ih behind)
  | group opening closing _ _ innerIH restIH =>
      rw [List.map_cons, List.map_append, List.map_cons] at same
      rcases List.map_eq_cons_iff.1 same with ⟨opener, others, rfl, openerKind, behind⟩
      rcases List.map_eq_append_iff.1 behind with ⟨inner, others, rfl, inside, behind⟩
      rcases List.map_eq_cons_iff.1 behind with ⟨closer, rest, rfl, closerKind, behind⟩
      exact .group (openerKind ▸ opening) (closerKind ▸ closing) (innerIH inside) (restIH behind)

end Nested

/-! ## The stack of a scanner -/

/-- The tokens close all that is open, innermost first, and otherwise match
among themselves. -/
inductive Closes : List Token → List Token → Prop
  | nil : Closes [] []
  | plain {opened rest : List Token} {token : Token} : token.kind.isPlain = true →
      Closes opened rest → Closes opened (token :: rest)
  | opening {opened rest : List Token} {token : Token} {bracket : Bracket} :
      token.kind = .opening bracket → Closes (token :: opened) rest →
      Closes opened (token :: rest)
  | closing {opened rest : List Token} {opener token : Token} {bracket : Bracket} :
      opener.kind = .opening bracket → token.kind = .closing bracket → Closes opened rest →
      Closes (opener :: opened) (token :: rest)

/-- The tokens are nested runs, with a closing token between each two for every
token that is open. -/
def Unwinds : List Token → List Token → Prop
  | [], tokens => Nested tokens
  | opener :: opened, tokens =>
      ∃ bracket inner closer rest, tokens = inner ++ closer :: rest ∧
        opener.kind = .opening bracket ∧ closer.kind = .closing bracket ∧
        Nested inner ∧ Unwinds opened rest

/-- A nested run may stand in front. -/
theorem Unwinds.append {opened inner tokens : List Token} (nested : Nested inner)
    (unwinds : Unwinds opened tokens) : Unwinds opened (inner ++ tokens) := by
  cases opened with
  | nil => exact nested.append unwinds
  | cons opener opened =>
      rcases unwinds with ⟨bracket, first, closer, rest, rfl, opening, closing, inside, behind⟩
      refine ⟨bracket, inner ++ first, closer, rest, ?_, opening, closing, ?_, behind⟩
      · rw [List.append_assoc]
      · exact nested.append inside

/-- What closes a stack unwinds it. -/
theorem Closes.unwinds {opened tokens : List Token} (closes : Closes opened tokens) :
    Unwinds opened tokens := by
  induction closes with
  | nil => exact .nil
  | @plain opened rest token plain _ ih =>
      have single : Nested [token] := .plain plain .nil
      exact ih.append single
  | @opening opened rest token bracket opening _ ih =>
      rcases ih with ⟨_, inner, closer, behind, rfl, same, closing, inside, unwinds⟩
      cases opening.symm.trans same
      have group : Nested (token :: (inner ++ closer :: [])) := .group opening closing inside .nil
      simpa using unwinds.append group
  | closing opening closing _ ih =>
      exact ⟨_, [], _, _, rfl, opening, closing, .nil, ih⟩

/-- A nested run leaves a stack as it was. -/
theorem Closes.append {opened inner tokens : List Token} (nested : Nested inner)
    (closes : Closes opened tokens) : Closes opened (inner ++ tokens) := by
  induction nested generalizing opened tokens with
  | nil => exact closes
  | plain plain _ ih => exact .plain plain (ih closes)
  | group opening closing _ _ innerIH restIH =>
      rw [List.cons_append, List.append_assoc, List.cons_append]
      exact .opening opening (innerIH (.closing opening closing (restIH closes)))

/-- Tokens close an empty stack exactly if they are nested. -/
theorem closes_nil_iff {tokens : List Token} : Closes [] tokens ↔ Nested tokens := by
  constructor
  · intro closes
    exact closes.unwinds
  · intro nested
    simpa using Closes.append nested .nil

/-! ## Counting the brackets of a group -/

namespace Parser

/-- A nested run is passed over at any depth. -/
theorem splitGroup_append {inner : List Token} (nested : Nested inner) (depth : Nat)
    (tokens : List Token) :
    splitGroup depth (inner ++ tokens) =
      (splitGroup depth tokens).map fun split => (inner ++ split.1, split.2) := by
  induction nested generalizing depth tokens with
  | nil => simp
  | plain plain _ ih =>
      rcases TokenKind.isPlain_iff.1 plain with ⟨opening, closing, eof⟩
      simp [splitGroup, opening, closing, eof, ih, Function.comp_def]
  | group opening closing _ _ innerIH restIH =>
      simp [splitGroup, opening, closing, TokenKind.isOpening, TokenKind.isClosing, innerIH, restIH,
        Function.comp_def]

/-- A group is cut at the closing bracket behind a nested run. -/
theorem splitGroup_of_nested {inner rest : List Token} {closer : Token} (nested : Nested inner)
    (closing : closer.kind.isClosing = true) :
    splitGroup 0 (inner ++ closer :: rest) = some (inner, closer, rest) := by
  have eof : closer.kind ≠ .eof := by
    intro eof
    rw [eof] at closing
    cases closing
  rw [splitGroup_append nested]
  simp [splitGroup, closing, eof]

end Parser

namespace Nested

/-- A nested run that begins with an opening bracket begins with a group. -/
theorem exists_group {opener : Token} {tokens : List Token} {bracket : Bracket}
    (nested : Nested (opener :: tokens)) (opening : opener.kind = .opening bracket) :
    ∃ inner closer rest, tokens = inner ++ closer :: rest ∧ closer.kind = .closing bracket ∧
      Nested inner ∧ Nested rest := by
  cases nested with
  | plain plain _ =>
      rw [opening] at plain
      cases plain
  | group same closing inside behind =>
      cases opening.symm.trans same
      exact ⟨_, _, _, rfl, closing, inside, behind⟩

theorem tail_of_isPlain {token : Token} {tokens : List Token} (nested : Nested (token :: tokens))
    (plain : token.kind.isPlain = true) : Nested tokens := by
  cases nested with
  | plain _ rest => exact rest
  | group opening _ _ _ =>
      rw [opening] at plain
      cases plain

/-- What follows a nested run inside a nested run is nested: the closing bracket
of a group is where counting finds it. -/
theorem of_append {inner tokens : List Token} (whole : Nested (inner ++ tokens))
    (nested : Nested inner) : Nested tokens := by
  induction nested generalizing tokens with
  | nil => exact whole
  | plain plain _ ih => exact ih (whole.tail_of_isPlain plain)
  | @group opener closer inside rest bracket opening closing inner _ _ ih =>
      rw [List.cons_append, List.append_assoc, List.cons_append] at whole
      rcases whole.exists_group opening with ⟨other, last, behind, same, ending, nested, remaining⟩
      have found : Parser.splitGroup 0 (other ++ last :: behind) = some (other, last, behind) :=
        Parser.splitGroup_of_nested nested (by rw [ending]; rfl)
      rw [← same, Parser.splitGroup_of_nested inner (by rw [closing]; rfl)] at found
      cases found
      exact ih remaining

end Nested

/-! ## Bodies of closures -/

/-- A nested run without a comma outside its brackets. -/
inductive Unbroken : List Token → Prop
  | nil : Unbroken []
  | plain {token : Token} {rest : List Token} : token.kind.isPlain = true →
      token.kind ≠ .comma → Unbroken rest → Unbroken (token :: rest)
  | group {opener closer : Token} {inner rest : List Token} {bracket : Bracket} :
      opener.kind = .opening bracket → closer.kind = .closing bracket → Nested inner →
      Unbroken rest → Unbroken (opener :: (inner ++ closer :: rest))

/-- A place where an item of a list ends: no token is left, or the next one is a
comma. -/
def ItemEnd (tokens : List Token) : Prop := ∀ token ∈ tokens.head?, token.kind = .comma

theorem itemEnd_nil : ItemEnd [] := by
  simp [ItemEnd]

theorem itemEnd_cons_iff {token : Token} {tokens : List Token} :
    ItemEnd (token :: tokens) ↔ token.kind = .comma := by
  simp [ItemEnd]

theorem Unbroken.nested {tokens : List Token} (unbroken : Unbroken tokens) : Nested tokens := by
  induction unbroken with
  | nil => exact .nil
  | plain plain _ _ ih => exact .plain plain ih
  | group opening closing inner _ ih => exact .group opening closing inner ih

theorem Unbroken.append {first second : List Token} (left : Unbroken first)
    (right : Unbroken second) : Unbroken (first ++ second) := by
  induction left with
  | nil => exact right
  | plain plain comma _ ih => exact .plain plain comma ih
  | group opening closing nested _ ih =>
      rw [List.cons_append, List.append_assoc, List.cons_append]
      exact .group opening closing nested ih

/-- A token of a kind that is neither a bracket nor a comma breaks no run. -/
theorem Unbroken.of_kind {token : Token} {rest : List Token} {kind : TokenKind}
    (same : token.kind = kind) (plain : kind.isPlain = true) (comma : kind ≠ .comma)
    (unbroken : Unbroken rest) : Unbroken (token :: rest) :=
  .plain (same ▸ plain) (same ▸ comma) unbroken

/-- Like nesting, being unbroken is a matter of kinds. -/
theorem Unbroken.of_map_kind_eq {tokens others : List Token} (unbroken : Unbroken tokens)
    (same : others.map Token.kind = tokens.map Token.kind) : Unbroken others := by
  induction unbroken generalizing others with
  | nil =>
      rw [List.map_eq_nil_iff.1 same]
      exact .nil
  | plain plain comma _ ih =>
      rw [List.map_cons] at same
      rcases List.map_eq_cons_iff.1 same with ⟨other, rest, rfl, kind, behind⟩
      exact .plain (kind ▸ plain) (kind ▸ comma) (ih behind)
  | group opening closing nested _ ih =>
      rw [List.map_cons, List.map_append, List.map_cons] at same
      rcases List.map_eq_cons_iff.1 same with ⟨opener, others, rfl, openerKind, behind⟩
      rcases List.map_eq_append_iff.1 behind with ⟨inner, others, rfl, inside, behind⟩
      rcases List.map_eq_cons_iff.1 behind with ⟨closer, rest, rfl, closerKind, behind⟩
      exact .group (openerKind ▸ opening) (closerKind ▸ closing) (nested.of_map_kind_eq inside)
        (ih behind)

/-- Every nested run has an unbroken run in front of its first comma outside all
brackets. -/
theorem Nested.exists_unbroken {tokens : List Token} (nested : Nested tokens) :
    ∃ body rest, tokens = body ++ rest ∧ Unbroken body ∧ ItemEnd rest := by
  induction nested with
  | nil => exact ⟨[], [], rfl, .nil, itemEnd_nil⟩
  | @plain token rest plain _ ih =>
      by_cases comma : token.kind = .comma
      · exact ⟨[], token :: rest, rfl, .nil, itemEnd_cons_iff.2 comma⟩
      · rcases ih with ⟨body, behind, rfl, unbroken, ending⟩
        exact ⟨token :: body, behind, rfl, .plain plain comma unbroken, ending⟩
  | @group opener closer inner rest bracket opening closing nested _ _ ih =>
      rcases ih with ⟨body, behind, rfl, unbroken, ending⟩
      refine ⟨opener :: (inner ++ closer :: body), behind, ?_, ?_, ending⟩
      · simp
      · exact .group opening closing nested unbroken

namespace Grammar

/-- A token that does not end the body belongs to it. -/
theorem bodyLength_cons {depth : Int} {token : Token} (eof : token.kind ≠ .eof)
    (comma : depth = 0 → token.kind ≠ .comma) (tokens : List Token) :
    bodyLength depth (token :: tokens) =
      bodyLength (depth + depthChange token.kind) tokens + 1 := by
  have goes : ¬ (token.kind = .eof ∨ depth = 0 ∧ token.kind = .comma) := by
    rintro (mark | ⟨outside, separator⟩)
    · exact eof mark
    · exact comma outside separator
  rw [bodyLength, if_neg goes]

theorem depthChange_of_isPlain {kind : TokenKind} (plain : kind.isPlain = true) :
    depthChange kind = 0 := by
  rcases TokenKind.isPlain_iff.1 plain with ⟨opening, closing, _⟩
  simp [depthChange, opening, closing]

/-- A group belongs to the body if what is inside it is passed over. -/
theorem bodyLength_group {depth : Int} {opener closer : Token} {inner : List Token}
    {bracket : Bracket} (opening : opener.kind = .opening bracket)
    (closing : closer.kind = .closing bracket)
    (passed : ∀ tokens, bodyLength (depth + 1) (inner ++ tokens) =
      inner.length + bodyLength (depth + 1) tokens) (tokens : List Token) :
    bodyLength depth (opener :: (inner ++ closer :: tokens)) =
      inner.length + bodyLength depth tokens + 2 := by
  have up : depthChange opener.kind = 1 := by rw [opening]; rfl
  have down : depthChange closer.kind = -1 := by rw [closing]; rfl
  rw [bodyLength_cons (by simp [opening]) (by simp [opening]), up, passed,
    bodyLength_cons (by simp [closing]) (by simp [closing]), down, Int.add_neg_cancel_right]
  omega

/-- Inside brackets a nested run belongs to the body, commas included. -/
theorem bodyLength_append_of_pos {inner : List Token} (nested : Nested inner) {depth : Int}
    (inside : 0 < depth) (tokens : List Token) :
    bodyLength depth (inner ++ tokens) = inner.length + bodyLength depth tokens := by
  induction nested generalizing depth tokens with
  | nil => simp
  | plain plain _ ih =>
      rw [List.cons_append, bodyLength_cons (TokenKind.isPlain_iff.1 plain).2.2 (by omega),
        depthChange_of_isPlain plain, Int.add_zero, ih inside, List.length_cons]
      omega
  | group opening closing _ _ innerIH restIH =>
      rw [List.cons_append, List.append_assoc, List.cons_append,
        bodyLength_group opening closing (innerIH (by omega)), restIH inside]
      simp only [List.length_cons, List.length_append]
      omega

/-- Outside brackets an unbroken run belongs to the body. -/
theorem bodyLength_append {body : List Token} (unbroken : Unbroken body) (tokens : List Token) :
    bodyLength 0 (body ++ tokens) = body.length + bodyLength 0 tokens := by
  induction unbroken with
  | nil => simp
  | plain plain comma _ ih =>
      rw [List.cons_append, bodyLength_cons (TokenKind.isPlain_iff.1 plain).2.2 (fun _ => comma),
        depthChange_of_isPlain plain, Int.add_zero, ih, List.length_cons]
      omega
  | group opening closing nested _ ih =>
      rw [List.cons_append, List.append_assoc, List.cons_append,
        bodyLength_group opening closing (bodyLength_append_of_pos nested (by decide)), ih]
      simp only [List.length_cons, List.length_append]
      omega

/-- The body of a closure is the unbroken run in front of the place where the
item ends. -/
theorem bodyLength_of_unbroken {body rest : List Token} (unbroken : Unbroken body)
    (ending : ItemEnd rest) : bodyLength 0 (body ++ rest) = body.length := by
  rw [bodyLength_append unbroken]
  cases rest with
  | nil => simp [bodyLength]
  | cons token rest => simp [bodyLength, itemEnd_cons_iff.1 ending]

end Grammar

end GuardLang

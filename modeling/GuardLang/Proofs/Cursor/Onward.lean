import GuardLang.Cursor
import GuardLang.Proofs.Grammar.Onward

/-!
# Cursors move on

A cursor can be over any tokens, unbalanced ones and end marks among them, and stand anywhere,
also past the end.  As long as the last of its tokens marks the end, no parser runs for ever on
it, none goes back, and none gets past an end mark.

Main statement: `Cursor.parsers_end_and_move_on`.
-/

namespace GuardLang

/-! ## The parsers -/

/-- The grammars of the families. -/
inductive Grammar.OfFamily : {S V D : Type} → Grammar S V D → Prop
  | strings (enabled : Capabilities) : OfFamily (.ofStrings enabled)
  | integers (type : IntegerType) : OfFamily (.ofIntegers type)
  | floats (type : FloatType) : OfFamily (.ofFloats type)

/-- The parsers of a single thing: a group, a part of an item, an item or a default value. -/
inductive Parser.Single : {α : Type} → Parser α → Prop
  | group : Single Parser.group
  | path : Single Grammar.path
  | type : Single Grammar.type
  | function : Single Grammar.function
  | closure : Single Grammar.closure
  | signedLiteral : Single Grammar.signedLiteral
  | number {α : Type} (type : LiteralType α) : Single (Grammar.number type)
  | pattern : Single Grammar.pattern
  | sanitizer {S V D : Type} {grammar : Grammar S V D} : grammar.OfFamily → Single grammar.sanitizer
  | validator {S V D : Type} {grammar : Grammar S V D} : grammar.OfFamily → Single grammar.validator
  | defaultValue {S V D : Type} {grammar : Grammar S V D} :
      grammar.OfFamily → Single grammar.defaultValue

namespace Grammar.OfFamily

variable {S V D : Type} {grammar : Grammar S V D}

theorem sanitizer_progresses (ofFamily : grammar.OfFamily) : grammar.sanitizer.Progresses := by
  cases ofFamily with
  | strings _ => exact stringSanitizer_progresses
  | integers type => exact numericSanitizer_progresses type.literals.name.toList
  | floats type => exact numericSanitizer_progresses type.literals.name.toList

theorem validator_progresses (ofFamily : grammar.OfFamily) : grammar.validator.Progresses := by
  cases ofFamily with
  | strings enabled => exact stringValidator_progresses enabled
  | integers type => exact numericValidator_progresses type.literals NumericValidatorKind.ofIntegers
  | floats type => exact numericValidator_progresses type.literals Keyword.all

theorem defaultValue_progresses (ofFamily : grammar.OfFamily) :
    grammar.defaultValue.Progresses := by
  cases ofFamily with
  | strings _ => exact stringDefault_progresses
  | integers type => exact number_progresses type.literals
  | floats type => exact number_progresses type.literals

end Grammar.OfFamily

theorem Parser.Single.progresses {α : Type} {parser : Parser α} (single : parser.Single) :
    parser.Progresses := by
  cases single with
  | group => exact group_progresses
  | path => exact Grammar.path_progresses
  | type => exact Grammar.type_progresses
  | function => exact Grammar.function_progresses
  | closure => exact Grammar.closure_progresses
  | signedLiteral => exact Grammar.signedLiteral_progresses
  | number type => exact Grammar.number_progresses type
  | pattern => exact Grammar.pattern_progresses
  | sanitizer ofFamily => exact ofFamily.sanitizer_progresses
  | validator ofFamily => exact ofFamily.validator_progresses
  | defaultValue ofFamily => exact ofFamily.defaultValue_progresses

/-! ## Cursors -/

namespace Cursor

/-- What a parser leaves ahead is what the cursor has ahead after moving on over tokens none of
which marks the end. -/
structure MovesTo (cursor : Cursor) (rest : Feed) : Prop where
  index_le : cursor.index ≤ rest.index
  marks : ∀ i, cursor.index ≤ i → i < rest.index → (cursor.get i).kind ≠ .eof
  unchanged : rest = feed { cursor with index := rest.index }

/-- The tokens ahead of a place are found from that place on. -/
theorem get_of_drop {cursor : Cursor} {i k : Nat} {front back : List Token}
    (ahead : cursor.tokens.drop i = front ++ back) (bound : k < front.length) :
    cursor.get (i + k) = front[k] := by
  rw [get, List.getD_eq_getElem?_getD, ← List.getElem?_drop, ahead,
    List.getElem?_append_left bound, List.getElem?_eq_getElem bound]
  rfl

theorem movesTo_of_onward {cursor : Cursor} {rest : Feed} (onward : cursor.feed.Onward rest) :
    cursor.MovesTo rest := by
  rcases onward with ⟨taken, ahead, rfl, marks⟩
  refine ⟨Nat.le_add_right _ _, ?_, ?_⟩
  · intro i passed short
    rcases Nat.exists_eq_add_of_le passed with ⟨k, rfl⟩
    have bound : k < taken.length := Nat.lt_of_add_lt_add_left short
    rw [get_of_drop ahead bound]
    exact marks _ (List.getElem_mem bound)
  · simp [feed, Feed.skip]

/-- Every parser ends and moves on.  Take a cursor over any tokens, standing anywhere, whose last
token marks the end.  Whether or not they succeed, the parsers of single things, lists of them
and the options of a family leave of the cursor what it has ahead after moving on over tokens
that mark no end; where a single thing is read, it has moved.  The loops of lists and options,
of groups, paths and bodies of closures end, and with the result that is given, in at most one
round more than there are tokens in front of the last one. -/
theorem parsers_end_and_move_on (cursor : Cursor) (last : cursor.last.kind = .eof) :
    (∀ {α : Type} (parser : Parser α), parser.Single →
      cursor.MovesTo (parser.run cursor.feed).2 ∧
      (∀ value, (parser.run cursor.feed).1 = .ok value →
        cursor.index < (parser.run cursor.feed).2.index) ∧
      cursor.MovesTo ((Parser.punctuated parser).run cursor.feed).2 ∧
      LoopsWithin (Parser.itemRound parser) (cursor.feed.ahead.length + 1) ⟨[], cursor.feed⟩
        ((Parser.punctuated parser).run cursor.feed)) ∧
    (∀ {S V D : Type} (grammar : Grammar S V D), grammar.OfFamily → ∀ enabled : Capabilities,
      cursor.MovesTo (grammar.options enabled cursor.feed).2.feed ∧
      LoopsWithin (grammar.optionRound enabled) (cursor.feed.ahead.length + 1)
        { feed := cursor.feed } (grammar.options enabled cursor.feed)) ∧
    (∀ opener rest, (Parser.expect (.opening .round)).run cursor.feed = (.ok opener, rest) →
      LoopsWithin (Parser.groupRound opener) (rest.ahead.length + 1) ⟨0, [], rest⟩
        (Parser.group.run cursor.feed)) ∧
    (∀ group, (Parser.group.run cursor.feed).1 = .ok group → group.item.last.kind = .eof) ∧
    (∀ first rest, (Parser.expect .identifier).run cursor.feed = (.ok first, rest) →
      LoopsWithin Grammar.segmentRound (rest.ahead.length + 1) ⟨⟨first.value, first.span⟩, rest⟩
        (Grammar.path.run cursor.feed)) ∧
    LoopsWithin Grammar.bodyRound (cursor.feed.ahead.length + 1) ⟨0, none, cursor.feed⟩
      (Grammar.closureBody.run cursor.feed) := by
  have ended : cursor.feed.last.kind = .eof := last
  refine ⟨?_, ?_, ?_, ?_, ?_, Grammar.closureBody_loopsWithin ended⟩
  · intro α parser single
    have progresses := single.progresses
    refine ⟨movesTo_of_onward (progresses.forward ended), ?_,
      movesTo_of_onward (Parser.punctuated_forward progresses ended),
      Parser.punctuated_loopsWithin progresses ended⟩
    intro value read
    exact progresses.index_lt ended (Prod.ext read rfl)
  · intro S V D grammar ofFamily enabled
    have default := ofFamily.defaultValue_progresses.forward
    have loops := Grammar.options_loopsWithin default enabled ended
    exact ⟨movesTo_of_onward ((Grammar.optionRound_forward default enabled).onward ended loops),
      loops⟩
  · intro opener rest expected
    exact Parser.group_loopsWithin ended expected
  · intro group read
    exact Parser.last_kind_of_run_group (Prod.ext read rfl)
  · intro first rest expected
    exact Grammar.path_loopsWithin ended expected

/-- A group that is not closed before an end mark: the cursor stops at the mark, with tokens
behind it. -/
theorem movesTo_end_mark_in_group :
    let cursor : Cursor :=
      { tokens :=
          [⟨.opening .round, ['('], ⟨0, 1, 1, 1⟩⟩, ⟨.identifier, ['a'], ⟨1, 2, 1, 2⟩⟩,
            .endAt ⟨2, 2, 1, 3⟩, ⟨.closing .round, [')'], ⟨2, 3, 1, 3⟩⟩]
        last := .endAt ⟨3, 3, 1, 4⟩
        source := "(a)".toList }
    cursor.MovesTo (Parser.group.run cursor.feed).2 ∧
      (Parser.group.run cursor.feed).2.index = 2 := by
  intro cursor
  exact ⟨((parsers_end_and_move_on cursor rfl).1 _ .group).1, rfl⟩

end Cursor

end GuardLang

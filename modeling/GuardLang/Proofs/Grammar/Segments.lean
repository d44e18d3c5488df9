import GuardLang.Proofs.Grammar.Options
import GuardLang.Proofs.Parser.Local

/-!
# Options on their own

A token list made by hand need not be nested or in order.  Still every option
decides by its own tokens how far it goes: a group ends where counting brackets
comes to zero, a value is one literal with or without a sign.  What stands in front
of an option or behind it has no part in what it says.

So the tokens that a family accepts can be cut into options in one way only
(`Cut.unique`), and every step over the options takes one of these pieces
(`Grammar.steps`).
-/

namespace GuardLang

/-! ## Groups by count -/

/-- The number of opening brackets of a run. -/
def openings (tokens : List Token) : Nat := tokens.countP fun token => token.kind.isOpening

/-- The number of closing brackets of a run. -/
def closings (tokens : List Token) : Nat := tokens.countP fun token => token.kind.isClosing

/-- With so many brackets open in front of it, a run closes them all and never one
more than are open. -/
structure Settles (depth : Nat) (tokens : List Token) : Prop where
  closes : closings tokens = depth + openings tokens
  above : ∀ front, front <+: tokens → closings front ≤ depth + openings front

theorem settles_nil_iff {depth : Nat} : Settles depth [] ↔ depth = 0 := by
  constructor
  · intro settles
    have closes := settles.closes
    simp only [closings, openings, List.countP_nil] at closes
    omega
  · rintro rfl
    refine ⟨rfl, ?_⟩
    intro front shorter
    rw [List.prefix_nil.1 shorter]
    exact Nat.le_refl _

/-- The number of open brackets behind a token. -/
def depthBehind (depth : Nat) (kind : TokenKind) : Nat :=
  if kind.isOpening then depth + 1 else if kind.isClosing then depth - 1 else depth

/-- A token may be counted apart from the run behind it. -/
theorem settles_cons_iff {depth : Nat} {token : Token} {rest : List Token} :
    Settles depth (token :: rest) ↔
      ¬ (token.kind.isClosing = true ∧ depth = 0) ∧
        Settles (depthBehind depth token.kind) rest := by
  -- Whatever follows, the two counts go on from what the token makes of them.
  have moved : ¬ (token.kind.isClosing = true ∧ depth = 0) → ∀ front,
      closings (token :: front) + depthBehind depth token.kind + openings front =
        closings front + (depth + openings (token :: front)) := by
    intro allowed front
    simp only [closings, openings, List.countP_cons, depthBehind]
    cases kind : token.kind with
    | closing _ =>
        have some : depth ≠ 0 := fun none => allowed ⟨by rw [kind]; rfl, none⟩
        simp [TokenKind.isOpening, TokenKind.isClosing]
        omega
    | _ =>
        simp [TokenKind.isOpening, TokenKind.isClosing]
        omega
  constructor
  · intro settles
    have allowed : ¬ (token.kind.isClosing = true ∧ depth = 0) := by
      rintro ⟨closing, rfl⟩
      have above := settles.above [token] ⟨rest, rfl⟩
      have notOpening : token.kind.isOpening = false := by
        cases kind : token.kind <;> simp_all [TokenKind.isOpening, TokenKind.isClosing]
      simp [closings, openings, closing, notOpening] at above
    refine ⟨allowed, ?_, ?_⟩
    · have closes := settles.closes
      have counts := moved allowed rest
      omega
    · intro front shorter
      have above := settles.above (token :: front) (List.prefix_cons_inj token |>.2 shorter)
      have counts := moved allowed front
      omega
  · rintro ⟨allowed, settles⟩
    refine ⟨?_, ?_⟩
    · have closes := settles.closes
      have counts := moved allowed rest
      omega
    · intro front shorter
      rcases List.prefix_cons_iff.1 shorter with rfl | ⟨front, rfl, behind⟩
      · exact Nat.zero_le _
      · have above := settles.above front behind
        have counts := moved allowed front
        omega

namespace Parser

/-- A group is cut behind a run that settles all that is open. -/
theorem splitGroup_of_settles {depth : Nat} {inner rest : List Token} {closer : Token}
    (marks : ∀ token ∈ inner, token.kind ≠ .eof) (settles : Settles depth inner)
    (closing : closer.kind.isClosing = true) :
    splitGroup depth (inner ++ closer :: rest) = some (inner, closer, rest) := by
  induction inner generalizing depth with
  | nil =>
      have eof : closer.kind ≠ .eof := by
        intro eof
        rw [eof] at closing
        cases closing
      simp [splitGroup, closing, eof, settles_nil_iff.1 settles]
  | cons token inner ih =>
      rcases settles_cons_iff.1 settles with ⟨goes, settles⟩
      have split := ih (fun other member => marks other (List.mem_cons_of_mem _ member)) settles
      rw [List.cons_append, splitGroup, if_neg (marks token List.mem_cons_self), if_neg goes]
      change (splitGroup (depthBehind depth token.kind) _).map _ = _
      rw [split]
      rfl

/-- Where a group is cut, a closing bracket stands behind a run that settles all that
is open. -/
theorem settles_of_splitGroup {depth : Nat} {tokens inner rest : List Token} {closer : Token}
    (split : splitGroup depth tokens = some (inner, closer, rest)) :
    (∀ token ∈ inner, token.kind ≠ .eof) ∧ Settles depth inner ∧
      closer.kind.isClosing = true := by
  induction tokens generalizing depth inner with
  | nil => cases split
  | cons token tokens ih =>
      rw [splitGroup] at split
      split at split
      · cases split
      rename_i eof
      split at split
      · rename_i closes
        cases split
        exact ⟨by simp, settles_nil_iff.2 closes.2, closes.1⟩
      · rename_i goes
        rcases Option.map_eq_some_iff.1 split with ⟨⟨more, _, _⟩, split, same⟩
        cases same
        rcases ih split with ⟨marks, settles, closing⟩
        exact ⟨List.forall_mem_cons.2 ⟨eof, marks⟩, settles_cons_iff.2 ⟨goes, settles⟩, closing⟩

end Parser

/-! ## Pieces -/

/-- A group: parentheses around a run that leaves no bracket open.  As brackets are
counted without regard to their kinds, any of them may close it. -/
def Enclosed (tokens : List Token) : Prop :=
  ∃ opener inner closer, tokens = opener :: (inner ++ [closer]) ∧
    opener.kind = .opening .round ∧ Settles 0 inner ∧ closer.kind.isClosing = true

/-- A value: a literal, or a number with a sign. -/
def Valued (tokens : List Token) : Prop :=
  (∃ literal, tokens = [literal] ∧ (literal.kind = .string ∨ literal.kind = .number)) ∨
    ∃ sign literal, tokens = [sign, literal] ∧ sign.kind = .minus ∧ literal.kind = .number

/-- What stands behind the keyword of an option. -/
def OptionTail : OptionKind → List Token → Prop
  | .sanitize, tokens => Enclosed tokens
  | .validate, tokens => Enclosed tokens
  | .default, tokens => ∃ equals value, tokens = equals :: value ∧ equals.kind = .equals ∧ Valued value
  | .newUnchecked, tokens => tokens = []

/-- The tokens of one option: a keyword and what belongs to it. -/
def Segment (tokens : List Token) : Prop :=
  ∃ kind keyword behind, tokens = keyword :: behind ∧ Rule.Keyworded kind keyword ∧
    OptionTail kind behind

/-- Tokens are cut into options, with or without a comma behind each. -/
structure Cut (segments : List (List Token)) (tokens : List Token) : Prop where
  row : Row segments tokens
  each : ∀ segment ∈ segments, Segment segment

section

variable {first second more others : List Token}

/-- Counting ends a group at one place. -/
theorem Enclosed.append_inj (left : Enclosed first) (right : Enclosed second)
    (marks : ∀ token ∈ first ++ more, token.kind ≠ .eof)
    (same : first ++ more = second ++ others) : first = second ∧ more = others := by
  rcases left with ⟨opener, inner, closer, rfl, _, settles, closing⟩
  rcases right with ⟨opener', inner', closer', rfl, _, settles', closing'⟩
  have marks' : ∀ token ∈ opener' :: (inner' ++ [closer']) ++ others, token.kind ≠ .eof := by
    rwa [← same]
  simp only [List.cons_append, List.append_assoc, List.nil_append, List.cons.injEq] at same
  have split := @Parser.splitGroup_of_settles 0 inner more closer
    (fun token member => marks token (by simp [member])) settles closing
  have split' := @Parser.splitGroup_of_settles 0 inner' others closer'
    (fun token member => marks' token (by simp [member])) settles' closing'
  rw [same.2] at split
  cases split.symm.trans split'
  exact ⟨by rw [same.1], rfl⟩

/-- A sign tells how long a value is. -/
theorem Valued.append_inj (left : Valued first) (right : Valued second)
    (same : first ++ more = second ++ others) : first = second ∧ more = others := by
  rcases left with ⟨literal, rfl, kind⟩ | ⟨sign, literal, rfl, minus, _⟩
  · rcases right with ⟨literal', rfl, _⟩ | ⟨sign', literal', rfl, minus', _⟩
    · simpa using same
    · simp only [List.cons_append, List.nil_append, List.cons.injEq] at same
      rw [same.1, minus'] at kind
      simp at kind
  · rcases right with ⟨literal', rfl, kind'⟩ | ⟨sign', literal', rfl, _⟩
    · simp only [List.cons_append, List.nil_append, List.cons.injEq] at same
      rw [← same.1, minus] at kind'
      simp at kind'
    · simpa [and_assoc] using same

theorem OptionTail.append_inj {kind : OptionKind} (left : OptionTail kind first)
    (right : OptionTail kind second) (marks : ∀ token ∈ first ++ more, token.kind ≠ .eof)
    (same : first ++ more = second ++ others) : first = second ∧ more = others := by
  cases kind with
  | sanitize => exact Enclosed.append_inj left right marks same
  | validate => exact Enclosed.append_inj left right marks same
  | default =>
      rcases left with ⟨equals, value, rfl, _, valued⟩
      rcases right with ⟨equals', value', rfl, _, valued'⟩
      simp only [List.cons_append, List.cons.injEq] at same
      rcases valued.append_inj valued' same.2 with ⟨rfl, rfl⟩
      exact ⟨by rw [same.1], rfl⟩
  | newUnchecked =>
      cases left
      cases right
      exact ⟨rfl, same⟩

/-- No option goes on where another one ends. -/
theorem Segment.append_inj (left : Segment first) (right : Segment second)
    (marks : ∀ token ∈ first ++ more, token.kind ≠ .eof)
    (same : first ++ more = second ++ others) : first = second ∧ more = others := by
  rcases left with ⟨kind, keyword, behind, rfl, keyed, tail⟩
  rcases right with ⟨kind', keyword', behind', rfl, keyed', tail'⟩
  simp only [List.cons_append, List.cons.injEq] at same
  rcases same with ⟨rfl, same⟩
  cases OptionKind.name_injective (keyed.name_eq.symm.trans keyed'.name_eq)
  have marks' : ∀ token ∈ behind ++ more, token.kind ≠ .eof :=
    fun token member => marks token (List.mem_cons_of_mem _ member)
  rcases tail.append_inj tail' marks' same with ⟨rfl, rfl⟩
  exact ⟨rfl, rfl⟩

theorem Segment.starts (segment : Segment first) : firstKind? first = some .identifier := by
  rcases segment with ⟨kind, keyword, behind, rfl, keyed, _⟩
  rw [firstKind?_cons, keyed.1]

/-- A comma is left out or not. -/
theorem Rule.OptionalComma.append_inj {gap gap' : List Token} (comma : OptionalComma gap)
    (comma' : OptionalComma gap') (none : NoComma more) (none' : NoComma others)
    (same : gap ++ more = gap' ++ others) : gap = gap' ∧ more = others := by
  cases comma with
  | none =>
      cases comma' with
      | none => exact ⟨rfl, same⟩
      | comma isComma =>
          rw [List.nil_append] at same
          rw [NoComma, same] at none
          simp [isComma] at none
  | comma isComma =>
      cases comma' with
      | none =>
          rw [List.nil_append] at same
          rw [NoComma, ← same] at none'
          simp [isComma] at none'
      | comma _ => simpa using same

end

/-- Tokens can be cut into options in one way only. -/
theorem Cut.unique {segments segments' : List (List Token)} {tokens : List Token}
    (marks : ∀ token ∈ tokens, token.kind ≠ .eof) (cut : Cut segments tokens)
    (cut' : Cut segments' tokens) : segments' = segments := by
  have starts : ∀ {segments : List (List Token)}, (∀ segment ∈ segments, Segment segment) →
      ∀ segment ∈ segments, firstKind? segment = some .identifier :=
    fun each segment member => (each segment member).starts
  rcases cut with ⟨row, each⟩
  rcases cut' with ⟨row', each'⟩
  induction row generalizing segments' with
  | nil =>
      generalize same : ([] : List Token) = tokens at row'
      cases row' with
      | nil => rfl
      | cons _ _ =>
          rw [List.append_assoc, eq_comm, List.append_eq_nil_iff] at same
          cases same.1 ▸ starts each' _ List.mem_cons_self
  | @cons run gap rest runs comma row ih =>
      generalize same : run ++ gap ++ rest = tokens at row'
      cases row' with
      | nil =>
          rw [List.append_assoc, List.append_eq_nil_iff] at same
          cases same.1 ▸ starts each _ List.mem_cons_self
      | @cons run' gap' rest' runs' comma' row' =>
          rw [List.forall_mem_cons] at each each'
          rw [List.append_assoc, List.append_assoc] at same
          rw [List.append_assoc] at marks
          rcases each.1.append_inj each'.1 marks same with ⟨rfl, behind⟩
          rcases comma.append_inj comma' (row.noComma (starts each.2))
            (row'.noComma (starts each'.2)) behind with ⟨rfl, rfl⟩
          have marks' : ∀ token ∈ rest, token.kind ≠ .eof :=
            fun token member => marks token (by simp [member])
          rw [ih marks' each.2 row' each'.2]

/-! ## Reading a piece -/

namespace Parser

variable {source : Text}

/-- The closing bracket of a group is ahead, for an end mark stands behind. -/
theorem ahead_eq_of_splitGroup {feed : Feed} {inner after : List Token} {closer : Token} {n : Nat}
    (last : feed.last.kind = .eof)
    (split : splitGroup 0 (feed.window (n + 1)) = some (inner, closer, after)) :
    ∃ more, feed.ahead = inner ++ closer :: more := by
  rcases settles_of_splitGroup split with ⟨marks, _, closing⟩
  have taken : (feed.window (n + 1)).take (inner.length + 1) = inner ++ [closer] := by
    rw [eq_append_of_splitGroup split, ← List.singleton_append, ← List.append_assoc]
    exact List.take_left' (by simp)
  have fits : inner.length + 1 ≤ feed.ahead.length := by
    apply Feed.le_of_take_window last
    rw [taken]
    intro token member
    rcases List.mem_append.1 member with member | member
    · exact marks token member
    · intro eof
      rw [List.mem_singleton.1 member] at eof
      rw [eof] at closing
      cases closing
  rw [Feed.window, List.take_append_of_le_length fits] at taken
  refine ⟨feed.ahead.drop (inner.length + 1), ?_⟩
  conv_lhs => rw [← List.take_append_drop (inner.length + 1) feed.ahead, taken]
  simp

/-- A group is taken by its own tokens. -/
theorem Local.group : Parser.group.Local source Enclosed := by
  intro feed rest inside sealed ran
  have ran' := ran
  rw [Parser.group, run_bind_eq_ok_iff] at ran'
  rcases ran' with ⟨opener, middle, expected, cut⟩
  rcases cons_of_run_expect sealed.last_kind (by simp) expected with ⟨tokens, ahead, opening, rfl⟩
  rw [run_takeBy] at cut
  split at cut
  · rename_i inner closer after split
    rcases settles_of_splitGroup split with ⟨marks, settles, closing⟩
    rcases ahead_eq_of_splitGroup (sealed.skip 1).last_kind split with ⟨more, behind⟩
    rw [Feed.skip_ahead_of_cons ahead] at behind
    rw [behind] at ahead
    have splits : ∀ more, splitGroup 0 (inner ++ closer :: more) = some (inner, closer, more) :=
      fun more => splitGroup_of_settles marks settles closing
    rw [run_group_of_split ahead opening splits] at ran
    cases ran
    refine ⟨opener :: (inner ++ [closer]), more, by simp [ahead], by simp,
      ⟨opener, inner, closer, rfl, opening, settles, closing⟩, ?_⟩
    intro other others sealed' ahead'
    have shape : other.ahead = opener :: (inner ++ closer :: others) := by simp [ahead']
    rw [run_group_of_split shape opening splits, sealed.source_eq, sealed'.source_eq]
    simp
  · cases cut

end Parser

namespace Grammar

variable {source : Text}

theorem optionGroup_local (keyword : Token) : (optionGroup keyword).Local source Enclosed := by
  intro feed rest inner sealed ran
  have chosen : ∀ feed : Feed, (optionGroup keyword).run feed =
      if feed.current.kind = .opening .round then (Spanned.item <$> Parser.group).run feed
      else (.error (.located (.expectedGroup keyword.value) keyword.span), feed) := by
    intro feed
    by_cases opening : feed.current.kind = .opening .round <;> simp [optionGroup, opening]
  rw [chosen] at ran
  split at ran
  · rcases (Parser.Local.group.map Spanned.item) sealed ran with
      ⟨taken, more, ahead, rest_eq, ⟨opener, inner, closer, rfl, opening, further⟩, gives⟩
    refine ⟨_, more, ahead, rest_eq, ⟨opener, inner, closer, rfl, opening, further⟩, ?_⟩
    intro other others sealed' ahead'
    rw [chosen, Feed.current_of_cons ahead', if_pos opening]
    exact gives sealed' ahead'
  · cases ran

/-- A list in parentheses is read by its own tokens. -/
theorem listGroup_local {α : Type} (keyword : Token) (item : Parser α) :
    (listGroup keyword item).Local source Enclosed := by
  refine ((optionGroup_local keyword).bind fun inner => .ofExcept _).weaken ?_
  rintro _ ⟨group, _, rfl, enclosed, rfl⟩
  rwa [List.append_nil]

theorem stringDefault_local : stringDefault.Local source Valued := by
  refine (((Parser.Local.expect (by simp)).map _).of_sameValues stringDefault_sameValues).weaken ?_
  rintro _ ⟨literal, rfl, string⟩
  exact .inl ⟨literal, rfl, .inl string⟩

theorem number_local {α : Type} (type : LiteralType α) : (number type).Local source Valued := by
  intro feed rest value sealed ran
  cases ahead : feed.ahead with
  | nil =>
      rw [run_number_of_nil ahead sealed.last_kind] at ran
      cases ran
  | cons first behind =>
      by_cases minus : first.kind = .minus
      · cases behind with
        | nil =>
            rw [run_number_of_minus ahead minus sealed.last_kind] at ran
            cases ran
        | cons literal more =>
            have eof := sealed.marks literal (by simp [ahead])
            rw [run_number_of_minus_cons ahead minus eof] at ran
            rcases Prod.mk.inj ran with ⟨read, rfl⟩
            have number := readLiteral_eq_ok_iff.1 read
            refine ⟨[first, literal], more, rfl, rfl,
              .inr ⟨first, literal, rfl, minus, number.1⟩, ?_⟩
            intro other others _ ahead'
            rw [run_number_of_minus_cons ahead' minus eof, readLiteral_eq_ok_iff.2 number]
            rfl
      · have eof := sealed.marks first (by simp [ahead])
        rw [run_number_of_cons ahead eof minus] at ran
        rcases Prod.mk.inj ran with ⟨read, rfl⟩
        have number := readLiteral_eq_ok_iff.1 read
        refine ⟨[first], behind, rfl, rfl, .inl ⟨first, rfl, .inr number.1⟩, ?_⟩
        intro other others _ ahead'
        rw [run_number_of_cons ahead' eof minus, readLiteral_eq_ok_iff.2 number]
        rfl

/-! ## Options in a row -/

variable {S V D : Type} {grammar : Grammar S V D} {enabled : Capabilities}

/-- What the option with the given keyword says, whatever has been said before. -/
def setting (grammar : Grammar S V D) (enabled : Capabilities) (keyword : Token) :
    OptionKind → Parser (Setting S V D)
  | .sanitize => do return .sanitize (← listGroup keyword grammar.sanitizer)
  | .validate => do return .validate (← listGroup keyword grammar.validator)
  | .default => do return .default (← Parser.expect .equals >>= fun _ => grammar.defaultValue)
  | .newUnchecked => do
    return (fun _ => .newUnchecked) (← requireCapability enabled .newUnchecked keyword.span)

/-- An option is read first and added to the draft then. -/
theorem optionValue_eq {keyword : Token} {kind : OptionKind}
    (named : Keyword.ofName? (String.ofList keyword.value) = some kind) (draft : Draft S V D) :
    grammar.optionValue enabled keyword draft =
      grammar.setting enabled keyword kind >>= fun said => pure (said.addTo draft) := by
  rw [optionValue, named]
  cases kind <;> simp only [setting, listGroup, bind_assoc, pure_bind] <;> rfl

/-- What an option says is read off its own tokens. -/
theorem setting_local (value : grammar.defaultValue.Local source Valued) (keyword : Token)
    (kind : OptionKind) :
    (grammar.setting enabled keyword kind).Local source (OptionTail kind) := by
  cases kind with
  | sanitize => exact (listGroup_local keyword grammar.sanitizer).map _
  | validate => exact (listGroup_local keyword grammar.validator).map _
  | default =>
      refine (((Parser.Local.expect (by simp)).bind fun _ => value).map _).weaken ?_
      rintro _ ⟨_, tokens, rfl, ⟨equals, rfl, isEquals⟩, valued⟩
      exact ⟨equals, tokens, rfl, isEquals, valued⟩
  | newUnchecked => exact (Parser.Local.ofExcept _).map _

theorem kind_of_setting {keyword : Token} {kind : OptionKind} {feed rest : Feed}
    {said : Setting S V D}
    (ran : (grammar.setting enabled keyword kind).run feed = (.ok said, rest)) :
    said.kind = kind := by
  cases kind <;> rcases Parser.run_bind_eq_ok_iff.1 ran with ⟨_, _, _, same⟩ <;> cases same <;> rfl

/-- The tokens are one option, which says this wherever it stands. -/
def Tells (grammar : Grammar S V D) (enabled : Capabilities) (source : Text) (tokens : List Token)
    (said : Setting S V D) : Prop :=
  ∃ keyword behind, tokens = keyword :: behind ∧ Rule.Keyworded said.kind keyword ∧
    OptionTail said.kind behind ∧
    (grammar.setting enabled keyword said.kind).Gives source behind said

theorem Tells.segment {tokens : List Token} {said : Setting S V D}
    (tells : grammar.Tells enabled source tokens said) : Segment tokens := by
  rcases tells with ⟨keyword, behind, rfl, keyed, tail, _⟩
  exact ⟨said.kind, keyword, behind, rfl, keyed, tail⟩

/-- A comma is taken if there is one. -/
theorem run_skipComma {feed : Feed} {gap more : List Token} (sealed : feed.Sealed source)
    (ahead : feed.ahead = gap ++ more) (comma : Rule.OptionalComma gap)
    (free : gap = [] → NoComma more) : skipComma.run feed = (.ok (), feed.skip gap.length) := by
  cases comma with
  | none =>
      have other : feed.current.kind ≠ .comma := by
        intro comma
        cases more with
        | nil =>
            rw [Feed.current_of_nil ahead, sealed.last_kind] at comma
            cases comma
        | cons token more =>
            rw [Feed.current_of_cons ahead] at comma
            exact free rfl (by rw [firstKind?_cons, comma])
      simp [skipComma, other]
  | comma isComma =>
      simp [skipComma, Feed.current_of_cons ahead, isComma,
        Feed.advance_of_cons ahead (by simp [isComma]), -bind_pure_comp]

theorem exists_run_skipComma {feed : Feed} (sealed : feed.Sealed source) :
    ∃ gap more, feed.ahead = gap ++ more ∧ Rule.OptionalComma gap ∧
      skipComma.run feed = (.ok (), feed.skip gap.length) := by
  by_cases free : NoComma feed.ahead
  · exact ⟨[], feed.ahead, rfl, .none, run_skipComma sealed rfl .none fun _ => free⟩
  · cases ahead : feed.ahead with
    | nil => simp [NoComma, ahead] at free
    | cons token more =>
        have isComma : token.kind = .comma := by simpa [NoComma, ahead] using free
        have comma : Rule.OptionalComma [token] := .comma isComma
        exact ⟨[token], more, rfl, comma, run_skipComma sealed ahead comma (by simp)⟩

/-- An option of a kind that has not been seen is read first, then the comma behind
it. -/
theorem option_eq_ok_iff {seen : List Token} {draft draft' : Draft S V D} {feed rest : Feed}
    {keyword : Token} (sealed : feed.Sealed source) :
    (grammar.option enabled seen draft).run feed = (.ok (keyword, draft'), rest) ↔
      ∃ kind said middle tokens, feed.ahead = keyword :: tokens ∧ Rule.Keyworded kind keyword ∧
        (∀ earlier ∈ seen, earlier.value ≠ keyword.value) ∧
        (grammar.setting enabled keyword kind).run (feed.skip 1) = (.ok said, middle) ∧
        skipComma.run middle = (.ok (), rest) ∧ draft' = said.addTo draft := by
  rw [option_sameValues enabled seen draft feed rest, Parser.run_bind_eq_ok_iff]
  constructor
  · rintro ⟨first, behind, expected, ran⟩
    rcases Parser.cons_of_run_expect sealed.last_kind (by simp) expected with
      ⟨tokens, ahead, identifier, rfl⟩
    rw [optionBehind] at ran
    split at ran
    · cases ran
    rename_i fresh
    rcases Parser.run_bind_eq_ok_iff.1 ran with ⟨given, middle, value, ran⟩
    rcases Parser.run_bind_eq_ok_iff.1 ran with ⟨_, _, skipped, same⟩
    cases same
    cases named : (Keyword.ofName? (String.ofList keyword.value) : Option OptionKind) with
    | none =>
        rw [optionValue, named] at value
        cases value
    | some kind =>
        rw [optionValue_eq named, Parser.run_bind_eq_ok_iff] at value
        rcases value with ⟨said, _, read, same⟩
        cases same
        have keyed : Rule.Keyworded kind keyword :=
          Rule.keyworded_iff.2 ⟨identifier, (Keyword.mem_and_name_of_find? named).2.symm⟩
        exact ⟨kind, said, middle, tokens, ahead, keyed, by simpa using fresh, read, skipped, rfl⟩
  · rintro ⟨kind, said, middle, tokens, ahead, keyed, unseen, read, skipped, rfl⟩
    have named : Keyword.ofName? (String.ofList keyword.value) = some kind := by
      rw [keyed.name_eq]
      cases kind <;> rfl
    refine ⟨keyword, feed.skip 1, Parser.run_expect_of_cons ahead keyed.1 (by simp), ?_⟩
    rw [optionBehind, if_neg (by simpa using unseen), optionValue_eq named]
    exact Parser.run_bind_eq_ok_iff.2 ⟨_, middle, Parser.run_bind_eq_ok_iff.2
      ⟨said, middle, read, rfl⟩, Parser.run_bind_eq_ok_iff.2 ⟨(), rest, skipped, rfl⟩⟩

/-- On a feed with one end mark, one step over the options takes one piece. -/
theorem steps (value : grammar.defaultValue.Local source Valued) (enabled : Capabilities) :
    grammar.Steps enabled (Feed.Sealed source) (grammar.Tells enabled source) where
  atEnd_iff := Feed.Sealed.atEnd_iff
  starts tells := tells.segment.starts
  sound := by
    intro seen kinds draft draft' feed rest keyword sealed names ran
    rcases (option_eq_ok_iff sealed).1 ran with
      ⟨kind, said, middle, tokens, ahead, keyed, unseen, read, skipped, rfl⟩
    have behind := Feed.skip_ahead_of_cons ahead
    cases kind_of_setting read
    rcases setting_local value keyword _ (sealed.skip 1) read with
      ⟨taken, more, ahead', rfl, tail, gives⟩
    rcases exists_run_skipComma ((sealed.skip 1).skip taken.length) with
      ⟨gap, others, ahead'', comma, skipped'⟩
    cases skipped.symm.trans skipped'
    rw [Feed.skip_ahead_of_append ahead'] at ahead''
    rw [behind] at ahead'
    refine ⟨said, keyword :: taken, gap, others, ?_, ⟨keyword, taken, rfl, keyed, tail, gives⟩, comma,
      names.snoc keyed.name_eq, (names.unseen_iff keyed.name_eq).1 unseen, rfl, ?_, ?_⟩
    · simp [ahead, ahead', ahead'']
    · simp only [Feed.skip_skip, List.length_append, List.length_cons]
      congr 1
      omega
    · exact ((sealed.skip 1).skip _).skip _
  complete := by
    rintro seen kinds draft feed said _ gap more sealed names ahead
      ⟨keyword, behind, rfl, keyed, tail, gives⟩ comma free absent
    have ahead' : (feed.skip 1).ahead = behind ++ (gap ++ more) := by simp [ahead]
    have skipped := run_skipComma ((sealed.skip 1).skip behind.length)
      (Feed.skip_ahead_of_append ahead') comma fun _ => free
    have length : 1 + behind.length + gap.length = (keyword :: behind ++ gap).length := by
      simp only [List.length_append, List.length_cons]
      omega
    refine ⟨keyword, names.snoc keyed.name_eq, ?_, sealed.skip _⟩
    rw [option_eq_ok_iff sealed, ← length, ← Feed.skip_skip, ← Feed.skip_skip]
    exact ⟨said.kind, said, _, _, ahead, keyed, (names.unseen_iff keyed.name_eq).2 absent,
      gives (sealed.skip 1) ahead', skipped, rfl⟩

end Grammar

end GuardLang

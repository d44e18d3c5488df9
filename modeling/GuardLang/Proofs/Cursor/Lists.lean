import GuardLang.Proofs.Cursor.Groups
import GuardLang.Proofs.Grammar.Commas

/-!
# Lists in groups

The items of a group are read one after the other from what is left of the group, and each
item stops by rules of its own.  Still this is the same as to cut the group at its commas
first and to read each run alone.

No item goes past a comma outside brackets, because what it is derived from is unbroken
(`Family.exists_item_reads`), and none stops short of one, because a list calls for a comma
behind it.

Main statement: `Cursor.Descends.punctuated_iff_itemRuns`.
-/

namespace GuardLang

/-! ## Unbroken items -/

namespace Rule

variable {source : Text} {tokens : List Token}

section

variable {κ : Type} [Keyword κ] [Worded κ] {kind : κ} {keyword equals : Token}

theorem Keyworded.unbroken (keyed : Keyworded kind keyword) : Unbroken [keyword] :=
  .of_kind keyed.1 rfl (by simp) .nil

/-- A keyword, an equals sign and an unbroken run. -/
theorem Keyworded.unbroken_assigned (keyed : Keyworded kind keyword)
    (isEquals : equals.kind = .equals) (unbroken : Unbroken tokens) :
    Unbroken (keyword :: equals :: tokens) :=
  .of_kind keyed.1 rfl (by simp) (.of_kind isEquals rfl (by simp) unbroken)

end

theorem StringSanitizing.unbroken {value : Spanned StringSanitizer}
    (derived : StringSanitizing source tokens value) : Unbroken tokens := by
  cases derived with
  | plain _ keyed => exact keyed.unbroken
  | custom keyed isEquals custom => exact keyed.unbroken_assigned isEquals custom.unbroken

theorem StringValidating.unbroken {enabled : Capabilities} {value : Spanned StringValidator}
    (derived : StringValidating source enabled tokens value) : Unbroken tokens := by
  cases derived with
  | notEmpty keyed => exact keyed.unbroken
  | length _ keyed isEquals number _ => exact keyed.unbroken_assigned isEquals number.unbroken
  | custom keyed isEquals custom => exact keyed.unbroken_assigned isEquals custom.unbroken
  | regex _ keyed isEquals isPattern _ =>
      exact keyed.unbroken_assigned isEquals isPattern.unbroken

theorem NumericSanitizing.unbroken {inputType : Text} {value : Spanned NumericSanitizer}
    (derived : NumericSanitizing source inputType tokens value) : Unbroken tokens := by
  cases derived with
  | custom keyed isEquals custom => exact keyed.unbroken_assigned isEquals custom.unbroken

theorem NumericValidating.unbroken {α : Type} {inputType : Text} {denotes : Denotation α}
    {known : List NumericValidatorKind} {value : Spanned (NumericValidator α)}
    (derived : NumericValidating source inputType denotes known tokens value) :
    Unbroken tokens := by
  cases derived with
  | finite _ keyed => exact keyed.unbroken
  | bound _ _ keyed isEquals number _ => exact keyed.unbroken_assigned isEquals number.unbroken
  | custom _ keyed isEquals custom => exact keyed.unbroken_assigned isEquals custom.unbroken

end Rule

/-! ## The items of a family -/

namespace Family

/-- What an item of a family says. -/
def Item : Family → Role → Type
  | string, .sanitizer => StringSanitizer
  | string, .validator => StringValidator
  | integer _, .sanitizer => NumericSanitizer
  | integer _, .validator => NumericValidator Int
  | float _, .sanitizer => NumericSanitizer
  | float _, .validator => NumericValidator Binary64

/-- The parser of the items of a family. -/
def item (enabled : Capabilities) :
    (family : Family) → (role : Role) → Parser (Spanned (family.Item role))
  | string, .sanitizer => (Grammar.ofStrings enabled).sanitizer
  | string, .validator => (Grammar.ofStrings enabled).validator
  | integer type, .sanitizer => (Grammar.ofIntegers type).sanitizer
  | integer type, .validator => (Grammar.ofIntegers type).validator
  | float type, .sanitizer => (Grammar.ofFloats type).sanitizer
  | float type, .validator => (Grammar.ofFloats type).validator

/-- The parser of the items of a family reads a rule that derives unbroken runs only, each
with a keyword in front. -/
theorem exists_item_reads (source : Text) (enabled : Capabilities) (family : Family)
    (role : Role) :
    ∃ rule, (family.item enabled role).Reads source rule ItemEnd ∧
      ∀ {tokens value}, rule tokens value → Unbroken tokens ∧ Rule.Led tokens := by
  have strings := Grammar.ofStrings_reads source enabled
  have integers := Grammar.ofIntegers_reads source
  have floats := Grammar.ofFloats_reads source
  cases family with
  | string =>
      cases role with
      | sanitizer => exact ⟨_, strings.sanitizer, fun derived => ⟨derived.unbroken, derived.led⟩⟩
      | validator => exact ⟨_, strings.validator, fun derived => ⟨derived.unbroken, derived.led⟩⟩
  | integer type =>
      cases role with
      | sanitizer =>
          exact ⟨_, (integers type).sanitizer, fun derived => ⟨derived.unbroken, derived.led⟩⟩
      | validator =>
          exact ⟨_, (integers type).validator, fun derived => ⟨derived.unbroken, derived.led⟩⟩
  | float type =>
      cases role with
      | sanitizer =>
          exact ⟨_, (floats type).sanitizer, fun derived => ⟨derived.unbroken, derived.led⟩⟩
      | validator =>
          exact ⟨_, (floats type).validator, fun derived => ⟨derived.unbroken, derived.led⟩⟩

end Family

/-! ## One run alone -/

/-- On a feed of its own a parser gives a value and takes all tokens exactly if its rule
derives them. -/
theorem Parser.Reads.run_all_iff {α : Type} {source : Text} {rule : List Token → α → Prop}
    {item : Parser α} (reads : item.Reads source rule ItemEnd) {feed : Feed} {value : α}
    (tidy : feed.Tidy source) :
    (∃ rest, item.run feed = (.ok value, rest) ∧ rest.ahead = []) ↔ rule feed.ahead value := by
  constructor
  · rintro ⟨rest, ran, all⟩
    rcases reads.sound tidy ran with ⟨taken, more, ahead, rfl, derived⟩
    rw [Feed.skip_ahead_of_append ahead] at all
    rwa [ahead, all, List.append_nil]
  · intro derived
    have whole : feed.ahead = feed.ahead ++ [] := (List.append_nil _).symm
    exact ⟨_, reads.complete tidy whole derived itemEnd_nil, Feed.skip_ahead_of_append whole⟩

/-- A run between two commas of a tidy feed makes a tidy feed of its own. -/
theorem Feed.Tidy.alone {source : Text} {feed : Feed} (tidy : feed.Tidy source)
    {run : List Token} (member : run ∈ itemRuns feed.ahead) (mark : Span) :
    Feed.Tidy source { ahead := run, last := .endAt mark, source } := by
  rcases tidy.nested.itemRuns.of_mem run member with ⟨unbroken, part⟩
  exact ⟨rfl, rfl, unbroken.nested, tidy.ordered.sublist part.sublist,
    fun token member => tidy.stands token (part.subset member)⟩

/-- A list is derived from a tidy feed exactly if each run between its commas gives an item
alone. -/
theorem Parser.Reads.forall₂_iff {α : Type} {source : Text} {rule : List Token → α → Prop}
    {item : Parser α} (reads : item.Reads source rule ItemEnd) {feed : Feed}
    (tidy : feed.Tidy source) (marks : List Token → Span) (values : List α) :
    List.Forall₂ rule (itemRuns feed.ahead) values ↔
      List.Forall₂ (fun run value => ∃ rest,
        item.run { ahead := run, last := .endAt (marks run), source } = (.ok value, rest) ∧
          rest.ahead = []) (itemRuns feed.ahead) values := by
  have members : ∀ run ∈ itemRuns feed.ahead, run ∈ itemRuns feed.ahead := fun _ member => member
  constructor
  · intro each
    refine ((List.forall₂_and_left _ _).2 ⟨members, each⟩).imp ?_
    rintro run value ⟨member, derived⟩
    exact (reads.run_all_iff (tidy.alone member (marks run))).2 derived
  · intro each
    refine ((List.forall₂_and_left _ _).2 ⟨members, each⟩).imp ?_
    rintro run value ⟨member, ran⟩
    exact (reads.run_all_iff (tidy.alone member (marks run))).1 ran

/-! ## Groups -/

namespace Cursor

/-- The feed of a group that a cursor over a scan enters is tidy. -/
theorem Part.tidy {source : Text} {found : List Token} {feed : Feed}
    (part : (ofFeed feed).Part source found) (lexed : Lexed .start source found) :
    feed.Tidy source :=
  ⟨part.source_eq, part.last_kind, part.nested, lexed.ordered.sublist part.among.sublist,
    fun token member => lexed.stands token (part.among.subset member)⟩

/-- Reading a list is cutting and reading each part.  Take any group that a cursor over the
tokens of a scan enters, and cut its tokens at the commas outside all brackets.  The items of
a family are read from the group exactly if each run gives an item alone and is used up by
it, and they are these items, in this order. -/
theorem Descends.punctuated_iff_itemRuns {source : Text} {stream : List Token}
    {root cursor after : Cursor} {group : Spanned Feed} (tokenized : tokenize source = .ok stream)
    (rooted : ofTokens? stream source = some root) (descends : root.Descends cursor)
    (entered : cursor.run Parser.group = (.ok group, after)) (family : Family) (role : Role)
    (enabled : Capabilities) (marks : List Token → Span)
    (values : List (Spanned (family.Item role))) :
    ((Parser.punctuated (family.item enabled role)).run group.item).1 = .ok values ↔
      List.Forall₂ (fun run value => ∃ rest,
        (family.item enabled role).run { ahead := run, last := .endAt (marks run), source } =
            (.ok value, rest) ∧ rest.ahead = [])
        (itemRuns group.item.ahead) values := by
  rcases part_of_tokenize tokenized rooted with ⟨found, lexed, _, whole⟩
  have inside : root.Descends (ofFeed group.item) := descends.entered entered
  have tidy : group.item.Tidy source := (inside.part whole lexed.ordered).tidy lexed
  rcases family.exists_item_reads source enabled role with ⟨rule, reads, shape⟩
  have unbroken : ∀ {run value}, rule run value → Unbroken run ∧ run ≠ [] := by
    intro run value derived
    rcases shape derived with ⟨unbroken, keyword, rest, rfl, _⟩
    exact ⟨unbroken, by simp⟩
  rw [Parser.punctuated_eq_ok_iff reads (fun derived => (shape derived).2) tidy,
    Rule.listed_iff_forall₂ unbroken tidy.nested, reads.forall₂_iff tidy marks]

/-- A closure with a comma in its body and a keyword, with a comma behind them: two runs. -/
theorem Descends.punctuated_with_trim :
    ∃ first second : List Token,
      itemRuns (first ++ ⟨.comma, [','], ⟨15, 16, 1, 16⟩⟩ ::
        (second ++ [⟨.comma, [','], ⟨20, 21, 1, 21⟩⟩])) = [first, second] ∧
      List.Forall₂ (fun run value => ∃ rest,
          (Family.string.item {} .sanitizer).run
              { ahead := run, last := .endAt ⟨22, 22, 1, 23⟩
                source := "(with=|s|f(s,1),trim,)".toList } =
            (.ok value, rest) ∧ rest.ahead = [])
        [first, second]
        [⟨{ kind := .custom
            function := some { form := .closure, param := some ['s'],
                               body := some "f(s,1)".toList, inputType := "String".toList } },
            ⟨6, 15, 1, 7⟩⟩,
          ⟨{ kind := .trim }, ⟨16, 20, 1, 17⟩⟩] := by
  let first : List Token :=
    [⟨.identifier, "with".toList, ⟨1, 5, 1, 2⟩⟩, ⟨.equals, ['='], ⟨5, 6, 1, 6⟩⟩,
      ⟨.pipe, ['|'], ⟨6, 7, 1, 7⟩⟩, ⟨.identifier, ['s'], ⟨7, 8, 1, 8⟩⟩,
      ⟨.pipe, ['|'], ⟨8, 9, 1, 9⟩⟩, ⟨.identifier, ['f'], ⟨9, 10, 1, 10⟩⟩,
      ⟨.opening .round, ['('], ⟨10, 11, 1, 11⟩⟩, ⟨.identifier, ['s'], ⟨11, 12, 1, 12⟩⟩,
      ⟨.comma, [','], ⟨12, 13, 1, 13⟩⟩, ⟨.number, ['1'], ⟨13, 14, 1, 14⟩⟩,
      ⟨.closing .round, [')'], ⟨14, 15, 1, 15⟩⟩]
  let second : List Token := [⟨.identifier, "trim".toList, ⟨16, 20, 1, 17⟩⟩]
  let root : Cursor :=
    { tokens := ⟨.opening .round, ['('], ⟨0, 1, 1, 1⟩⟩ :: (first ++
        ⟨.comma, [','], ⟨15, 16, 1, 16⟩⟩ :: (second ++ [⟨.comma, [','], ⟨20, 21, 1, 21⟩⟩,
          ⟨.closing .round, [')'], ⟨21, 22, 1, 22⟩⟩]))
      last := .endAt ⟨22, 22, 1, 23⟩
      source := "(with=|s|f(s,1),trim,)".toList }
  have tokenized : tokenize root.source = .ok (root.tokens ++ [root.last]) := by decide +kernel
  have entered : root.run Parser.group = (.ok _, _) := rfl
  refine ⟨first, second, rfl, ?_⟩
  exact (punctuated_iff_itemRuns tokenized rfl .root entered .string .sanitizer {}
    (fun _ => ⟨22, 22, 1, 23⟩) _).1 (by
      change ((Parser.punctuated (Grammar.ofStrings {}).sanitizer).run _).1 = .ok _
      decide +kernel)

end Cursor

end GuardLang

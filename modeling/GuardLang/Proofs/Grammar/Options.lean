import GuardLang.Proofs.Grammar.Rows

/-!
# Options that are read exactly

Items between commas, the groups they stand in, and one option after the other.
A list counts down so many steps as there are tokens.  Every item takes its keyword
at least, so the steps never run out before the tokens do.

An annotation is accepted exactly if it is derived, and gives what the derivation
denotes (`options_eq_ok_iff`).
-/

namespace GuardLang

/-! ## Lists -/

namespace Parser

variable {α : Type} {source : Text} {rule : List Token → α → Prop} {item : Parser α}

/-- What one step of a list can do: it finds the end, reads the last item, or reads
an item and a comma and goes on. -/
theorem punctuatedUpTo_eq_ok_iff {fuel : Nat} {feed rest : Feed} {values : List α} :
    (punctuatedUpTo item (fuel + 1)).run feed = (.ok values, rest) ↔
      (feed.atEnd = true ∧ values = [] ∧ rest = feed) ∨
      (feed.atEnd = false ∧ ∃ first middle, item.run feed = (.ok first, middle) ∧
        ((middle.atEnd = true ∧ values = [first] ∧ rest = middle) ∨
          (middle.atEnd = false ∧ ∃ comma behind more,
            (expect .comma).run middle = (.ok comma, behind) ∧
            (punctuatedUpTo item fuel).run behind = (.ok more, rest) ∧
            values = first :: more))) := by
  rw [punctuatedUpTo, run_bind, run_atEnd]
  cases feed.atEnd with
  | true =>
      constructor
      · intro ran
        cases ran
        exact .inl ⟨rfl, rfl, rfl⟩
      · rintro (⟨_, rfl, rfl⟩ | ⟨more, _⟩)
        · rfl
        · cases more
  | false =>
      simp only [Bool.false_eq_true, if_false, false_and, false_or, true_and]
      rw [run_bind_eq_ok_iff]
      apply exists_congr
      intro first
      apply exists_congr
      intro middle
      apply and_congr_right
      intro _
      rw [run_bind, run_atEnd]
      cases middle.atEnd with
      | true =>
          constructor
          · intro ran
            cases ran
            exact .inl ⟨rfl, rfl, rfl⟩
          · rintro (⟨_, rfl, rfl⟩ | ⟨more, _⟩)
            · rfl
            · cases more
      | false =>
          simp only [Bool.false_eq_true, if_false, false_and, false_or, true_and]
          constructor
          · intro ran
            rcases run_bind_eq_ok_iff.1 ran with ⟨comma, behind, expected, ran⟩
            rcases run_bind_eq_ok_iff.1 ran with ⟨more, _, read, same⟩
            cases same
            exact ⟨comma, behind, more, expected, read, rfl⟩
          · rintro ⟨comma, behind, more, expected, read, rfl⟩
            exact run_bind_eq_ok_iff.2 ⟨comma, behind, expected,
              run_bind_eq_ok_iff.2 ⟨more, rest, read, rfl⟩⟩

/-- What a list gives is derived. -/
theorem listed_of_punctuatedUpTo (reads : item.Reads source rule ItemEnd) {fuel : Nat}
    {feed rest : Feed} {values : List α} (tidy : feed.Tidy source)
    (enough : feed.ahead.length < fuel)
    (ran : (punctuatedUpTo item fuel).run feed = (.ok values, rest)) :
    Rule.Listed rule feed.ahead values := by
  induction fuel generalizing feed values with
  | zero => cases enough
  | succ fuel ih =>
      rcases punctuatedUpTo_eq_ok_iff.1 ran with
        ⟨ended, rfl, _⟩ | ⟨_, first, middle, read, further⟩
      · rw [tidy.atEnd_iff.1 ended]
        exact .nil
      rcases reads.sound tidy read with ⟨taken, more, ahead, rfl, derived⟩
      have tidy' := tidy.skip ahead (reads.nested derived)
      have behind := Feed.skip_ahead_of_append ahead
      rcases further with ⟨ended, rfl, _⟩ | ⟨_, comma, after, others, expected, ran, rfl⟩
      · rw [tidy'.atEnd_iff, behind] at ended
        rw [ahead, ended, List.append_nil]
        exact .last derived
      · rcases cons_of_run_expect tidy'.last_kind (by simp) expected with
          ⟨tokens, ahead', isComma, rfl⟩
        have shape : feed.ahead = taken ++ comma :: tokens := by rw [ahead, ← behind, ahead']
        have left := Feed.skip_ahead_of_cons ahead'
        -- The comma alone makes the rest shorter.
        have shorter : ((feed.skip taken.length).skip 1).ahead.length < fuel := by
          rw [shape, List.length_append, List.length_cons] at enough
          rw [left]
          omega
        have listed := ih (tidy'.skip_one ahead' (by rw [isComma]; rfl)) shorter ran
        rw [left] at listed
        rw [shape]
        exact .more derived isComma listed

/-- A list that is derived is given. -/
theorem punctuatedUpTo_of_listed (reads : item.Reads source rule ItemEnd)
    (led : ∀ {tokens value}, rule tokens value → Rule.Led tokens) {fuel : Nat} {feed : Feed}
    {tokens : List Token} {values : List α} (tidy : feed.Tidy source)
    (ahead : feed.ahead = tokens) (enough : tokens.length < fuel)
    (listed : Rule.Listed rule tokens values) :
    ∃ rest, (punctuatedUpTo item fuel).run feed = (.ok values, rest) := by
  have goes : ∀ {taken more : List Token} {value : α} {feed : Feed}, feed.Tidy source →
      rule taken value → feed.ahead = taken ++ more → feed.atEnd = false := by
    intro taken more value feed tidy derived ahead
    rcases led derived with ⟨keyword, rest, rfl, identifier, _⟩
    exact Feed.atEnd_of_cons ahead (by simp [identifier])
  induction listed generalizing fuel feed with
  | nil =>
      cases fuel with
      | zero => cases enough
      | succ fuel =>
          exact ⟨feed, punctuatedUpTo_eq_ok_iff.2 (.inl ⟨tidy.atEnd_iff.2 ahead, rfl, rfl⟩)⟩
  | @last taken value derived =>
      cases fuel with
      | zero => cases enough
      | succ fuel =>
          have whole : feed.ahead = taken ++ [] := by rw [ahead, List.append_nil]
          have read := reads.complete tidy whole derived itemEnd_nil
          have tidy' := tidy.skip whole (reads.nested derived)
          exact ⟨_, punctuatedUpTo_eq_ok_iff.2 (.inr ⟨goes tidy derived whole, value, _, read,
            .inl ⟨tidy'.atEnd_iff.2 (Feed.skip_ahead_of_append whole), rfl, rfl⟩⟩)⟩
  | @more taken tokens comma value values derived isComma _ ih =>
      cases fuel with
      | zero => cases enough
      | succ fuel =>
          have read := reads.complete tidy ahead derived (itemEnd_cons_iff.2 isComma)
          have tidy' := tidy.skip ahead (reads.nested derived)
          have behind := Feed.skip_ahead_of_append ahead
          have left := Feed.skip_ahead_of_cons behind
          have shorter : tokens.length < fuel := by
            rw [List.length_append, List.length_cons] at enough
            omega
          rcases ih (tidy'.skip_one behind (by rw [isComma]; rfl)) left shorter with ⟨rest, ran⟩
          exact ⟨rest, punctuatedUpTo_eq_ok_iff.2 (.inr ⟨goes tidy derived ahead, value, _, read,
            .inr ⟨Feed.atEnd_of_cons behind (by simp [isComma]), comma, _, values,
              run_expect_of_cons behind isComma (by simp), ran, rfl⟩⟩)⟩

/-- A list is read on a feed of its own exactly if it is derived. -/
theorem punctuated_eq_ok_iff (reads : item.Reads source rule ItemEnd)
    (led : ∀ {tokens value}, rule tokens value → Rule.Led tokens) {feed : Feed}
    {values : List α} (tidy : feed.Tidy source) :
    ((punctuated item).run feed).1 = .ok values ↔ Rule.Listed rule feed.ahead values := by
  have same : (punctuated item).run feed =
      (punctuatedUpTo item (feed.ahead.length + 1)).run feed := rfl
  rw [same]
  constructor
  · intro given
    exact listed_of_punctuatedUpTo reads tidy (Nat.lt_succ_self _) (Prod.ext given rfl)
  · intro listed
    rcases punctuatedUpTo_of_listed reads led tidy rfl (Nat.lt_succ_self _) listed with ⟨rest, ran⟩
    rw [ran]

end Parser

/-! ## Groups -/

namespace Rule

variable {α : Type}

/-- Parentheses around a rule. -/
def Group (rule : List Token → α → Prop) (tokens : List Token) (value : α) : Prop :=
  ∃ opener inner closer, tokens = opener :: (inner ++ [closer]) ∧ opener.kind = .opening .round ∧
    closer.kind = .closing .round ∧ rule inner value

theorem Listed.nested {rule : List Token → α → Prop} {tokens : List Token} {values : List α}
    (item : ∀ {tokens value}, rule tokens value → Led tokens) (listed : Listed rule tokens values) :
    Nested tokens := by
  induction listed with
  | nil => exact .nil
  | last derived => exact (item derived).nested
  | more derived isComma _ ih =>
      exact (item derived).nested.append (.plain (by rw [isComma]; rfl) ih)

theorem Group.nested {rule : List Token → α → Prop} {tokens : List Token} {value : α}
    (inside : ∀ {tokens value}, rule tokens value → Nested tokens)
    (group : Group rule tokens value) : Nested tokens := by
  rcases group with ⟨opener, inner, closer, rfl, opening, closing, derived⟩
  exact .group opening closing (inside derived) .nil

end Rule

/-- The feed of what stands in front of a closing bracket. -/
def Feed.inside (inner : List Token) (closer : Token) (source : Text) : Feed :=
  { ahead := inner, last := .endAt closer.span.opening, source }

/-- What stands in a group of a tidy feed is tidy. -/
theorem Feed.Tidy.inside {source : Text} {feed : Feed} {opener closer : Token}
    {inner rest : List Token} (tidy : feed.Tidy source)
    (ahead : feed.ahead = opener :: (inner ++ closer :: rest)) (nested : Nested inner) :
    (Feed.inside inner closer feed.source).Tidy source := by
  have shape : feed.ahead = ([opener] ++ inner) ++ closer :: rest := by simp [ahead]
  refine ⟨tidy.source_eq, rfl, nested, (tidy.ordered_taken shape).right, ?_⟩
  intro token member
  refine tidy.stands token ?_
  rw [shape]
  exact List.mem_append_left _ (List.mem_append_right _ member)

namespace Grammar

variable {α : Type} {source : Text} {rule : List Token → α → Prop} {item : Parser α}

/-- A list in parentheses. -/
def listGroup (keyword : Token) (item : Parser α) : Parser (List α) := do
  let inner ← optionGroup keyword
  Parser.within inner (Parser.punctuated item)

/-- A group is read as a list of its own, whatever stands behind it. -/
theorem run_listGroup_of_split {feed : Feed} {keyword opener closer : Token}
    {inner rest : List Token} (ahead : feed.ahead = opener :: (inner ++ closer :: rest))
    (opening : opener.kind = .opening .round)
    (splits : ∀ more, Parser.splitGroup 0 (inner ++ closer :: more) = some (inner, closer, more)) :
    (listGroup keyword item).run feed =
      (((Parser.punctuated item).run (.inside inner closer feed.source)).1,
        feed.skip (inner.length + 2)) := by
  have grouped : (optionGroup keyword).run feed =
      (.ok (.inside inner closer feed.source), feed.skip (inner.length + 2)) := by
    have found : [TokenKind.opening .round].contains feed.current.kind = true := by
      rw [Feed.current_of_cons ahead, opening]
      rfl
    rw [optionGroup, Parser.run_bind, Parser.run_isAt, found]
    dsimp only
    rw [if_pos rfl, Parser.run_bind, Parser.run_group_of_split ahead opening splits]
    rfl
  rw [listGroup, Parser.run_bind, grouped]
  rfl

/-- A group whose tokens are nested is read as a list of its own. -/
theorem run_listGroup {feed : Feed} {keyword opener closer : Token} {inner rest : List Token}
    (ahead : feed.ahead = opener :: (inner ++ closer :: rest))
    (opening : opener.kind = .opening .round) (closing : closer.kind = .closing .round)
    (nested : Nested inner) :
    (listGroup keyword item).run feed =
      (((Parser.punctuated item).run (.inside inner closer feed.source)).1,
        feed.skip (inner.length + 2)) :=
  run_listGroup_of_split ahead opening fun _ =>
    Parser.splitGroup_of_nested nested (by rw [closing]; rfl)

/-- A list in parentheses is read wherever it stands. -/
theorem listGroup_reads (keyword : Token) (reads : item.Reads source rule ItemEnd)
    (led : ∀ {tokens value}, rule tokens value → Rule.Led tokens) :
    (listGroup keyword item).Reads source (Rule.Group (Rule.Listed rule)) Anywhere := by
  constructor
  · intro feed rest values tidy ran
    have opens : firstKind? feed.ahead = some (.opening .round) := by
      rw [← tidy.current_kind_iff (by simp)]
      by_cases opening : feed.current.kind = .opening .round
      · exact opening
      · simp [listGroup, optionGroup, opening] at ran
    cases ahead : feed.ahead with
    | nil => simp [ahead] at opens
    | cons opener tokens =>
        have nested := tidy.nested
        rw [ahead] at nested opens
        have opening : opener.kind = .opening .round := Option.some.inj opens
        rcases nested.exists_group opening with ⟨inner, closer, more, rfl, closing, inside, _⟩
        rw [run_listGroup ahead opening closing inside] at ran
        rcases Prod.mk.inj ran with ⟨given, rfl⟩
        have listed := (Parser.punctuated_eq_ok_iff reads led (tidy.inside ahead inside)).1 given
        refine ⟨opener :: (inner ++ [closer]), more, by simp, by simp, ?_⟩
        exact ⟨opener, inner, closer, rfl, opening, closing, listed⟩
  · rintro feed _ more values tidy ahead ⟨opener, inner, closer, rfl, opening, closing, listed⟩ _
    have shape : feed.ahead = opener :: (inner ++ closer :: more) := by simp [ahead]
    have inside := listed.nested led
    have given := (Parser.punctuated_eq_ok_iff reads led (tidy.inside shape inside)).2 listed
    rw [run_listGroup shape opening closing inside, given]
    simp
  · intro tokens values group
    exact group.nested (Rule.Listed.nested led)

end Grammar

/-! ## Single options -/

namespace Rule

variable {S V D : Type}

/-- What follows the keyword of an option. -/
def SettingOf (rules : Rules S V D) (enabled : Capabilities) :
    OptionKind → List Token → Setting S V D → Prop
  | .sanitize => Mapped (Group (Listed rules.sanitizer)) .sanitize
  | .validate => Mapped (Group (Listed rules.validator)) .validate
  | .default => Mapped (Assigned rules.defaultValue) .default
  | .newUnchecked => Mapped (Allowed enabled .newUnchecked (Given (.ok ()))) fun _ => .newUnchecked

/-- An option is a keyword and what follows it. -/
theorem sets_iff {rules : Rules S V D} {enabled : Capabilities} {tokens : List Token}
    {setting : Setting S V D} :
    Sets rules enabled tokens setting ↔
      ∃ kind keyword rest, tokens = keyword :: rest ∧ Keyworded kind keyword ∧
        SettingOf rules enabled kind rest setting := by
  constructor
  · intro sets
    cases sets with
    | sanitize keyed opening listed closing =>
        exact ⟨.sanitize, _, _, rfl, keyed, _, ⟨_, _, _, rfl, opening, closing, listed⟩, rfl⟩
    | validate keyed opening listed closing =>
        exact ⟨.validate, _, _, rfl, keyed, _, ⟨_, _, _, rfl, opening, closing, listed⟩, rfl⟩
    | default keyed isEquals derived =>
        exact ⟨.default, _, _, rfl, keyed, _, assigned_iff.2 ⟨_, _, rfl, isEquals, derived⟩, rfl⟩
    | newUnchecked allowed keyed =>
        exact ⟨.newUnchecked, _, [], rfl, keyed, (), ⟨allowed, rfl, rfl⟩, rfl⟩
  · rintro ⟨kind, keyword, rest, rfl, keyed, derived⟩
    cases kind with
    | sanitize =>
        rcases derived with ⟨items, ⟨opener, inner, closer, rfl, opening, closing, listed⟩, rfl⟩
        exact .sanitize keyed opening listed closing
    | validate =>
        rcases derived with ⟨items, ⟨opener, inner, closer, rfl, opening, closing, listed⟩, rfl⟩
        exact .validate keyed opening listed closing
    | default =>
        rcases derived with ⟨value, assigned, rfl⟩
        rcases assigned_iff.1 assigned with ⟨equals, rest, rfl, isEquals, derived⟩
        exact .default keyed isEquals derived
    | newUnchecked =>
        rcases derived with ⟨_, ⟨allowed, rfl, _⟩, rfl⟩
        exact .newUnchecked allowed keyed

/-- The kind of an option is that of its keyword. -/
theorem SettingOf.kind_eq {rules : Rules S V D} {enabled : Capabilities} {kind : OptionKind}
    {tokens : List Token} {setting : Setting S V D}
    (derived : SettingOf rules enabled kind tokens setting) : setting.kind = kind := by
  cases kind <;> rcases derived with ⟨_, _, rfl⟩ <;> rfl

end Rule

namespace Grammar

variable {S V D : Type} {source : Text} {rules : Rules S V D} {grammar : Grammar S V D}

/-- What follows the keyword of an option is added to the draft. -/
theorem optionValue_reads (reads : grammar.Reads source rules) (enabled : Capabilities)
    (keyword : Token) (draft : Draft S V D) {kind : OptionKind}
    (named : Keyword.ofName? (String.ofList keyword.value) = some kind) :
    (grammar.optionValue enabled keyword draft).Reads source
      (Rule.Mapped (Rule.SettingOf rules enabled kind) (Setting.addTo draft)) Anywhere := by
  rw [optionValue, named]
  cases kind with
  | sanitize =>
      have read := (listGroup_reads keyword reads.sanitizer reads.sanitizer_led).map
        (Setting.addTo draft ∘ .sanitize)
      rw [listGroup, bind_assoc] at read
      rw [Rule.SettingOf, Rule.mapped_mapped]
      exact read
  | validate =>
      have read := (listGroup_reads keyword reads.validator reads.validator_led).map
        (Setting.addTo draft ∘ .validate)
      rw [listGroup, bind_assoc] at read
      rw [Rule.SettingOf, Rule.mapped_mapped]
      exact read
  | default =>
      have read := (@Parser.Reads.expect_bind _ source _ .equals _ _ rfl fun _ =>
        reads.defaultValue).map (Setting.addTo draft ∘ .default)
      rw [bind_assoc] at read
      rw [Rule.SettingOf, Rule.mapped_mapped]
      exact read
  | newUnchecked =>
      have nothing : (pure () : Parser Unit).Reads source (Rule.Given (.ok ())) Anywhere :=
        .given fun _ => rfl
      have read := (requireCapability_reads enabled .newUnchecked keyword.span nothing).map
        (Setting.addTo draft ∘ fun _ => .newUnchecked)
      rw [bind_assoc] at read
      rw [Rule.SettingOf, Rule.mapped_mapped]
      exact read

end Grammar

namespace Rule

variable {S V D : Type}

/-- What follows the keyword of an option that has not been seen, and the comma
behind it, read into a draft. -/
def OptionBehind (rules : Rules S V D) (enabled : Capabilities) (seen : List Token)
    (draft : Draft S V D) (keyword : Token) (tokens : List Token)
    (read : Token × Draft S V D) : Prop :=
  ∃ setting rest gap, tokens = rest ++ gap ∧
    String.ofList keyword.value = Keyword.name setting.kind ∧
    (∀ earlier ∈ seen, earlier.value ≠ keyword.value) ∧
    SettingOf rules enabled setting.kind rest setting ∧ OptionalComma gap ∧
    (keyword, setting.addTo draft) = read

end Rule

namespace Grammar

variable {S V D : Type} {source : Text} {rules : Rules S V D} {grammar : Grammar S V D}

/-- A comma is taken if there is one. -/
theorem skipComma_reads :
    skipComma.Reads source (fun tokens _ => Rule.OptionalComma tokens) NoComma := by
  have nothing : (pure () : Parser Unit).Reads source (Rule.Given (.ok ())) NoComma :=
    .given fun _ => rfl
  refine (Parser.Reads.ifTaken rfl (fun _ => nothing) nothing ?_).of_iff ?_
  · rintro _ more value ⟨rfl, _⟩ none
    exact none
  · intro tokens value
    constructor
    · rintro (derived | ⟨rfl, _⟩)
      · rcases Rule.seq_single_iff.1 derived with ⟨comma, _, rfl, isComma, rfl, _⟩
        exact .comma isComma
      · exact .none
    · rintro (_ | isComma)
      · exact .inr ⟨rfl, rfl⟩
      · exact .inl (Rule.seq_single_iff.2 ⟨_, [], rfl, isComma, rfl, rfl⟩)

/-- What follows the keyword of an option that has not been seen. -/
def optionBehind (grammar : Grammar S V D) (enabled : Capabilities) (seen : List Token)
    (draft : Draft S V D) (keyword : Token) : Parser (Token × Draft S V D) :=
  if seen.any fun earlier => earlier.value == keyword.value then
    Parser.failAt keyword.span (.repeatedOption keyword.value)
  else do
    let draft ← optionValue grammar enabled keyword draft
    skipComma
    return (keyword, draft)

theorem option_sameValues (enabled : Capabilities) (seen : List Token) (draft : Draft S V D) :
    (grammar.option enabled seen draft).SameValues
      (Parser.expect .identifier >>= grammar.optionBehind enabled seen draft) := by
  intro feed rest read
  by_cases identifier : feed.current.kind = .identifier
  · rw [option, Parser.run_bind, Parser.run_bind, Parser.run_advance, Parser.run_expect,
      if_pos identifier]
    dsimp only
    rw [if_neg (by simp [identifier])]
    rfl
  · rw [option, Parser.run_bind, Parser.run_bind, Parser.run_advance, Parser.run_expect,
      if_neg identifier]
    dsimp only
    rw [if_pos identifier]
    simp

theorem optionBehind_reads (reads : grammar.Reads source rules) (enabled : Capabilities)
    (seen : List Token) (draft : Draft S V D) (keyword : Token) :
    (grammar.optionBehind enabled seen draft keyword).Reads source
      (Rule.OptionBehind rules enabled seen draft keyword) NoComma := by
  by_cases repeated : (seen.any fun earlier => earlier.value == keyword.value) = true
  · have never : ∀ {tokens read}, ¬ Rule.OptionBehind rules enabled seen draft keyword tokens read := by
      rintro tokens read ⟨_, _, _, _, _, unseen, _⟩
      rcases List.any_eq_true.1 repeated with ⟨earlier, member, same⟩
      exact unseen earlier member (eq_of_beq same)
    rw [optionBehind, if_pos repeated]
    refine (Parser.Reads.fails ?_).congr (by simp [never]) (by simp [never])
    intro feed rest read ran
    cases ran
  have unseen : ∀ earlier ∈ seen, earlier.value ≠ keyword.value := by
    intro earlier member same
    exact repeated (List.any_eq_true.2 ⟨earlier, member, beq_iff_eq.2 same⟩)
  rw [optionBehind, if_neg repeated]
  cases named : (Keyword.ofName? (String.ofList keyword.value) : Option OptionKind) with
  | none =>
      have never : ∀ {tokens read},
          ¬ Rule.OptionBehind rules enabled seen draft keyword tokens read := by
        rintro tokens read ⟨setting, _, _, _, same, _⟩
        refine Keyword.find?_eq_none_iff.1 named setting.kind ?_ same.symm
        cases setting.kind <;> simp [Keyword.all]
      refine (Parser.Reads.fails ?_).congr (by simp [never]) (by simp [never])
      intro feed rest read ran
      rw [Parser.run_bind, optionValue, named] at ran
      cases ran
  | some kind =>
      have written := (Keyword.mem_and_name_of_find? named).2
      have read := (optionValue_reads reads enabled keyword draft named).bind
        (fun draft => (@skipComma_reads source).map fun _ => (keyword, draft)) fun _ _ => trivial
      apply read.of_iff
      intro tokens read
      constructor
      · rintro ⟨rest, gap, _, rfl, ⟨setting, derived, rfl⟩, _, comma, rfl⟩
        cases derived.kind_eq
        exact ⟨setting, rest, gap, rfl, written.symm, unseen, derived, comma, rfl⟩
      · rintro ⟨setting, rest, gap, rfl, same, _, derived, comma, rfl⟩
        cases OptionKind.name_injective (written.trans same)
        exact ⟨rest, gap, _, rfl, ⟨setting, derived, rfl⟩, (), comma, rfl⟩

/-- An option that has not been seen is read with the comma behind it. -/
theorem option_reads (reads : grammar.Reads source rules) (enabled : Capabilities)
    (seen : List Token) (draft : Draft S V D) :
    (grammar.option enabled seen draft).Reads source
      (Rule.Seq (Rule.Single .identifier) (Rule.OptionBehind rules enabled seen draft)) NoComma :=
  (Parser.Reads.expect_bind rfl (optionBehind_reads reads enabled seen draft)).of_sameValues
    (option_sameValues enabled seen draft)

end Grammar

/-! ## Sequences of options -/

namespace Rule

variable {S V D : Type} {rules : Rules S V D} {enabled : Capabilities}

/-- An option begins with its keyword. -/
theorem Sets.starts {tokens : List Token} {setting : Setting S V D}
    (sets : Sets rules enabled tokens setting) : firstKind? tokens = some .identifier := by
  rcases sets_iff.1 sets with ⟨kind, keyword, rest, rfl, keyed, _⟩
  rw [firstKind?_cons, keyed.1]

/-- A sequence of options is a row of them. -/
theorem options_iff_row {tokens : List Token} {settings : List (Setting S V D)} :
    Options rules enabled tokens settings ↔
      ∃ runs, Row runs tokens ∧ List.Forall₂ (Sets rules enabled) runs settings := by
  constructor
  · intro options
    induction options with
    | nil => exact ⟨[], .nil, .nil⟩
    | option sets comma _ ih =>
        rcases ih with ⟨runs, row, each⟩
        exact ⟨_ :: runs, .cons comma row, .cons sets each⟩
  · rintro ⟨runs, row, each⟩
    induction row generalizing settings with
    | nil =>
        cases each
        exact .nil
    | cons comma _ ih =>
        cases each with
        | cons sets each => exact .option sets comma (ih each)

section

variable {source : Text} {grammar : Grammar S V D} {tokens : List Token}

theorem Keyworded.isPlain {kind : OptionKind} {keyword : Token} (keyed : Keyworded kind keyword) :
    keyword.kind.isPlain = true := by
  rw [keyed.1]
  rfl

theorem Sets.nested (reads : grammar.Reads source rules) {setting : Setting S V D}
    (sets : Sets rules enabled tokens setting) : Nested tokens := by
  cases sets with
  | sanitize keyed opening listed closing =>
      exact .plain keyed.isPlain (.group opening closing (listed.nested reads.sanitizer_led) .nil)
  | validate keyed opening listed closing =>
      exact .plain keyed.isPlain (.group opening closing (listed.nested reads.validator_led) .nil)
  | default keyed isEquals derived =>
      exact .plain keyed.isPlain
        (.plain (by rw [isEquals]; rfl) (reads.defaultValue.nested derived))
  | newUnchecked _ keyed => exact .plain keyed.isPlain .nil

/-- What a grammar derives is nested. -/
theorem Options.nested (reads : grammar.Reads source rules) {settings : List (Setting S V D)}
    (options : Options rules enabled tokens settings) : Nested tokens := by
  induction options with
  | nil => exact .nil
  | option sets gap _ ih =>
      apply Nested.append _ ih
      cases gap with
      | none => simpa using sets.nested reads
      | comma isComma => exact (sets.nested reads).append (.plain (by rw [isComma]; rfl) .nil)

end

end Rule

namespace Grammar

variable {S V D : Type} {source : Text} {rules : Rules S V D} {grammar : Grammar S V D}
  {enabled : Capabilities}

/-- What one step of the options gives is derived: an option of a kind that has not
been seen. -/
theorem sets_of_option (reads : grammar.Reads source rules) {seen : List Token}
    {kinds : List OptionKind} {draft draft' : Draft S V D} {feed rest : Feed} {keyword : Token}
    (tidy : feed.Tidy source) (names : Keywords seen kinds)
    (ran : (grammar.option enabled seen draft).run feed = (.ok (keyword, draft'), rest)) :
    ∃ setting taken gap more, feed.ahead = taken ++ gap ++ more ∧
      Rule.Sets rules enabled taken setting ∧ Rule.OptionalComma gap ∧
      Keywords (seen ++ [keyword]) (kinds ++ [setting.kind]) ∧ setting.kind ∉ kinds ∧
      draft' = setting.addTo draft ∧ rest = feed.skip (taken ++ gap).length ∧
      rest.Tidy source := by
  have read := @option_reads _ _ _ source rules grammar reads enabled seen draft
  rcases read.sound tidy ran with ⟨tokens, more, ahead, rfl, derived⟩
  have tidy' := tidy.skip ahead (read.nested derived)
  rcases Rule.seq_single_iff.1 derived with ⟨_, _, rfl, identifier, setting, behind, gap, rfl, named,
    unseen, value, comma, same⟩
  cases same
  exact ⟨setting, keyword :: behind, gap, more, ahead,
    Rule.sets_iff.2 ⟨_, _, _, rfl, Rule.keyworded_iff.2 ⟨identifier, named⟩, value⟩, comma,
    names.snoc named,
    (names.unseen_iff named).1 unseen, rfl, rfl, tidy'⟩

/-- An option of a kind that has not been seen is read in one step. -/
theorem option_of_sets (reads : grammar.Reads source rules) {seen : List Token}
    {kinds : List OptionKind} {draft : Draft S V D} {feed : Feed} {setting : Setting S V D}
    {taken gap more : List Token} (tidy : feed.Tidy source) (names : Keywords seen kinds)
    (ahead : feed.ahead = taken ++ gap ++ more) (sets : Rule.Sets rules enabled taken setting)
    (comma : Rule.OptionalComma gap) (none : NoComma more) (absent : setting.kind ∉ kinds) :
    ∃ keyword, Keywords (seen ++ [keyword]) (kinds ++ [setting.kind]) ∧
      (grammar.option enabled seen draft).run feed =
        (.ok (keyword, setting.addTo draft), feed.skip (taken ++ gap).length) ∧
      (feed.skip (taken ++ gap).length).Tidy source := by
  have read := @option_reads _ _ _ source rules grammar reads enabled seen draft
  rcases Rule.sets_iff.1 sets with ⟨kind, keyword, rest, rfl, keyed, value⟩
  cases value.kind_eq
  have named := keyed.name_eq
  have derived : Rule.Seq (Rule.Single .identifier) (Rule.OptionBehind rules enabled seen draft)
      (keyword :: rest ++ gap) (keyword, setting.addTo draft) :=
    Rule.seq_single_iff.2 ⟨keyword, rest ++ gap, rfl, keyed.1, setting, rest, gap, rfl, named,
      (names.unseen_iff named).2 absent, value, comma, rfl⟩
  exact ⟨keyword, names.snoc named, read.complete tidy ahead derived none,
    tidy.skip ahead (read.nested derived)⟩

/-- One step over the options of a tidy feed takes what the grammar derives. -/
theorem Reads.steps (reads : grammar.Reads source rules) (enabled : Capabilities) :
    grammar.Steps enabled (Feed.Tidy source) (Rule.Sets rules enabled) where
  atEnd_iff := Feed.Tidy.atEnd_iff
  starts := Rule.Sets.starts
  sound := sets_of_option reads
  complete := option_of_sets reads

/-- An annotation is accepted exactly if it is derived, and gives what the
derivation denotes. -/
theorem options_eq_ok_iff (reads : grammar.Reads source rules) {feed : Feed}
    (tidy : feed.Tidy source) {draft : Draft S V D} :
    (∃ after, grammar.options enabled feed = (.ok (), after) ∧ after.draft = draft) ↔
      Rule.Annotated rules enabled feed.ahead draft := by
  rw [(reads.steps enabled).options_iff tidy]
  constructor
  · rintro ⟨runs, settings, row, each, distinct, same⟩
    exact ⟨settings, Rule.options_iff_row.2 ⟨runs, row, each⟩, distinct, same⟩
  · rintro ⟨settings, options, distinct, same⟩
    rcases Rule.options_iff_row.1 options with ⟨runs, row, each⟩
    exact ⟨runs, settings, row, each, distinct, same⟩

end Grammar

end GuardLang

import GuardLang.Proofs.Grammar.Options

/-!
# Capabilities as gates

An annotation is read with two sets of capabilities, the second of which contains
the first.  Both readings go in step: they take the same tokens and give the same
values and the same faults.  They part only where the first set lacks what the
second has, and there the first reading stops, at the keyword that needs the
missing capability.

Main statement: `Grammar.options_lockstep`.
-/

namespace GuardLang

/-- One set of capabilities is contained in another. -/
instance : LE Capabilities where
  le enabled enabled' :=
    ∀ capability, enabled.allows capability = true → enabled'.allows capability = true

/-- A keyword is refused for a capability that only the second set has. -/
structure Fault.RefusesAt (enabled enabled' : Capabilities) (capability : Capability)
    (keyword : Token) (fault : Fault) : Prop where
  missing : enabled.allows capability = false
  allowed : enabled'.allows capability = true
  fault_eq : fault = .located (.disabled capability) keyword.span

/-! ## Where capabilities are used -/

namespace Rule

variable {α S V D : Type}

/-- Items with a comma behind each of them. -/
inductive Preceding (item : List Token → α → Prop) : List Token → Prop
  | nil : Preceding item []
  | item {tokens rest : List Token} {comma : Token} {value : α} : item tokens value →
      comma.kind = .comma → Preceding item rest → Preceding item (tokens ++ comma :: rest)

/-- An item of a list begins with the token. -/
def ItemAt (item : List Token → α → Prop) (tokens : List Token) (first : Token) : Prop :=
  ∃ before rest, tokens = before ++ first :: rest ∧ Preceding item before

/-- A keyword that needs a capability: that of an option behind others, or that of a
validator behind others in the group of an option. -/
inductive Uses (rules : Rules S V D) (enabled : Capabilities) (patterns : Prop) :
    Capability → List Token → Token → Prop
  | newUnchecked {before rest : List Token} {settings : List (Setting S V D)} {keyword : Token} :
      Options rules enabled before settings → Keyworded OptionKind.newUnchecked keyword →
      Uses rules enabled patterns .newUnchecked (before ++ keyword :: rest) keyword
  | regex {before inner : List Token} {settings : List (Setting S V D)}
      {validate opener keyword : Token} : patterns → Options rules enabled before settings →
      Keyworded OptionKind.validate validate → opener.kind = .opening .round →
      ItemAt rules.validator inner keyword → Keyworded StringValidatorKind.regex keyword →
      Uses rules enabled patterns .regex (before ++ validate :: opener :: inner) keyword

/-- A list goes on behind its items. -/
theorem ItemAt.behind {item : List Token → α → Prop} {tokens rest : List Token}
    {comma first : Token} {value : α} (derived : item tokens value) (isComma : comma.kind = .comma)
    (found : ItemAt item rest first) : ItemAt item (tokens ++ comma :: rest) first := by
  obtain ⟨before, after, rfl, preceding⟩ := found
  exact ⟨tokens ++ comma :: before, after, by simp, .item derived isComma preceding⟩

theorem ItemAt.append {item : List Token → α → Prop} {tokens : List Token} {first : Token}
    (found : ItemAt item tokens first) (more : List Token) : ItemAt item (tokens ++ more) first := by
  obtain ⟨before, after, rfl, preceding⟩ := found
  exact ⟨before, after ++ more, by simp, preceding⟩

/-- An annotation goes on behind its options. -/
theorem Uses.behind {rules : Rules S V D} {enabled : Capabilities} {patterns : Prop}
    {capability : Capability} {taken gap rest : List Token} {setting : Setting S V D}
    {keyword : Token} (sets : Sets rules enabled taken setting) (comma : OptionalComma gap)
    (uses : Uses rules enabled patterns capability rest keyword) :
    Uses rules enabled patterns capability (taken ++ gap ++ rest) keyword := by
  cases uses with
  | newUnchecked options keyed =>
      rw [← List.append_assoc]
      exact .newUnchecked (.option sets comma options) keyed
  | regex patterned options validate opening found keyed =>
      rw [← List.append_assoc]
      exact .regex patterned (.option sets comma options) validate opening found keyed

end Rule

/-! ## Parsers in step -/

namespace Parser

variable {α β : Type} {gate gate' : Fault → Prop} {feed : Feed}

/-- Two parsers do the same on a feed, or the first is refused at a gate. -/
def Lockstep (gate : Fault → Prop) (parser parser' : Parser α) (feed : Feed) : Prop :=
  parser.run feed = parser'.run feed ∨ ∃ fault, (parser.run feed).1 = .error fault ∧ gate fault

namespace Lockstep

theorem refl (parser : Parser α) : Lockstep gate parser parser feed :=
  .inl rfl

theorem mono {parser parser' : Parser α} (step : Lockstep gate parser parser' feed)
    (weaker : ∀ fault, gate fault → gate' fault) : Lockstep gate' parser parser' feed := by
  rcases step with same | ⟨fault, refused, gated⟩
  · exact .inl same
  · exact .inr ⟨fault, refused, weaker fault gated⟩

/-- Steps that are taken in turn stay in step. -/
theorem bind {parser parser' : Parser α} {next next' : α → Parser β}
    (first : Lockstep gate parser parser' feed)
    (second : ∀ {value rest}, parser.run feed = (.ok value, rest) →
      Lockstep gate (next value) (next' value) rest) :
    Lockstep gate (parser >>= next) (parser' >>= next') feed := by
  rcases first with same | ⟨fault, refused, gated⟩
  · rw [Lockstep, run_bind, run_bind, ← same]
    rcases ran : parser.run feed with ⟨fault | value, rest⟩
    · exact .inl rfl
    · exact second ran
  · right
    refine ⟨fault, ?_, gated⟩
    rw [run_bind]
    rcases ran : parser.run feed with ⟨_ | _, rest⟩
    · rw [ran] at refused
      cases refused
      rfl
    · rw [ran] at refused
      cases refused

/-- What is made of values does not matter. -/
theorem map {parser parser' : Parser α} (step : Lockstep gate parser parser' feed) (f : α → β) :
    Lockstep gate (parser >>= fun value => pure (f value))
      (parser' >>= fun value => pure (f value)) feed := by
  apply step.bind
  intro value rest _
  exact .refl _

end Lockstep

/-! ## Lists in step -/

variable {source : Text} {rule : List Token → α → Prop} {item item' : Parser α}
  {refuses : Token → Fault → Prop}

/-- Items that are in step make lists that are in step. -/
theorem punctuatedUpTo_lockstep (reads : item.Reads source rule ItemEnd)
    (step : ∀ {feed : Feed}, feed.Tidy source →
      Lockstep (fun fault => ∃ first rest, feed.ahead = first :: rest ∧ refuses first fault)
        item item' feed)
    (fuel : Nat) {feed : Feed} (tidy : feed.Tidy source) :
    Lockstep (fun fault => ∃ first, Rule.ItemAt rule feed.ahead first ∧ refuses first fault)
      (punctuatedUpTo item fuel) (punctuatedUpTo item' fuel) feed := by
  induction fuel generalizing feed with
  | zero => exact .refl _
  | succ fuel ih =>
      rw [punctuatedUpTo, punctuatedUpTo]
      apply Lockstep.bind (.refl _)
      intro ended _ same
      cases same
      split
      · exact .refl _
      apply Lockstep.bind
      · apply (step tidy).mono
        rintro fault ⟨first, rest, ahead, refused⟩
        exact ⟨first, ⟨[], rest, ahead, .nil⟩, refused⟩
      intro value middle read
      obtain ⟨taken, more, ahead, rfl, derived⟩ := reads.sound tidy read
      have tidy' := tidy.skip ahead (reads.nested derived)
      apply Lockstep.bind (.refl _)
      intro ended _ same
      cases same
      split
      · exact .refl _
      apply Lockstep.bind (.refl _)
      intro comma behind expected
      obtain ⟨tokens, ahead', isComma, rfl⟩ :=
        cons_of_run_expect tidy'.last_kind (by simp) expected
      apply Lockstep.bind
      · apply (ih (tidy'.skip_one ahead' (by rw [isComma]; rfl))).mono
        rintro fault ⟨first, found, refused⟩
        rw [Feed.skip_ahead_of_cons ahead'] at found
        rw [Feed.skip_ahead_of_append ahead] at ahead'
        rw [ahead, ahead']
        exact ⟨first, found.behind derived isComma, refused⟩
      · intro values rest _
        exact .refl _

end Parser

namespace Grammar

variable {source : Text} {enabled enabled' : Capabilities}

/-- A capability is required in step, but for one that only the second set has. -/
theorem requireCapability_lockstep (contained : enabled ≤ enabled') (capability : Capability)
    (keyword : Token) (feed : Feed) :
    Parser.Lockstep (Fault.RefusesAt enabled enabled' capability keyword)
      (requireCapability enabled capability keyword.span)
      (requireCapability enabled' capability keyword.span) feed := by
  rw [Parser.Lockstep, requireCapability, requireCapability, Parser.run_ofExcept,
    Parser.run_ofExcept, Capabilities.require, Capabilities.require]
  cases missing : enabled.allows capability with
  | true =>
      rw [contained capability missing]
      exact .inl rfl
  | false =>
      cases allowed : enabled'.allows capability with
      | false => exact .inl rfl
      | true => exact .inr ⟨_, rfl, missing, allowed, rfl⟩

section

variable {α : Type} {rule : List Token → α → Prop} {item item' : Parser α}
  {refuses : Token → Fault → Prop}

/-- A list in parentheses is read in step if its items are. -/
theorem listGroup_lockstep (keyword : Token) (reads : item.Reads source rule ItemEnd)
    (step : ∀ {feed : Feed}, feed.Tidy source →
      Parser.Lockstep (fun fault => ∃ first rest, feed.ahead = first :: rest ∧ refuses first fault)
        item item' feed)
    {feed : Feed} (tidy : feed.Tidy source) :
    Parser.Lockstep
      (fun fault => ∃ opener inner first, feed.ahead = opener :: inner ∧
        opener.kind = .opening .round ∧ Rule.ItemAt rule inner first ∧ refuses first fault)
      (listGroup keyword item) (listGroup keyword item') feed := by
  by_cases opens : feed.current.kind = .opening .round
  · rcases tidy.current_cases with ⟨_, eof⟩ | ⟨opener, tokens, ahead, current, _⟩
    · rw [eof] at opens
      cases opens
    rw [current] at opens
    have nested := tidy.nested
    rw [ahead] at nested
    obtain ⟨inner, closer, more, rfl, closing, inside, _⟩ := nested.exists_group opens
    rw [Parser.Lockstep, run_listGroup ahead opens closing inside,
      run_listGroup ahead opens closing inside]
    rcases Parser.punctuatedUpTo_lockstep reads step _ (tidy.inside ahead inside) with
      same | ⟨fault, refused, first, found, refuses⟩
    · left
      exact congrArg (fun ran => (ran.1, feed.skip (inner.length + 2))) same
    · right
      exact ⟨fault, refused, opener, _, first, ahead, opens, found.append _, refuses⟩
  · left
    simp [listGroup, optionGroup, opens]

end

/-- The validators of strings are read in step, but for patterns. -/
theorem stringValidator_lockstep (contained : enabled ≤ enabled') {feed : Feed}
    (tidy : feed.Tidy source) :
    Parser.Lockstep
      (fun fault => ∃ keyword rest, feed.ahead = keyword :: rest ∧
        Rule.Keyworded StringValidatorKind.regex keyword ∧
        fault.RefusesAt enabled enabled' .regex keyword)
      (stringValidator enabled) (stringValidator enabled') feed := by
  rw [stringValidator_eq, stringValidator_eq]
  apply Parser.Lockstep.bind (.refl _)
  intro keyword rest named
  cases kind : (Keyword.ofName? (String.ofList keyword.value) : Option StringValidatorKind) with
  | none => exact .refl _
  | some kind' =>
      cases kind' with
      | minLen | maxLen | notEmpty | custom => exact .refl _
      | regex =>
          have expected := (itemName_sameValues .validator feed rest keyword).1 named
          obtain ⟨tokens, ahead, identifier, _⟩ :=
            Parser.cons_of_run_expect tidy.last_kind (by simp) expected
          have keyed : Rule.Keyworded StringValidatorKind.regex keyword :=
            Rule.keyworded_iff.2 ⟨identifier, (Keyword.mem_and_name_of_find? kind).2.symm⟩
          apply Parser.Lockstep.bind
          · apply (requireCapability_lockstep contained .regex keyword rest).mono
            intro fault refused
            exact ⟨keyword, tokens, ahead, keyed, refused⟩
          · intro _ _ _
            exact .refl _

end Grammar

/-! ## Options in step -/

/-- Two grammars are in step, but for the keywords of patterns. -/
structure Grammar.Lockstep {S V D : Type} (source : Text) (enabled enabled' : Capabilities)
    (patterns : Prop) (grammar grammar' : Grammar S V D) : Prop where
  sanitizer : grammar'.sanitizer = grammar.sanitizer
  validator : ∀ {feed : Feed}, feed.Tidy source →
    Parser.Lockstep
      (fun fault => ∃ keyword rest, feed.ahead = keyword :: rest ∧ patterns ∧
        Rule.Keyworded StringValidatorKind.regex keyword ∧
        fault.RefusesAt enabled enabled' .regex keyword)
      grammar.validator grammar'.validator feed
  defaultValue : grammar'.defaultValue = grammar.defaultValue

namespace Grammar

variable {S V D : Type} {source : Text} {rules : Rules S V D} {grammar grammar' : Grammar S V D}
  {enabled enabled' : Capabilities} {patterns : Prop}

theorem ofStrings_lockstep (contained : enabled ≤ enabled') :
    Lockstep source enabled enabled' True (ofStrings enabled) (ofStrings enabled') where
  sanitizer := rfl
  validator := by
    intro feed tidy
    apply (stringValidator_lockstep contained tidy).mono
    rintro fault ⟨keyword, rest, ahead, keyed, refused⟩
    exact ⟨keyword, rest, ahead, trivial, keyed, refused⟩
  defaultValue := rfl

theorem Lockstep.refl (grammar : Grammar S V D) :
    Lockstep source enabled enabled' False grammar grammar :=
  ⟨rfl, fun _ => .refl _, rfl⟩

/-- Tokens hold a keyword that is refused for a capability that only the second set
has. -/
def Gate (rules : Rules S V D) (enabled enabled' : Capabilities) (patterns : Prop)
    (tokens : List Token) (fault : Fault) : Prop :=
  ∃ capability keyword, Rule.Uses rules enabled patterns capability tokens keyword ∧
    fault.RefusesAt enabled enabled' capability keyword

/-- What follows the keyword of an option is read in step. -/
theorem optionValue_lockstep (reads : grammar.Reads source rules)
    (lockstep : Lockstep source enabled enabled' patterns grammar grammar')
    (contained : enabled ≤ enabled') {keyword : Token} (identifier : keyword.kind = .identifier)
    (draft : Draft S V D) {feed : Feed} (tidy : feed.Tidy source) :
    Parser.Lockstep (Gate rules enabled enabled' patterns (keyword :: feed.ahead))
      (grammar.optionValue enabled keyword draft) (grammar'.optionValue enabled' keyword draft)
      feed := by
  rw [optionValue, optionValue, lockstep.sanitizer, lockstep.defaultValue]
  cases named : (Keyword.ofName? (String.ofList keyword.value) : Option OptionKind) with
  | none => exact .refl _
  | some kind =>
      have keyed : Rule.Keyworded kind keyword :=
        Rule.keyworded_iff.2 ⟨identifier, (Keyword.mem_and_name_of_find? named).2.symm⟩
      cases kind with
      | sanitize | default => exact .refl _
      | validate =>
          have step : Parser.Lockstep (Gate rules enabled enabled' patterns (keyword :: feed.ahead))
              (listGroup keyword grammar.validator) (listGroup keyword grammar'.validator) feed := by
            apply (listGroup_lockstep keyword reads.validator lockstep.validator tidy).mono
            rintro fault ⟨opener, inner, first, ahead, opens, found, patterned, first_keyed, refused⟩
            rw [ahead]
            exact ⟨.regex, first, .regex patterned .nil keyed opens found first_keyed, refused⟩
          have mapped := step.map (Setting.addTo draft ∘ .validate)
          rw [listGroup, listGroup, bind_assoc, bind_assoc] at mapped
          exact mapped
      | newUnchecked =>
          apply Parser.Lockstep.bind
          · apply (requireCapability_lockstep contained .newUnchecked keyword feed).mono
            intro fault refused
            exact ⟨.newUnchecked, keyword, .newUnchecked .nil keyed, refused⟩
          · intro _ _ _
            exact .refl _

/-- One option, with the comma behind it, is read in step. -/
theorem option_lockstep (reads : grammar.Reads source rules)
    (lockstep : Lockstep source enabled enabled' patterns grammar grammar')
    (contained : enabled ≤ enabled') (seen : List Token) (draft : Draft S V D) {feed : Feed}
    (tidy : feed.Tidy source) :
    Parser.Lockstep (Gate rules enabled enabled' patterns feed.ahead)
      (grammar.option enabled seen draft) (grammar'.option enabled' seen draft) feed := by
  rw [option, option]
  apply Parser.Lockstep.bind (.refl _)
  intro keyword rest taken
  by_cases identifier : keyword.kind = .identifier
  · rw [if_neg (Decidable.not_not.2 identifier), if_neg (Decidable.not_not.2 identifier)]
    split
    · exact .refl _
    rw [Parser.run_advance] at taken
    cases taken
    rcases tidy.current_cases with ⟨_, eof⟩ | ⟨token, tokens, ahead, current, mark⟩
    · rw [eof] at identifier
      cases identifier
    rw [current] at identifier ⊢
    rw [Feed.advance_of_cons ahead mark]
    have tidy' := tidy.skip_one ahead (by rw [identifier]; rfl)
    have behind : feed.ahead = token :: (feed.skip 1).ahead := by
      rw [Feed.skip_ahead_of_cons ahead, ahead]
    rw [behind]
    apply Parser.Lockstep.bind (optionValue_lockstep reads lockstep contained identifier draft tidy')
    intro _ _ _
    exact .refl _
  · rw [if_pos identifier, if_pos identifier]
    exact .refl _

/-- The loop over options is run in step. -/
theorem optionsUpTo_lockstep (reads : grammar.Reads source rules)
    (lockstep : Lockstep source enabled enabled' patterns grammar grammar')
    (contained : enabled ≤ enabled') (fuel : Nat) {progress : Progress S V D}
    {kinds : List OptionKind} (tidy : progress.feed.Tidy source)
    (names : Keywords progress.keywords kinds) :
    grammar.optionsUpTo enabled fuel progress = grammar'.optionsUpTo enabled' fuel progress ∨
      ∃ fault, (grammar.optionsUpTo enabled fuel progress).1 = .error fault ∧
        Gate rules enabled enabled' patterns progress.feed.ahead fault := by
  induction fuel generalizing progress kinds with
  | zero => exact .inl rfl
  | succ fuel ih =>
      rw [optionsUpTo, optionsUpTo]
      split
      · exact .inl rfl
      rcases option_lockstep reads lockstep contained progress.keywords progress.draft tidy with
        same | ⟨fault, refused, gate⟩
      · rw [← same]
        rcases ran : (grammar.option enabled progress.keywords progress.draft).run progress.feed with
          ⟨fault | ⟨keyword, draft⟩, rest⟩
        · exact .inl rfl
        -- What has been read is an option, and what is refused behind it stands behind it.
        obtain ⟨setting, taken, gap, more, ahead, sets, comma, names', _, _, rfl, tidy'⟩ :=
          sets_of_option reads tidy names ran
        rcases @ih ⟨_, progress.keywords ++ [keyword], draft⟩ _ tidy' names' with
          same | ⟨fault, refused, capability, found, uses, refuses⟩
        · exact .inl same
        · right
          refine ⟨fault, refused, capability, found, ?_, refuses⟩
          have behind : (progress.feed.skip (taken ++ gap).length).ahead = more :=
            Feed.skip_ahead_of_append ahead
          rw [ahead, ← behind]
          exact .behind sets comma uses
      · right
        rcases ran : (grammar.option enabled progress.keywords progress.draft).run progress.feed with
          ⟨fault' | ⟨keyword, draft⟩, rest⟩
        · rw [ran] at refused
          cases refused
          exact ⟨fault, rfl, gate⟩
        · rw [ran] at refused
          cases refused

/-- Whole annotations are read in step. -/
theorem options_lockstep (reads : grammar.Reads source rules)
    (lockstep : Lockstep source enabled enabled' patterns grammar grammar')
    (contained : enabled ≤ enabled') {feed : Feed} (tidy : feed.Tidy source) :
    grammar.options enabled feed = grammar'.options enabled' feed ∨
      ∃ fault, (grammar.options enabled feed).1 = .error fault ∧
        Gate rules enabled enabled' patterns feed.ahead fault :=
  @optionsUpTo_lockstep _ _ _ _ _ _ _ _ _ _ reads lockstep contained _ { feed } _ tidy .nil

end Grammar

end GuardLang

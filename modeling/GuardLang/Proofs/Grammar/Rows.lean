import GuardLang.Grammar.Options
import GuardLang.Proofs.Grammar.Items
import Mathlib.Data.List.Forall2

/-!
# Options in a row

The loop over the options of an annotation, apart from how a single one is read.
If one step takes exactly one option and the comma behind it, the loop accepts
exactly the rows of options with different keywords, and what they say together
does not depend on the tokens between them (`Grammar.Steps.options_iff`).

The loop counts down so many steps as there are tokens.  Every option takes its
keyword at least, so the steps never run out before the tokens do.
-/

namespace GuardLang

/-- A place where no comma stands. -/
def NoComma (tokens : List Token) : Prop := firstKind? tokens ≠ some .comma

/-! ## Keywords that have been seen -/

/-- The tokens are the keywords of the kinds. -/
def Keywords (keywords : List Token) (kinds : List OptionKind) : Prop :=
  keywords.map (fun keyword => String.ofList keyword.value) = kinds.map Keyword.name

namespace Keywords

variable {keywords : List Token} {kinds : List OptionKind} {keyword : Token} {kind : OptionKind}

theorem nil : Keywords [] [] :=
  rfl

theorem snoc (names : Keywords keywords kinds)
    (named : String.ofList keyword.value = Keyword.name kind) :
    Keywords (keywords ++ [keyword]) (kinds ++ [kind]) := by
  unfold Keywords
  rw [List.map_append, List.map_append, names, List.map_singleton, List.map_singleton, named]

/-- A keyword has not been seen exactly if its kind is none of those seen. -/
theorem unseen_iff (names : Keywords keywords kinds)
    (named : String.ofList keyword.value = Keyword.name kind) :
    (∀ earlier ∈ keywords, earlier.value ≠ keyword.value) ↔ kind ∉ kinds := by
  constructor
  · intro unseen member
    have listed : Keyword.name kind ∈ kinds.map Keyword.name := List.mem_map_of_mem member
    rw [← names] at listed
    rcases List.mem_map.1 listed with ⟨earlier, seen, same⟩
    exact unseen earlier seen (String.ofList_injective (same.trans named.symm))
  · intro absent earlier seen same
    have listed : String.ofList earlier.value ∈
        keywords.map (fun keyword => String.ofList keyword.value) := List.mem_map_of_mem seen
    rw [names, same, named] at listed
    rcases List.mem_map.1 listed with ⟨other, member, same⟩
    rw [OptionKind.name_injective same] at member
    exact absent member

end Keywords

/-! ## Rows -/

/-- Runs of tokens in a row, each with or without a comma behind it. -/
inductive Row : List (List Token) → List Token → Prop
  | nil : Row [] []
  | cons {run gap rest : List Token} {runs : List (List Token)} : Rule.OptionalComma gap →
      Row runs rest → Row (run :: runs) (run ++ gap ++ rest)

/-- A row does not begin with a comma if none of its runs does. -/
theorem Row.noComma {runs : List (List Token)} {tokens : List Token} (row : Row runs tokens)
    (starts : ∀ run ∈ runs, firstKind? run = some .identifier) : NoComma tokens := by
  cases row with
  | nil => simp [NoComma]
  | cons _ _ =>
      rw [NoComma, List.append_assoc, firstKind?_append (starts _ List.mem_cons_self)]
      simp

theorem length_lt_of_firstKind? {run gap rest : List Token} {kind : TokenKind}
    (starts : firstKind? run = some kind) : rest.length < (run ++ gap ++ rest).length := by
  cases run with
  | nil => cases starts
  | cons token run =>
      simp only [List.length_append, List.length_cons]
      omega

/-! ## The loop -/

namespace Grammar

variable {S V D : Type}

/-- One step takes exactly one option of a kind that has not been seen and the comma
behind it, on feeds that stay what they are. -/
structure Steps (grammar : Grammar S V D) (enabled : Capabilities) (good : Feed → Prop)
    (sets : List Token → Setting S V D → Prop) : Prop where
  atEnd_iff : ∀ {feed : Feed}, good feed → (feed.atEnd = true ↔ feed.ahead = [])
  starts : ∀ {tokens setting}, sets tokens setting → firstKind? tokens = some .identifier
  sound : ∀ {seen kinds draft draft'} {feed rest : Feed} {keyword : Token}, good feed →
    Keywords seen kinds →
    (grammar.option enabled seen draft).run feed = (.ok (keyword, draft'), rest) →
    ∃ setting taken gap more, feed.ahead = taken ++ gap ++ more ∧ sets taken setting ∧
      Rule.OptionalComma gap ∧ Keywords (seen ++ [keyword]) (kinds ++ [setting.kind]) ∧
      setting.kind ∉ kinds ∧ draft' = setting.addTo draft ∧
      rest = feed.skip (taken ++ gap).length ∧ good rest
  complete : ∀ {seen kinds draft} {feed : Feed} {setting taken gap more}, good feed →
    Keywords seen kinds → feed.ahead = taken ++ gap ++ more → sets taken setting →
    Rule.OptionalComma gap → NoComma more → setting.kind ∉ kinds →
    ∃ keyword, Keywords (seen ++ [keyword]) (kinds ++ [setting.kind]) ∧
      (grammar.option enabled seen draft).run feed =
        (.ok (keyword, setting.addTo draft), feed.skip (taken ++ gap).length) ∧
      good (feed.skip (taken ++ gap).length)

namespace Steps

variable {grammar : Grammar S V D} {enabled : Capabilities} {good : Feed → Prop}
  {sets : List Token → Setting S V D → Prop}

/-- Runs that are options begin with keywords. -/
theorem starts_of_forall₂ (steps : grammar.Steps enabled good sets) {runs : List (List Token)}
    {settings : List (Setting S V D)} (each : List.Forall₂ sets runs settings) :
    ∀ run ∈ runs, firstKind? run = some .identifier := by
  have both := each.imp fun _ _ sets => And.intro (steps.starts sets) sets
  exact ((List.forall₂_and_left _ _).1 both).1

/-- The loop takes a row of options and gives what they say, added to the draft it
began with. -/
theorem row_of_optionsUpTo (steps : grammar.Steps enabled good sets) {fuel : Nat}
    {progress after : Progress S V D} {kinds : List OptionKind} (started : good progress.feed)
    (enough : progress.feed.ahead.length ≤ fuel) (names : Keywords progress.keywords kinds)
    (distinct : kinds.Nodup)
    (ran : grammar.optionsUpTo enabled fuel progress = (.ok (), after)) :
    ∃ runs settings, Row runs progress.feed.ahead ∧ List.Forall₂ sets runs settings ∧
      (kinds ++ settings.map Setting.kind).Nodup ∧
      after.draft = settings.foldl Setting.addTo progress.draft := by
  induction fuel generalizing progress kinds with
  | zero =>
      cases ran
      rw [List.length_eq_zero_iff.1 (Nat.le_zero.1 enough)]
      exact ⟨[], [], .nil, .nil, by simpa using distinct, rfl⟩
  | succ fuel ih =>
      rw [optionsUpTo] at ran
      split at ran
      · rename_i ended
        cases ran
        rw [(steps.atEnd_iff started).1 ended]
        exact ⟨[], [], .nil, .nil, by simpa using distinct, rfl⟩
      split at ran
      · rename_i keyword draft feed read
        rcases steps.sound started names read with
          ⟨setting, taken, gap, more, ahead, sets, comma, names', absent, rfl, rfl, started'⟩
        have behind := Feed.skip_ahead_of_append ahead
        have shorter : more.length ≤ fuel := by
          rw [ahead] at enough
          exact Nat.le_of_lt_succ
            (Nat.lt_of_lt_of_le (length_lt_of_firstKind? (steps.starts sets)) enough)
        have distinct' : (kinds ++ [setting.kind]).Nodup := by
          rw [List.nodup_append]
          refine ⟨distinct, List.pairwise_singleton _ _, ?_⟩
          rintro kind member _ (_ | ⟨_, ⟨⟩⟩) rfl
          exact absent member
        rcases ih started' (by rw [behind]; exact shorter) names' distinct' ran with
          ⟨runs, settings, row, each, nodup, same⟩
        rw [behind] at row
        refine ⟨taken :: runs, setting :: settings, ?_, .cons sets each, ?_, same⟩
        · rw [ahead]
          exact .cons comma row
        · simpa using nodup
      · cases ran

/-- The loop accepts every row of options with different keywords. -/
theorem optionsUpTo_of_row (steps : grammar.Steps enabled good sets) {fuel : Nat}
    {progress : Progress S V D} {kinds : List OptionKind} {runs : List (List Token)}
    {settings : List (Setting S V D)} {tokens : List Token} (started : good progress.feed)
    (ahead : progress.feed.ahead = tokens) (enough : tokens.length ≤ fuel)
    (names : Keywords progress.keywords kinds) (row : Row runs tokens)
    (each : List.Forall₂ sets runs settings)
    (distinct : (kinds ++ settings.map Setting.kind).Nodup) :
    ∃ after, grammar.optionsUpTo enabled fuel progress = (.ok (), after) ∧
      after.draft = settings.foldl Setting.addTo progress.draft := by
  induction row generalizing fuel progress kinds settings with
  | nil =>
      cases each
      cases fuel with
      | zero => exact ⟨progress, rfl, rfl⟩
      | succ fuel =>
          rw [optionsUpTo, if_pos ((steps.atEnd_iff started).2 ahead)]
          exact ⟨progress, rfl, rfl⟩
  | @cons taken gap rest runs comma row ih =>
      rcases each with _ | ⟨sets, each⟩
      rename_i setting settings
      have starts := steps.starts sets
      cases fuel with
      | zero =>
          exact absurd (Nat.lt_of_lt_of_le (length_lt_of_firstKind? starts) enough)
            (Nat.not_lt_zero _)
      | succ fuel =>
          have absent : setting.kind ∉ kinds := by
            intro member
            exact (List.nodup_append.1 distinct).2.2 _ member _ (by simp) rfl
          have free := row.noComma (steps.starts_of_forall₂ each)
          rcases @complete _ _ _ _ _ _ _ steps _ _ progress.draft _ _ _ _ _ started names ahead sets
            comma free absent with ⟨keyword, names', read, started'⟩
          have goes : ¬ progress.feed.atEnd = true := by
            rw [steps.atEnd_iff started, ahead]
            intro nothing
            rw [List.append_assoc, List.append_eq_nil_iff] at nothing
            cases nothing.1 ▸ starts
          have shorter :=
            Nat.le_of_lt_succ (Nat.lt_of_lt_of_le (length_lt_of_firstKind? starts) enough)
          rw [optionsUpTo, if_neg goes, read]
          exact ih started' (Feed.skip_ahead_of_append ahead) shorter names' each
            (by simpa using distinct)

/-- Options are accepted exactly if they are a row of options with different
keywords, and give what these say together. -/
theorem options_iff (steps : grammar.Steps enabled good sets) {feed : Feed} (started : good feed)
    {draft : Draft S V D} :
    (∃ after, grammar.options enabled feed = (.ok (), after) ∧ after.draft = draft) ↔
      ∃ runs settings, Row runs feed.ahead ∧ List.Forall₂ sets runs settings ∧
        (settings.map Setting.kind).Nodup ∧ draft = Setting.draft settings := by
  constructor
  · rintro ⟨after, ran, rfl⟩
    have start : good ({ feed } : Progress S V D).feed := started
    rcases steps.row_of_optionsUpTo start (Nat.le_refl _) .nil .nil ran with
      ⟨runs, settings, row, each, distinct, same⟩
    exact ⟨runs, settings, row, each, distinct, same⟩
  · rintro ⟨runs, settings, row, each, distinct, rfl⟩
    exact steps.optionsUpTo_of_row started rfl (Nat.le_refl _) .nil row each distinct

end Steps

end Grammar

end GuardLang

import GuardLang.Grammar.Options
import GuardLang.Proofs.Grammar.Parts
import GuardLang.Proofs.Parser.Loops

/-!
# Grammar rules move on

Every rule of the grammar takes at least one token for what it reads, goes back never and takes
no end mark.  Names of a path, tokens of a closure's body and options of an annotation are read
in loops; for each of them stands here what one round does, and that going round ends with what
the rule gives.
-/

namespace GuardLang.Grammar

/-! ## Paths and types -/

/-- The state of a path that is being read: what it says so far, and what lies ahead. -/
structure PathState where
  read : Spanned Text
  feed : Feed

/-- A round of reading a path: a separator, if there is one, and the name behind it. -/
def segmentRound (state : PathState) : Round PathState (Except Fault (Spanned Text) × Feed) :=
  let separator := state.feed.current
  if isSeparator separator.kind then
    match (Parser.expect .identifier).run state.feed.advance.2 with
    | (.error fault, rest) => .done (.error fault, rest)
    | (.ok name, rest) =>
      .again ⟨⟨state.read.item ++ separator.value ++ name.value, state.read.span.join name.span⟩,
        rest⟩
  else .done (.ok state.read, state.feed)

theorem segmentRound_forward : Round.Forward segmentRound PathState.feed Prod.snd := by
  have expected : (Parser.expect .identifier).Progresses := .expect (by simp)
  constructor
  · intro state next last going
    unfold segmentRound at going
    dsimp only at going
    split at going
    · rename_i separator
      split at going
      · cases going
      · rename_i name rest ran
        cases going
        have onward := Feed.onward_advance last
        have eof : state.feed.current.kind ≠ .eof := by
          intro eof
          rw [eof] at separator
          cases separator
        have further := expected.forward.of_run (onward.last_eq ▸ last) ran
        exact ⟨onward.trans further,
          Nat.lt_of_lt_of_le (Feed.index_lt_advance eof) further.index_le⟩
    · cases going
  · intro state result last ended
    unfold segmentRound at ended
    dsimp only at ended
    split at ended
    · split at ended
      · rename_i fault rest ran
        cases ended
        have onward := Feed.onward_advance last
        exact onward.trans (expected.forward.of_run (onward.last_eq ▸ last) ran)
      · cases ended
    · cases ended
      exact .refl _

/-- What follows the first name of a path. -/
def pathRest (first : Token) : Parser (Spanned Text) :=
  Parser.takeBy fun feed => segments ⟨first.value, first.span⟩ (feed.window 2)

theorem path_eq : path = Parser.expect .identifier >>= pathRest :=
  rfl

/-- What reading a path comes to from a state. -/
def pathEnd (state : PathState) : Except Fault (Spanned Text) × Feed :=
  let (outcome, taken) := segments state.read (state.feed.window 2)
  (outcome, state.feed.skip taken)

theorem segments_of_not_separator (read : Spanned Text) {separator : Token} {tokens : List Token}
    (other : isSeparator separator.kind = false) :
    segments read (separator :: tokens) = (.ok read, 0) := by
  cases tokens with
  | nil => rfl
  | cons name more => simp [segments, other]

theorem pathEnd_eq {state : PathState} (last : state.feed.last.kind = .eof) :
    pathEnd state = (segmentRound state).finish pathEnd := by
  rcases state with ⟨read, feed⟩
  change feed.last.kind = .eof at last
  unfold segmentRound
  dsimp only
  split
  · rename_i separator
    cases ahead : feed.ahead with
    | nil =>
        rw [Feed.current_of_nil ahead, last] at separator
        cases separator
    | cons token rest =>
        rw [Feed.current_of_cons ahead] at separator ⊢
        have eof : token.kind ≠ .eof := by
          intro eof
          rw [eof] at separator
          cases separator
        have behind := Feed.skip_ahead_of_cons ahead
        rw [Feed.advance_of_cons ahead eof, Parser.run_expect]
        cases rest with
        | nil =>
            have mark : feed.last.kind ≠ .identifier := by simp [last]
            simp [pathEnd, Feed.window, ahead, segments, separator, Feed.current_of_nil behind,
              mark]
        | cons name more =>
            by_cases named : name.kind = .identifier
            · have further := Feed.advance_of_cons behind (by simp [named])
              simp [pathEnd, Feed.window, ahead, segments, separator, Feed.current_of_cons behind,
                named, further, Feed.skip_skip, Nat.add_comm]
            · simp [pathEnd, Feed.window, ahead, segments, separator, Feed.current_of_cons behind,
                named]
  · rename_i other
    have ends : segments read (feed.window 2) = (.ok read, 0) := by
      rcases List.head?_eq_some_iff.1 (feed.window_head? 1) with ⟨tokens, window⟩
      rw [window]
      exact segments_of_not_separator read (by simpa using other)
    simp [pathEnd, ends]

/-- Behind its first name a path is read in a loop. -/
theorem pathRest_loopsWithin {feed : Feed} (last : feed.last.kind = .eof) (first : Token) :
    LoopsWithin segmentRound (feed.ahead.length + 1) ⟨⟨first.value, first.span⟩, feed⟩
      ((pathRest first).run feed) :=
  segmentRound_forward.loopsWithin (fun _ => pathEnd) (fun last _ => pathEnd_eq last)
    ⟨⟨first.value, first.span⟩, feed⟩ last (Nat.lt_succ_self _)

theorem path_loopsWithin {feed rest : Feed} {first : Token} (last : feed.last.kind = .eof)
    (expected : (Parser.expect .identifier).run feed = (.ok first, rest)) :
    LoopsWithin segmentRound (rest.ahead.length + 1) ⟨⟨first.value, first.span⟩, rest⟩
      (path.run feed) := by
  have same : rest.last = feed.last := by
    rcases Parser.cons_of_run_expect last (by simp) expected with ⟨_, _, _, rfl⟩
    rfl
  rw [path_eq, Parser.run_bind, expected]
  exact pathRest_loopsWithin (same ▸ last) first

theorem path_progresses : path.Progresses := by
  rw [path_eq]
  refine .bind (.expect (by simp)) ?_
  intro first feed last
  exact segmentRound_forward.onward last (pathRest_loopsWithin last first)

theorem type_progresses : type.Progresses := by
  have referred (ampersand : Token) (lifetime : Text) : (reference ampersand lifetime).Progresses :=
    path_progresses.map _
  rw [type_eq]
  refine .ifAt (.behind .advance fun ampersand => .ifAt ?_ (referred ampersand [])) path_progresses
  exact .behind .advance fun lifetime => referred ampersand (lifetime.value ++ [' '])

/-! ## Functions -/

/-- The state of a closure's body that is being taken: the brackets open in it, the span of its
tokens so far, and what lies ahead. -/
structure BodyState where
  depth : Int
  span : Option Span
  feed : Feed

/-- The span of some tokens and one more. -/
def spanWith (span : Option Span) (token : Token) : Option Span :=
  match span with
  | none => some token.span
  | some span => some (span.join token.span)

/-- A round of taking a closure's body: one more token, unless it is the end or a comma outside
all brackets. -/
def bodyRound (state : BodyState) : Round BodyState (Except Fault (Option Span) × Feed) :=
  let token := state.feed.current
  if state.feed.atEnd then .done (.ok state.span, state.feed)
  else if state.depth = 0 ∧ token.kind = .comma then .done (.ok state.span, state.feed)
  else
    .again ⟨state.depth + depthChange token.kind, spanWith state.span token, state.feed.advance.2⟩

/-- A round after which the body goes on has taken the next token into it. -/
theorem bodyRound_eq_again {state next : BodyState} (going : bodyRound state = .again next) :
    state.feed.current.kind ≠ .eof ∧
      next = ⟨state.depth + depthChange state.feed.current.kind,
        spanWith state.span state.feed.current, state.feed.advance.2⟩ := by
  unfold bodyRound at going
  dsimp only at going
  split at going
  · cases going
  rename_i ended
  split at going
  · cases going
  · cases going
    exact ⟨by simpa [Feed.atEnd] using ended, rfl⟩

theorem bodyRound_forward : Round.Forward bodyRound BodyState.feed Prod.snd := by
  constructor
  · intro state next last going
    rcases bodyRound_eq_again going with ⟨eof, rfl⟩
    exact ⟨Feed.onward_advance last, Feed.index_lt_advance eof⟩
  · intro state result last ended
    unfold bodyRound at ended
    dsimp only at ended
    repeat' split at ended
    all_goals cases ended
    all_goals exact .refl _

theorem foldl_spanWith (tokens : List Token) (span : Span) :
    tokens.foldl spanWith (some span) =
      some (tokens.foldl (fun span token => span.join token.span) span) := by
  induction tokens generalizing span with
  | nil => rfl
  | cons token rest ih => exact ih _

/-- The span of a run of tokens grows token by token. -/
theorem spanOf?_eq_foldl (tokens : List Token) : spanOf? tokens = tokens.foldl spanWith none := by
  cases tokens with
  | nil => rfl
  | cons first rest => exact (foldl_spanWith rest first.span).symm

/-- What taking a closure's body comes to from a state. -/
def bodyEnd (state : BodyState) : Except Fault (Option Span) × Feed :=
  let length := bodyLength state.depth state.feed.ahead
  (.ok ((state.feed.ahead.take length).foldl spanWith state.span), state.feed.skip length)

theorem bodyEnd_eq {state : BodyState} (last : state.feed.last.kind = .eof) :
    bodyEnd state = (bodyRound state).finish bodyEnd := by
  rcases state with ⟨depth, span, feed⟩
  cases ahead : feed.ahead with
  | nil => simp [bodyEnd, bodyRound, ahead, bodyLength, Feed.atEnd_of_nil ahead last]
  | cons token rest =>
      have current := Feed.current_of_cons ahead
      by_cases eof : token.kind = .eof
      · have ended : feed.atEnd = true := by simp [Feed.atEnd, current, eof]
        simp [bodyEnd, bodyRound, ahead, bodyLength, eof, ended]
      · have going := Feed.atEnd_of_cons ahead eof
        have taken := Feed.advance_of_cons ahead eof
        by_cases comma : depth = 0 ∧ token.kind = .comma
        · simp [bodyEnd, bodyRound, ahead, bodyLength, comma, current, going]
        · simp [bodyEnd, bodyRound, ahead, bodyLength, comma, current, going, eof, taken,
            Feed.skip_skip, Nat.add_comm 1]

/-- The body of a closure is taken in a loop. -/
theorem closureBody_loopsWithin {feed : Feed} (last : feed.last.kind = .eof) :
    LoopsWithin bodyRound (feed.ahead.length + 1) ⟨0, none, feed⟩ (closureBody.run feed) := by
  have ran : closureBody.run feed = bodyEnd ⟨0, none, feed⟩ := by
    rw [closureBody, Parser.run_takeBy, bodyEnd]
    dsimp only
    rw [spanOf?_eq_foldl]
  rw [ran]
  exact bodyRound_forward.loopsWithin (fun _ => bodyEnd) (fun last _ => bodyEnd_eq last)
    ⟨0, none, feed⟩ last (Nat.lt_succ_self _)

theorem closureBody_forward : closureBody.Forward :=
  fun _ last => bodyRound_forward.onward last (closureBody_loopsWithin last)

theorem closure_progresses : closure.Progresses := by
  have ends (opening param : Token) (paramType : Option Text) :
      (closureEnd opening param paramType).Progresses := by
    refine .bind (.expect (by simp)) fun closing => closureBody_forward.bind fun body => ?_
    cases body with
    | none => exact .still fun _ => rfl
    | some body => exact .still fun _ => rfl
  rw [closure_eq]
  refine .bind (.expect (by simp)) fun opening => Parser.Progresses.forward ?_
  refine .bind (.expect (by simp)) fun param => Parser.Progresses.forward ?_
  refine .ifAt (.behind .advance fun _ => ?_) (ends opening param none)
  exact .bind type_progresses fun annotated =>
    (ends opening param (some annotated.item)).forward

theorem function_progresses : function.Progresses := by
  rw [function_eq]
  refine .ifAt (path_progresses.map _) (.ifAt closure_progresses ?_)
  exact .fails fun _ => ⟨_, rfl⟩

theorem typedFunction_progresses (expected : Text) : (typedFunction expected).Progresses := by
  refine .bind function_progresses fun reference => .bind (.still fun _ => rfl) fun bound => ?_
  exact .still fun _ => rfl

/-! ## Numbers -/

variable {α β : Type}

theorem signedLiteral_progresses : signedLiteral.Progresses := by
  have taken (sign literal : Token) : Parser.Forward (do
      if literal.kind = .eof then Parser.failAt sign.span .expectedNumberAfterMinus
      else return ⟨sign.value, literal, sign.span.join literal.span⟩ : Parser SignedLiteral) := by
    split
    · exact .still fun _ => rfl
    · exact .still fun _ => rfl
  refine .advance_bind ?_ ?_
  · intro first
    split
    · exact .still fun _ => rfl
    split
    · exact .bind .advance fun literal => taken first literal
    · exact .still fun _ => rfl
  · intro first feed eof
    rw [if_pos eof]
    exact ⟨_, _, rfl⟩

theorem number_progresses (type : LiteralType α) : (number type).Progresses := by
  refine .bind signedLiteral_progresses fun read => .bind (.still fun _ => rfl) fun feed => ?_
  dsimp only
  split
  · exact .still fun _ => rfl
  split
  · exact .still fun _ => rfl
  · exact .still fun _ => rfl

theorem assignedNumber_progresses (type : LiteralType α) : (assignedNumber type).Progresses := by
  refine .behind .advance fun token => ?_
  split
  · exact number_progresses type
  · exact .fails fun _ => ⟨_, rfl⟩

/-! ## Items -/

theorem pattern_progresses : pattern.Progresses := by
  refine .attempt_bind (.expect (by simp)) (fun literal => .still fun _ => rfl) ?_
  refine .attempt_bind path_progresses (fun constant => .still fun _ => rfl) ?_
  exact .fails fun _ => ⟨_, rfl⟩

theorem itemName_progresses (role : Role) : (itemName role).Progresses := by
  refine .ofKind .identifier (by simp) ?_ ?_
  · intro feed same
    simp [itemName, same]
  · intro feed other
    simp [itemName, other]

theorem requireEquals_forward (keyword : Token) : (requireEquals keyword).Forward :=
  .ifAt (.still fun _ => rfl) (.still fun _ => rfl)

theorem customFunction_progresses (keyword : Token) (inputType : Text) :
    (customFunction keyword inputType).Progresses := by
  refine .behind (requireEquals_forward keyword) fun _ => .behind .advance fun _ => ?_
  exact typedFunction_progresses inputType

theorem numberItem_progresses (type : LiteralType α) (keyword : Token) (item : α → β) :
    (numberItem type keyword item).Progresses :=
  .behind (requireEquals_forward keyword) fun _ => (assignedNumber_progresses type).map _

theorem functionItem_progresses (inputType : Text) (keyword : Token) (item : BoundFunction → β) :
    (functionItem inputType keyword item).Progresses :=
  (customFunction_progresses keyword inputType).map _

theorem patternItem_progresses (keyword : Token) (item : Pattern → β) :
    (patternItem keyword item).Progresses := by
  refine .behind (requireEquals_forward keyword) fun _ => .behind .advance fun _ => ?_
  exact pattern_progresses.map _

theorem stringSanitizerOf_forward (keyword : Token) (kind : Option StringSanitizerKind) :
    (stringSanitizerOf keyword kind).Forward := by
  unfold stringSanitizerOf
  split
  · exact .still fun _ => rfl
  · exact (functionItem_progresses _ keyword _).forward
  · exact .still fun _ => rfl

theorem stringValidatorOf_forward (enabled : Capabilities) (keyword : Token)
    (kind : Option StringValidatorKind) : (stringValidatorOf enabled keyword kind).Forward := by
  unfold stringValidatorOf
  split
  · exact .still fun _ => rfl
  · exact .still fun _ => rfl
  · exact (functionItem_progresses _ keyword _).forward
  · exact .bind (.still fun _ => rfl) fun _ => (patternItem_progresses keyword _).forward
  · exact (numberItem_progresses _ keyword _).forward

theorem numericSanitizerOf_forward (inputType : Text) (keyword : Token)
    (kind : Option NumericSanitizerKind) : (numericSanitizerOf inputType keyword kind).Forward := by
  unfold numericSanitizerOf
  split
  · exact .still fun _ => rfl
  · exact (functionItem_progresses inputType keyword _).forward

theorem numericValidatorOf_forward (type : LiteralType α) (known : List NumericValidatorKind)
    (keyword : Token) (kind : Option NumericValidatorKind) :
    (numericValidatorOf type known keyword kind).Forward := by
  unfold numericValidatorOf
  split
  · exact .still fun _ => rfl
  · exact .still fun _ => rfl
  · exact (functionItem_progresses _ keyword _).forward
  · exact (numberItem_progresses type keyword _).forward

theorem stringSanitizer_progresses : stringSanitizer.Progresses := by
  rw [stringSanitizer_eq]
  exact .bind (itemName_progresses _) fun keyword => stringSanitizerOf_forward keyword _

theorem stringValidator_progresses (enabled : Capabilities) :
    (stringValidator enabled).Progresses := by
  rw [stringValidator_eq]
  exact .bind (itemName_progresses _) fun keyword => stringValidatorOf_forward enabled keyword _

theorem stringDefault_progresses : stringDefault.Progresses := by
  refine .ofKind .string (by simp) ?_ ?_
  · intro feed same
    rw [stringDefault, Parser.run_bind, Parser.run_current]
    dsimp only
    rw [if_pos same]
    rfl
  · intro feed other
    simp [stringDefault, other]

theorem numericSanitizer_progresses (inputType : Text) :
    (numericSanitizer inputType).Progresses := by
  rw [numericSanitizer_eq]
  exact .bind (itemName_progresses _) fun keyword => numericSanitizerOf_forward inputType keyword _

theorem numericValidator_progresses (type : LiteralType α) (known : List NumericValidatorKind) :
    (numericValidator type known).Progresses := by
  rw [numericValidator_eq]
  exact .bind (itemName_progresses _) fun keyword => numericValidatorOf_forward type known keyword _

/-! ## Options -/

variable {S V D : Type} {grammar : Grammar S V D}

theorem optionGroup_forward (keyword : Token) : (optionGroup keyword).Forward :=
  .ifAt (Parser.group_progresses.map _).forward (.still fun _ => rfl)

/-- What stands in a group is taken from the group, not from what lies ahead. -/
theorem optionValue_forward (default : grammar.defaultValue.Forward) (enabled : Capabilities)
    (keyword : Token) (draft : Draft S V D) :
    (optionValue grammar enabled keyword draft).Forward := by
  unfold optionValue
  split
  · exact .bind (optionGroup_forward keyword) fun _ => .bind (.still fun _ => rfl) fun _ =>
      .still fun _ => rfl
  · exact .bind (optionGroup_forward keyword) fun _ => .bind (.still fun _ => rfl) fun _ =>
      .still fun _ => rfl
  · exact .bind (Parser.Progresses.expect (by simp)).forward fun _ => .bind default fun _ =>
      .still fun _ => rfl
  · exact .bind (.still fun _ => rfl) fun _ => .still fun _ => rfl
  · exact .still fun _ => rfl

theorem skipComma_forward : skipComma.Forward :=
  .ifAt (.bind .advance fun _ => .still fun _ => rfl) (.still fun _ => rfl)

theorem option_progresses (default : grammar.defaultValue.Forward) (enabled : Capabilities)
    (seen : List Token) (draft : Draft S V D) :
    (option grammar enabled seen draft).Progresses := by
  refine .advance_bind ?_ ?_
  · intro keyword
    split
    · exact .still fun _ => rfl
    split
    · exact .still fun _ => rfl
    · exact .bind (optionValue_forward default enabled keyword draft) fun _ =>
        .bind skipComma_forward fun _ => .still fun _ => rfl
  · intro keyword feed eof
    rw [if_pos (by simp [eof])]
    exact ⟨_, _, rfl⟩

/-- A round of reading options: one more option, unless the end is reached. -/
def optionRound (grammar : Grammar S V D) (enabled : Capabilities) (progress : Progress S V D) :
    Round (Progress S V D) (Except Fault Unit × Progress S V D) :=
  if progress.feed.atEnd then .done (.ok (), progress)
  else
    match (option grammar enabled progress.keywords progress.draft).run progress.feed with
    | (.ok (keyword, draft), feed) => .again ⟨feed, progress.keywords ++ [keyword], draft⟩
    | (.error fault, feed) => .done (.error fault, { progress with feed })

theorem optionRound_forward (default : grammar.defaultValue.Forward) (enabled : Capabilities) :
    Round.Forward (optionRound grammar enabled) Progress.feed (·.2.feed) := by
  constructor
  · intro progress next last going
    have progresses := option_progresses default enabled progress.keywords progress.draft
    unfold optionRound at going
    split at going
    · cases going
    split at going
    · rename_i keyword draft feed ran
      cases going
      exact ⟨progresses.forward.of_run last ran, progresses.index_lt last ran⟩
    · cases going
  · intro progress result last ended
    have progresses := option_progresses default enabled progress.keywords progress.draft
    unfold optionRound at ended
    split at ended
    · cases ended
      exact .refl _
    split at ended
    · cases ended
    · rename_i fault feed ran
      cases ended
      exact progresses.forward.of_run last ran

theorem optionsUpTo_succ (grammar : Grammar S V D) (enabled : Capabilities) (fuel : Nat)
    (progress : Progress S V D) :
    optionsUpTo grammar enabled (fuel + 1) progress =
      (optionRound grammar enabled progress).finish (optionsUpTo grammar enabled fuel) := by
  rw [optionsUpTo, optionRound]
  split
  · rfl
  · rcases (option grammar enabled progress.keywords progress.draft).run progress.feed with
      ⟨fault | ⟨keyword, draft⟩, feed⟩
    · rfl
    · rfl

/-- The options of an annotation are read in a loop. -/
theorem options_loopsWithin (default : grammar.defaultValue.Forward) (enabled : Capabilities)
    {feed : Feed} (last : feed.last.kind = .eof) :
    LoopsWithin (optionRound grammar enabled) (feed.ahead.length + 1) { feed }
      (grammar.options enabled feed) := by
  -- In the last round no token is left, and the loop ends without fuel.
  refine (optionRound_forward default enabled).loopsWithin
    (fun fuel => optionsUpTo grammar enabled (fuel - 1)) ?_ { feed } last (Nat.lt_succ_self _)
  intro fuel progress last enough
  cases fuel with
  | zero =>
      have ahead : progress.feed.ahead = [] := List.eq_nil_of_length_eq_zero (by omega)
      simp [optionsUpTo, optionRound, Feed.atEnd_of_nil ahead last]
  | succ fuel => exact optionsUpTo_succ grammar enabled fuel progress

end GuardLang.Grammar

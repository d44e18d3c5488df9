import GuardLang.Proofs.Grammar.Parts
import GuardLang.Proofs.Guard.Alike
import GuardLang.Proofs.Parser.InStep

/-!
# Grammar rules on feeds in step

Every rule of the grammar is steady: on feeds in step it reads the same, up to
spans and to the bodies of closures, or it fails for the same cause.  The body
of a closure is cut out of the source, from the first to the last token of the
run that ends the closure.  On the two sides these runs correspond
(`Alignment.Bodies`).
-/

namespace GuardLang

namespace Nested

/-- What follows tokens that are no brackets is nested. -/
theorem drop_of_isPlain {tokens : List Token} (nested : Nested tokens) {n : Nat}
    (plain : ∀ token ∈ tokens.take n, token.kind.isPlain = true) : Nested (tokens.drop n) := by
  induction n generalizing tokens with
  | zero => exact nested
  | succ n ih =>
      cases tokens with
      | nil => exact .nil
      | cons token tokens =>
          rw [List.drop_succ_cons]
          refine ih (nested.tail_of_isPlain (plain token (by simp))) ?_
          intro other member
          exact plain other (by simp [member])

end Nested

namespace Grammar

/-! ## Bodies of closures -/

/-- Where a body ends is a matter of kinds. -/
theorem bodyLength_congr {tokens others : List Token}
    (same : others.map Token.kind = tokens.map Token.kind) (depth : Int) :
    bodyLength depth others = bodyLength depth tokens := by
  induction tokens generalizing others depth with
  | nil => rw [List.map_eq_nil_iff.1 same]
  | cons token tokens ih =>
      rcases List.map_eq_cons_iff.1 same with ⟨other, others, rfl, kind, behind⟩
      simp only [bodyLength, kind, ih behind]

/-- What follows a body is nested. -/
theorem nested_drop_bodyLength {tokens : List Token} (nested : Nested tokens) :
    Nested (tokens.drop (bodyLength 0 tokens)) := by
  rcases nested.exists_unbroken with ⟨body, rest, rfl, unbroken, ending⟩
  rw [bodyLength_of_unbroken unbroken ending, List.drop_left]
  exact nested.of_append unbroken.nested

/-- A body has no comma outside its brackets. -/
theorem unbroken_take_bodyLength {tokens : List Token} (nested : Nested tokens) :
    Unbroken (tokens.take (bodyLength 0 tokens)) := by
  rcases nested.exists_unbroken with ⟨body, rest, rfl, unbroken, ending⟩
  rwa [bodyLength_of_unbroken unbroken ending, List.take_left]

end Grammar

namespace Alignment

open Grammar

variable {alignment : Alignment}

/-- Corresponding tokens continue corresponding paths alike. -/
theorem segments_alike {tokens others : List Token}
    (alike : List.Forall₂ (Token.Alike alignment.near) tokens others) {read read' : Spanned Text}
    (same : read.Alike alignment.near Eq read') :
    Outcome.Alike alignment.near (Spanned.Alike alignment.near Eq) (segments read tokens).1
        (segments read' others).1 ∧
      (segments read tokens).2 = (segments read' others).2 := by
  fun_induction segments read tokens generalizing others read' with
  | case1 read separator name more isSep isName outcome taken rec ih =>
      cases alike with
      | cons first alike =>
          cases alike with
          | cons second alike =>
              have longer : Spanned.Alike alignment.near Eq
                  ⟨read.item ++ separator.value ++ name.value, read.span.join name.span⟩
                  ⟨read'.item ++ _ ++ _, read'.span.join _⟩ :=
                ⟨by rw [same.item, first.value_eq, second.value_eq],
                  alignment.near_join same.span second.span⟩
              have agree := ih alike longer
              rw [rec] at agree
              simp only [segments, ← first.kind_eq, ← second.kind_eq, isSep, isName, if_true]
              exact ⟨agree.1, congrArg (· + 2) agree.2⟩
  | case2 read separator name more isSep isName =>
      cases alike with
      | cons first alike =>
          cases alike with
          | cons second alike =>
              simp only [segments, ← first.kind_eq, ← second.kind_eq, isSep, isName, if_true,
                if_false, ← second.found_eq]
              exact ⟨.error ⟨rfl, by simp⟩ second.span, trivial⟩
  | case3 read separator name more isSep =>
      cases alike with
      | cons first alike =>
          cases alike with
          | cons second alike =>
              simp only [segments, ← first.kind_eq, isSep, Bool.false_eq_true, if_false]
              exact ⟨.ok same, trivial⟩
  | case4 tokens _ short =>
      have short' : segments read' others = (.ok read', 0) := by
        cases alike with
        | nil => rfl
        | cons first alike =>
            cases alike with
            | nil => rfl
            | cons second alike => exact absurd rfl (short _ _ _)
      rw [short']
      exact ⟨.ok same, rfl⟩

/-- The windows of feeds in step correspond. -/
theorem InStep.window {feed other : Feed} (step : alignment.InStep feed other) (n : Nat) :
    List.Forall₂ (Token.Alike alignment.near) (feed.window n) (other.window n) := by
  rcases step.ahead with ⟨run, among, left, right⟩
  have ahead : List.Forall₂ (Token.Alike alignment.near) (run.map Prod.fst) (run.map Prod.snd) := by
    rw [List.forall₂_map_left_iff, List.forall₂_map_right_iff, List.forall₂_same]
    intro pair member
    exact alignment.alike pair (among.subset member)
  have marks : List.Forall₂ (Token.Alike alignment.near) (List.replicate n feed.last)
      (List.replicate n other.last) := by
    induction n with
    | zero => exact .nil
    | succ n ih => exact .cons step.last ih
  rw [Feed.window, Feed.window, left, right]
  exact List.rel_append ahead marks

namespace Steady

/-- To read a path is steady. -/
theorem path : alignment.Steady (Spanned.Alike alignment.near Eq) path := by
  intro feed other step
  apply Agree.bind (expect rfl feed other step)
  intro first first' feed other same step
  have start : Spanned.Alike alignment.near Eq ⟨first.value, first.span⟩
    ⟨first'.value, first'.span⟩ := ⟨same.value_eq, same.span⟩
  have agree := segments_alike (step.window 2) start
  rw [Parser.run_takeBy, Parser.run_takeBy, ← agree.2]
  cases outcome : segments ⟨first.value, first.span⟩ (feed.window 2) with
  | mk read taken =>
      have read_alike := agree.1
      rw [outcome] at read_alike
      generalize (segments ⟨first'.value, first'.span⟩ (other.window 2)).1 = read' at read_alike
      cases read_alike with
      | error ordinary close => exact .error ordinary close
      | ok same =>
          refine .ok same (step.skip (step.nested.drop_of_isPlain ?_))
          intro token member
          refine isPlain_of_segments outcome token ?_
          rw [Feed.window, List.take_append]
          exact List.mem_append_left _ member

/-- To read what an ampersand refers to is steady. -/
theorem reference {ampersand ampersand' : Token} (lifetime : Text)
    (close : alignment.near ampersand.span ampersand'.span) {feed other : Feed}
    (step : alignment.InStep feed other) :
    alignment.Agree (Spanned.Alike alignment.near Eq) ((reference ampersand lifetime).run feed)
      ((reference ampersand' lifetime).run other) := by
  apply Agree.bind (path feed other step)
  intro referent referent' feed other same step
  exact .pure ⟨by rw [same.item], alignment.near_join close same.span⟩ step

/-- To read a type is steady. -/
theorem type : alignment.Steady (Spanned.Alike alignment.near Eq) type := by
  intro feed other step
  rw [type_eq]
  apply Agree.ifAt rfl step
  · intro ampersand ampersand' feed other same step
    apply Agree.ifAt rfl step
    · intro lifetime lifetime' feed other lifetimes step
      rw [lifetimes.value_eq]
      exact reference _ same.span step
    · exact reference _ same.span step
  · exact path feed other step

end Steady

/-! ## Functions -/

/-- The texts of a body on both sides, of the closure that stands at a span on the left
one.  The body is what stands behind the second bar, up to the end of the closure. -/
inductive Bodies (alignment : Alignment) (span : Span) : Text → Text → Prop
  | closure {opening closing : Token × Token} {params body : List (Token × Token)}
      {inner inner' : Span} : opening :: (params ++ closing :: body) <:+: alignment.pairs →
      opening.1.kind = .pipe → closing.1.kind = .pipe → Unbroken (body.map Prod.fst) →
      spanOf? (body.map Prod.fst) = some inner → spanOf? (body.map Prod.snd) = some inner' →
      span = opening.1.span.join inner →
      Bodies alignment span (inner.text alignment.left) (inner'.text alignment.right)

/-- Corresponding runs have spans near each other. -/
theorem spanOf?_rel {run : List (Token × Token)} (among : ∀ pair ∈ run, pair ∈ alignment.pairs) :
    Option.Rel alignment.near (spanOf? (run.map Prod.fst)) (spanOf? (run.map Prod.snd)) := by
  cases run with
  | nil => exact .none
  | cons pair run =>
      simp only [List.map_cons, spanOf?]
      refine .some ?_
      have first := (alignment.alike pair (among pair (by simp))).span
      generalize pair.1.span = span at first
      generalize pair.2.span = span' at first
      induction run generalizing span span' with
      | nil => exact first
      | cons next run ih =>
          have second := (alignment.alike next (among next (by simp))).span
          refine ih ?_ _ _ (alignment.near_join first second)
          intro other member
          rcases List.mem_cons.1 member with rfl | member
          · exact among other (by simp)
          · exact among other (by simp [member])

namespace Agree

variable {feed other : Feed}

/-- The body of a closure is found at corresponding runs, which are the first tokens
ahead. -/
theorem closureBody {run : List (Token × Token)} (among : run <:+: alignment.pairs)
    (left : feed.ahead = run.map Prod.fst) (right : other.ahead = run.map Prod.snd)
    (step : alignment.InStep feed other) :
    alignment.Agree
      (Option.Rel fun inner inner' => alignment.near inner inner' ∧
        ∃ body, body <+: run ∧ Unbroken (body.map Prod.fst) ∧
          spanOf? (body.map Prod.fst) = some inner ∧ spanOf? (body.map Prod.snd) = some inner')
      (closureBody.run feed) (closureBody.run other) := by
  have sameLength : bodyLength 0 other.ahead = bodyLength 0 feed.ahead := by
    rw [left, right]
    exact bodyLength_congr (alignment.map_kind_eq fun _ member => among.subset member) 0
  have leftRun : feed.ahead.take (bodyLength 0 feed.ahead) =
      (run.take (bodyLength 0 feed.ahead)).map Prod.fst := by
    rw [List.map_take, ← left]
  have rightRun : other.ahead.take (bodyLength 0 feed.ahead) =
      (run.take (bodyLength 0 feed.ahead)).map Prod.snd := by
    rw [List.map_take, ← right]
  have unbroken := unbroken_take_bodyLength step.nested
  rw [leftRun] at unbroken
  simp only [Grammar.closureBody, Parser.run_takeBy, sameLength, leftRun, rightRun]
  refine .ok ?_ (step.skip (nested_drop_bodyLength step.nested))
  have first : run.take (bodyLength 0 feed.ahead) <+: run := List.take_prefix _ run
  have spans := spanOf?_rel fun pair member => (first.isInfix.trans among).subset member
  generalize leftSpan :
    spanOf? ((run.take (bodyLength 0 feed.ahead)).map Prod.fst) = span at spans ⊢
  generalize rightSpan :
    spanOf? ((run.take (bodyLength 0 feed.ahead)).map Prod.snd) = span' at spans ⊢
  cases spans with
  | none => exact .none
  | some close => exact .some ⟨close, _, first, unbroken, leftSpan, rightSpan⟩

/-- To read the end of a closure is steady, where only tokens behind its first one are
ahead. -/
theorem closureEnd {opening : Token × Token} {run : List (Token × Token)} {param param' : Token}
    (among : opening :: run <:+: alignment.pairs) (isOpening : opening.1.kind = .pipe)
    (paramType : Option Text) (params : param.value = param'.value)
    (step : (alignment.behind among).InStep feed other) :
    (alignment.behind among).Agree (FunctionRef.Alike alignment.near alignment.Bodies)
      ((closureEnd opening.1 param paramType).run feed)
      ((closureEnd opening.2 param' paramType).run other) := by
  refine expect_bind rfl step ?_
  intro closing more feed other inside isClosing left right step
  have openings := (alignment.alike opening (among.subset List.mem_cons_self)).span
  have closings := ((alignment.behind among).alike closing (inside.subset List.mem_cons_self)).span
  apply bind (closureBody (List.infix_refl more) left right step).of_within
  intro inner inner' feed other bodies step
  rw [Parser.run_bind, Parser.run_bind, Parser.run_feed, Parser.run_feed]
  cases bodies with
  | none => exact .failAt ⟨rfl, by simp⟩ closings
  | some bodies =>
      rcases bodies with ⟨close, body, first, unbroken, leftSpan, rightSpan⟩
      refine .pure ?_ step
      rw [step.source_left, step.source_right, params]
      have ending : closing :: body <:+: run :=
        ((List.prefix_cons_inj closing).2 first).isInfix.trans inside
      rcases ending with ⟨between, after, split⟩
      have whole : opening :: (between ++ closing :: body) <:+: alignment.pairs :=
        List.IsInfix.trans ⟨[], after, by simp [← split]⟩ among
      exact ⟨rfl, rfl, rfl, rfl,
        .some (.closure whole isOpening isClosing unbroken leftSpan rightSpan rfl),
        alignment.near_join openings close⟩

end Agree

namespace Steady

/-- To read a closure is steady. -/
theorem closure :
    alignment.Steady (FunctionRef.Alike alignment.near alignment.Bodies) closure := by
  intro feed other step
  rw [closure_eq]
  refine Agree.expect_bind rfl step ?_
  intro opening run feed other among isOpening _ _ step
  -- What follows is read behind the first bar, so the body stands there as well.
  apply Agree.of_within
  apply Agree.bind (expect rfl feed other step)
  intro param param' feed other params step
  apply Agree.ifAt rfl step
  · intro _ _ feed other _ step
    apply Agree.bind (type feed other step)
    intro annotated annotated' feed other same step
    rw [same.item]
    exact .closureEnd among isOpening _ params.value_eq step
  · exact .closureEnd among isOpening none params.value_eq step

/-- To read a function is steady. -/
theorem function :
    alignment.Steady (FunctionRef.Alike alignment.near alignment.Bodies) function := by
  intro feed other step
  rw [function_eq]
  apply Agree.bind (isAt [.identifier] feed other step)
  rintro named _ feed other rfl step
  cases named with
  | true =>
      apply Agree.bind (path feed other step)
      intro named named' feed other same step
      rw [same.item]
      exact .pure ⟨rfl, rfl, rfl, rfl, .none, same.span⟩ step
  | false =>
      apply Agree.bind (isAt [.pipe] feed other step)
      rintro piped _ feed other rfl step
      cases piped with
      | true => exact closure feed other step
      | false =>
          apply Agree.bind (current feed other step)
          intro token token' feed other same step
          rw [same.found_eq]
          exact .failAt ⟨rfl, by simp⟩ same.span

/-- To read a function for a slot is steady. -/
theorem typedFunction (expected : Text) :
    alignment.Steady
      (Spanned.AlikeAt alignment.near fun span => BoundFunction.Alike (alignment.Bodies span))
      (typedFunction expected) := by
  intro feed other step
  apply Agree.bind (function feed other step)
  intro reference reference' feed other same step
  apply Agree.bind (.ofExcept (same.bind expected) step)
  intro function function' feed other functions step
  exact .pure ⟨functions, same.span⟩ step

end Steady

/-! ## Numbers -/

variable {α : Type}

/-- Corresponding literals stand for the same number. -/
theorem readLiteral_agree (type : LiteralType α) (sign : Text) {source source' : Text}
    {literal literal' : Token} {span span' : Span} {rest rest' : Feed}
    (alike : literal.Alike alignment.near literal') (close : alignment.near span span')
    (text_eq : literal.span.text source = literal'.span.text source')
    (step : literal.kind = .number → alignment.InStep rest rest') :
    alignment.Agree (Spanned.Alike alignment.near Eq)
      (readLiteral type source sign literal span, rest)
      (readLiteral type source' sign literal' span', rest') := by
  have mismatch_alike : alignment.Agree (Spanned.Alike alignment.near (@Eq α))
      (.error (mismatch type source sign literal span), rest)
      (.error (mismatch type source' sign literal' span'), rest') := by
    unfold mismatch
    rw [text_eq]
    exact .error ⟨rfl, by simp⟩ close
  unfold readLiteral
  rw [← alike.kind_eq, ← alike.value_eq]
  by_cases kind : literal.kind = .number
  · rw [if_pos kind, if_pos kind]
    split
    · exact .ok ⟨rfl, close⟩ (step kind)
    · exact mismatch_alike
  · rw [if_neg kind, if_neg kind]
    exact mismatch_alike

/-- To read a number is steady. -/
theorem Steady.number (type : LiteralType α) :
    alignment.Steady (Spanned.Alike alignment.near Eq) (number type) := by
  intro feed other step
  have behind : ∀ {token rest}, feed.ahead = token :: rest → token.kind.isPlain = true →
      alignment.InStep (feed.skip 1) (other.skip 1) := by
    intro token rest ahead plain
    refine step.skip ?_
    have nested := step.nested
    rw [ahead] at nested ⊢
    exact nested.tail_of_isPlain plain
  rcases step.cases with ⟨left, right⟩ | ⟨token, rest, token', rest', left, right, alike, eof, text⟩
  · rw [run_number_of_nil left step.last_kind, run_number_of_nil right step.last_kind_right]
    exact .error ⟨rfl, by simp⟩ step.last.span
  have eof' : token'.kind ≠ .eof := alike.kind_eq ▸ eof
  by_cases minus : token.kind = .minus
  · have minus' : token'.kind = .minus := alike.kind_eq ▸ minus
    have next := behind left (by rw [minus]; rfl)
    rcases next.cases with ⟨left', right'⟩ |
      ⟨literal, more, literal', more', left', right', alike', mark, text'⟩
    · have alone : feed.ahead = [token] := by simpa [left] using left'
      have alone' : other.ahead = [token'] := by simpa [right] using right'
      rw [run_number_of_minus alone minus step.last_kind,
        run_number_of_minus alone' minus' step.last_kind_right]
      exact .error ⟨rfl, by simp⟩ alike.span
    · have two : feed.ahead = token :: literal :: more := by simpa [left] using left'
      have two' : other.ahead = token' :: literal' :: more' := by simpa [right] using right'
      rw [run_number_of_minus_cons two minus mark,
        run_number_of_minus_cons two' minus' (alike'.kind_eq ▸ mark), ← alike.value_eq]
      refine readLiteral_agree type token.value alike'
        (alignment.near_join alike.span alike'.span) text' ?_
      intro kind
      have nested := next.nested
      rw [left'] at nested
      have past := next.skip (show Nested ((feed.skip 1).ahead.drop 1) by
        rw [left']
        exact nested.tail_of_isPlain (by rw [kind]; rfl))
      rwa [Feed.skip_skip, Feed.skip_skip] at past
  · have minus' : token'.kind ≠ .minus := alike.kind_eq ▸ minus
    rw [run_number_of_cons left eof minus, run_number_of_cons right eof' minus']
    refine readLiteral_agree type [] alike alike.span text ?_
    intro kind
    exact behind left (by rw [kind]; rfl)

/-! ## Items -/

/-- A capability that is not enabled is refused for the same cause. -/
theorem require_alike (enabled : Capabilities) (capability : Capability) {span span' : Span}
    (close : alignment.near span span') :
    Outcome.Alike alignment.near (fun _ _ => True) (enabled.require capability (some span))
      (enabled.require capability (some span')) := by
  unfold Capabilities.require
  split
  · exact .ok trivial
  · exact .error ⟨rfl, by simp⟩ close

namespace Steady

/-- To read a pattern is steady. -/
theorem pattern : alignment.Steady (Spanned.Alike alignment.near Eq) pattern := by
  intro feed other step
  apply Agree.bind (attempt (expect rfl) feed other step)
  intro literal literal' feed other literals step
  cases literals with
  | some same => exact .pure ⟨by rw [same.value_eq], same.span⟩ step
  | none =>
      apply Agree.bind (attempt path feed other step)
      intro constant constant' feed other constants step
      cases constants with
      | some same => exact .pure ⟨by rw [same.item], same.span⟩ step
      | none =>
          apply Agree.bind (current feed other step)
          intro token token' feed other same step
          rw [same.found_eq]
          exact .failAt ⟨rfl, by simp⟩ same.span

end Steady

namespace Agree

variable {feed other : Feed} {keyword keyword' : Token} {related : Span → α → α → Prop}

/-- To go on where an equals sign stands. -/
theorem requireEquals {related : α → α → Prop} {next next' : Parser α}
    (same : keyword.Alike alignment.near keyword') (step : alignment.InStep feed other)
    (found : feed.current.kind = .equals → other.current.kind = .equals →
      alignment.Agree related (next.run feed) (next'.run other)) :
    alignment.Agree related ((requireEquals keyword >>= fun _ => next).run feed)
      ((requireEquals keyword' >>= fun _ => next').run other) := by
  by_cases equals : feed.current.kind = .equals
  · have equals' : other.current.kind = .equals := step.current.kind_eq ▸ equals
    simp only [Grammar.requireEquals, Parser.run_bind, Parser.run_isAt, equals, equals']
    exact found equals equals'
  · have equals' : other.current.kind ≠ .equals := step.current.kind_eq ▸ equals
    have missing : [TokenKind.equals].contains feed.current.kind = false := by simp [equals]
    have missing' : [TokenKind.equals].contains other.current.kind = false := by simp [equals']
    simp only [Grammar.requireEquals, Parser.run_bind, Parser.run_isAt, missing, missing']
    rw [← same.value_eq]
    exact .error ⟨rfl, by simp⟩ same.span

/-- To refuse a keyword is steady. -/
theorem unknownItem {κ : Type} [Keyword κ] {related : α → α → Prop} (role : Role) (known : List κ)
    (same : keyword.Alike alignment.near keyword') :
    alignment.Agree related ((unknownItem role keyword known).run feed)
      ((unknownItem role keyword' known).run other) := by
  unfold Grammar.unknownItem
  rw [same.value_eq]
  exact .failAt ⟨rfl, by simp⟩ same.span

/-- To read the function of an item is steady. -/
theorem customFunction (inputType : Text) (same : keyword.Alike alignment.near keyword')
    (step : alignment.InStep feed other) :
    alignment.Agree
      (Spanned.AlikeAt alignment.near fun span => BoundFunction.Alike (alignment.Bodies span))
      ((customFunction keyword inputType).run feed)
      ((customFunction keyword' inputType).run other) := by
  refine requireEquals same step ?_
  intro equals _
  simp only [Parser.run_bind, Parser.run_advance]
  exact Steady.typedFunction inputType _ _ (step.advance (by rw [equals]; rfl))

/-- To read an item that is given a function is steady. -/
theorem functionItem (inputType : Text) {item : BoundFunction → α}
    (same : keyword.Alike alignment.near keyword') (step : alignment.InStep feed other)
    (items : ∀ span function function', function.Alike (alignment.Bodies span) function' →
      related span (item function) (item function')) :
    alignment.Agree (Spanned.AlikeAt alignment.near related)
      ((functionItem inputType keyword item).run feed)
      ((functionItem inputType keyword' item).run other) := by
  apply bind (customFunction inputType same step)
  intro function function' feed other functions step
  exact .pure ⟨items _ _ _ functions.item, functions.span⟩ step

/-- To read an item that is given a number is steady. -/
theorem numberItem {β : Type} (type : LiteralType β) {item : β → α}
    (same : keyword.Alike alignment.near keyword') (step : alignment.InStep feed other)
    (items : ∀ span number, related span (item number) (item number)) :
    alignment.Agree (Spanned.AlikeAt alignment.near related)
      ((numberItem type keyword item).run feed) ((numberItem type keyword' item).run other) := by
  apply requireEquals same step
  intro equals equals'
  rw [Parser.run_bind, Parser.run_bind, run_assignedNumber_of_equals equals,
    run_assignedNumber_of_equals equals', ← Parser.run_bind, ← Parser.run_bind]
  apply bind (Steady.number type _ _ (step.advance (by rw [equals]; rfl)))
  intro number number' feed other numbers step
  rw [← numbers.item]
  exact .pure ⟨items _ _, alignment.near_join same.span numbers.span⟩ step

/-- To read an item that is given a pattern is steady. -/
theorem patternItem {item : Pattern → α} (same : keyword.Alike alignment.near keyword')
    (step : alignment.InStep feed other)
    (items : ∀ span pattern, related span (item pattern) (item pattern)) :
    alignment.Agree (Spanned.AlikeAt alignment.near related)
      ((patternItem keyword item).run feed) ((patternItem keyword' item).run other) := by
  apply requireEquals same step
  intro equals _
  simp only [Parser.run_bind, Parser.run_advance]
  apply bind (Steady.pattern _ _ (step.advance (by rw [equals]; rfl)))
  intro read read' feed other patterns step
  rw [← patterns.item]
  exact .pure ⟨items _ _, alignment.near_join same.span patterns.span⟩ step

end Agree

namespace Steady

/-- To read a keyword is steady. -/
theorem itemName (role : Role) :
    alignment.Steady (Token.Alike alignment.near) (itemName role) := by
  intro feed other step
  have current := step.current
  simp only [Grammar.itemName, Parser.run_bind, Parser.run_current]
  rw [← current.kind_eq, ← current.found_eq]
  by_cases name : feed.current.kind = .identifier
  · rw [if_pos name, if_pos name, Parser.run_advance, Parser.run_advance]
    exact .ok current (step.advance (by rw [name]; rfl))
  · rw [if_neg name, if_neg name]
    exact .failAt ⟨rfl, by simp⟩ current.span

/-- To read a sanitizer of strings is steady. -/
theorem stringSanitizer :
    alignment.Steady
      (Spanned.AlikeAt alignment.near fun span => Sanitizer.Alike (alignment.Bodies span))
      stringSanitizer := by
  intro feed other step
  rw [stringSanitizer_eq]
  apply Agree.bind (itemName .sanitizer feed other step)
  intro keyword keyword' feed other same step
  rw [same.value_eq]
  unfold stringSanitizerOf
  rcases (Keyword.ofName? _ : Option StringSanitizerKind) with _ | (_ | _ | _ | _)
  · exact .unknownItem _ _ same
  · exact .pure ⟨⟨rfl, .none⟩, same.span⟩ step
  · exact .pure ⟨⟨rfl, .none⟩, same.span⟩ step
  · exact .pure ⟨⟨rfl, .none⟩, same.span⟩ step
  · exact .functionItem _ same step fun _ _ _ functions => ⟨rfl, .some functions⟩

/-- To read a sanitizer of numbers is steady. -/
theorem numericSanitizer (inputType : Text) :
    alignment.Steady
      (Spanned.AlikeAt alignment.near fun span => Sanitizer.Alike (alignment.Bodies span))
      (numericSanitizer inputType) := by
  intro feed other step
  rw [numericSanitizer_eq]
  apply Agree.bind (itemName .sanitizer feed other step)
  intro keyword keyword' feed other same step
  rw [same.value_eq]
  unfold numericSanitizerOf
  rcases (Keyword.ofName? _ : Option NumericSanitizerKind) with _ | _
  · exact .unknownItem _ _ same
  · exact .functionItem _ same step fun _ _ _ functions => ⟨rfl, .some functions⟩

/-- To read a validator of strings is steady. -/
theorem stringValidator (enabled : Capabilities) :
    alignment.Steady
      (Spanned.AlikeAt alignment.near fun span => StringValidator.Alike (alignment.Bodies span))
      (stringValidator enabled) := by
  intro feed other step
  rw [stringValidator_eq]
  apply Agree.bind (itemName .validator feed other step)
  intro keyword keyword' feed other same step
  rw [same.value_eq]
  unfold stringValidatorOf
  rcases (Keyword.ofName? _ : Option StringValidatorKind) with _ | (_ | _ | _ | _ | _)
  · exact .unknownItem _ _ same
  · exact .numberItem _ same step fun _ _ => ⟨rfl, rfl, rfl, .none⟩
  · exact .numberItem _ same step fun _ _ => ⟨rfl, rfl, rfl, .none⟩
  · exact .pure ⟨⟨rfl, rfl, rfl, .none⟩, same.span⟩ step
  · exact .functionItem _ same step fun _ _ _ functions => ⟨rfl, rfl, rfl, .some functions⟩
  · apply Agree.bind (.ofExcept (require_alike enabled .regex same.span) step)
    intro _ _ feed other _ step
    exact .patternItem same step fun _ _ => ⟨rfl, rfl, rfl, .none⟩

/-- To read a validator of numbers is steady. -/
theorem numericValidator (type : LiteralType α) (known : List NumericValidatorKind) :
    alignment.Steady
      (Spanned.AlikeAt alignment.near fun span => NumericValidator.Alike (alignment.Bodies span))
      (numericValidator type known) := by
  intro feed other step
  rw [numericValidator_eq]
  apply Agree.bind (itemName .validator feed other step)
  intro keyword keyword' feed other same step
  rw [same.value_eq]
  unfold numericValidatorOf
  rcases Keyword.find? known _ with _ | (_ | _ | _ | _ | _ | _)
  · exact .unknownItem _ _ same
  · exact .numberItem _ same step fun _ _ => ⟨rfl, rfl, .none⟩
  · exact .numberItem _ same step fun _ _ => ⟨rfl, rfl, .none⟩
  · exact .numberItem _ same step fun _ _ => ⟨rfl, rfl, .none⟩
  · exact .numberItem _ same step fun _ _ => ⟨rfl, rfl, .none⟩
  · exact .functionItem _ same step fun _ _ _ functions => ⟨rfl, rfl, .some functions⟩
  · exact .pure ⟨⟨rfl, rfl, .none⟩, same.span⟩ step

/-- To read the default value of a string type is steady. -/
theorem stringDefault : alignment.Steady (Spanned.Alike alignment.near Eq) stringDefault := by
  intro feed other step
  have current := step.current
  simp only [Grammar.stringDefault, Parser.run_bind, Parser.run_current]
  rw [← current.kind_eq, ← current.found_eq]
  by_cases string : feed.current.kind = .string
  · rw [if_pos string, if_pos string]
    simp only [Parser.run_bind, Parser.run_advance]
    exact .pure ⟨current.value_eq, current.span⟩ (step.advance (by rw [string]; rfl))
  · rw [if_neg string, if_neg string]
    exact .failAt ⟨rfl, by simp⟩ current.span

end Steady

end Alignment

end GuardLang

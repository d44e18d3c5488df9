import GuardLang.Proofs.Declaration.Located

/-!
# What a rendered fault shows

A rendered fault shows one line of the annotation and a row of carets below it.
Here the line is found without a count of lines, by the newlines on its two sides,
and what the carets stand under is cut out of the annotation by the span alone.
Both agree with what is rendered, for every located span.  Since a refused
annotation is refused at a located span, every fault shows the text it is about.

Main statement: `Declaration.render_refused`.
-/

namespace GuardLang

/-! ## The lines of a text -/

namespace Text

/-- A piece of a source is one of its lines: it is unbroken, and what stands before
and behind it is nothing or ends and begins with a newline. -/
structure LineIn (source before line after : Text) : Prop where
  source_eq : source = before ++ (line ++ after)
  opens : ∀ c ∈ before.getLast?, c = '\n'
  unbroken : '\n' ∉ line
  closes : ∀ c ∈ after.head?, c = '\n'

/-- A newline ends one line and begins the next. -/
theorem lines_append_newline (first rest : Text) :
    lines (first ++ '\n' :: rest) = lines first ++ lines rest := by
  induction first with
  | nil => simp [lines]
  | cons c first ih =>
      rw [List.cons_append, lines, lines, ih]
      split
      · rfl
      · cases ahead : lines first with
        | nil => exact absurd ahead (lines_ne_nil first)
        | cons line more => rfl

/-- There is one line more than there are newlines. -/
theorem length_lines (source : Text) : (lines source).length = source.count '\n' + 1 := by
  induction source with
  | nil => rfl
  | cons c rest ih =>
      rw [lines]
      split
      · rename_i newline
        simp [newline, ih]
      · rename_i other
        rw [List.count_cons_of_ne other, ← ih]
        cases ahead : lines rest with
        | nil => exact absurd ahead (lines_ne_nil rest)
        | cons line more => rfl

/-- A text without newlines is one line. -/
theorem lines_of_unbroken {line : Text} (unbroken : '\n' ∉ line) : lines line = [line] := by
  induction line with
  | nil => rfl
  | cons c rest ih =>
      rw [List.mem_cons, not_or] at unbroken
      rw [lines, if_neg (Ne.symm unbroken.1), ih unbroken.2]

namespace LineIn

variable {source before line after : Text}

/-- The lines of a source around one of them: before it are as many as there are
newlines. -/
theorem lines_eq (within : LineIn source before line after) :
    ∃ above below, lines source = above ++ line :: below ∧
      above.length = before.count '\n' := by
  have ahead : ∃ below, lines (line ++ after) = line :: below := by
    cases after with
    | nil => exact ⟨[], by rw [List.append_nil, lines_of_unbroken within.unbroken]⟩
    | cons c after =>
        rcases within.closes c rfl with rfl
        exact ⟨lines after, by rw [lines_append_newline, lines_of_unbroken within.unbroken]; rfl⟩
  rcases ahead with ⟨below, ahead⟩
  rcases List.eq_nil_or_concat before with rfl | ⟨above, c, rfl⟩
  · exact ⟨[], below, by rw [within.source_eq, List.nil_append, ahead]; rfl, rfl⟩
  · rw [List.concat_eq_append] at within ⊢
    rcases within.opens c (by simp) with rfl
    refine ⟨lines above, below, ?_, ?_⟩
    · rw [within.source_eq, List.append_assoc, List.singleton_append, lines_append_newline, ahead]
    · simp [length_lines]

/-- To count newlines is to find the line. -/
theorem getD_lines (within : LineIn source before line after) :
    (lines source).getD (before.count '\n') [] = line := by
  rcases within.lines_eq with ⟨above, below, lines_eq, length_eq⟩
  simp [lines_eq, ← length_eq]

end LineIn

/-- A text without newlines is all that stands up to the first one. -/
theorem takeWhile_append_of_unbroken {text rest : Text} (unbroken : '\n' ∉ text)
    (opens : ∀ c ∈ rest.head?, c = '\n') : (text ++ rest).takeWhile (· != '\n') = text := by
  apply Lexeme.takeWhile_append_of_stops
  · intro c member
    exact bne_iff_ne.2 fun newline => unbroken (newline ▸ member)
  · intro c first
    simp [opens c first]

/-- Also when the text is cut. -/
theorem takeWhile_take_of_unbroken {text rest : Text} (unbroken : '\n' ∉ text)
    (opens : ∀ c ∈ rest.head?, c = '\n') (n : Nat) :
    ((text ++ rest).take n).takeWhile (· != '\n') = text.take n := by
  rw [List.take_append]
  refine takeWhile_append_of_unbroken (fun member => unbroken (List.mem_of_mem_take member)) ?_
  intro c member
  rcases m : n - text.length with _ | m
  · simp [m] at member
  · exact opens c (by simpa [m, List.head?_take] using member)

/-- Behind the last newline of a text stands the beginning of a line. -/
theorem exists_opened (passed : Text) :
    ∃ before front, passed = before ++ front ∧ (∀ c ∈ before.getLast?, c = '\n') ∧
      '\n' ∉ front := by
  induction passed using List.reverseRecOn with
  | nil => exact ⟨[], [], rfl, by simp, by simp⟩
  | append_singleton passed c ih =>
      rcases ih with ⟨before, front, rfl, opens, unbroken⟩
      by_cases newline : c = '\n'
      · exact ⟨before ++ front ++ [c], [], by simp, by simp [newline], by simp⟩
      · exact ⟨before, front ++ [c], by simp, opens, by simp [unbroken, Ne.symm newline]⟩

/-- Around every place of a source stands a line. -/
theorem exists_lineIn (passed rest : Text) :
    ∃ before front ahead after, passed = before ++ front ∧ rest = ahead ++ after ∧
      LineIn (passed ++ rest) before (front ++ ahead) after := by
  rcases exists_opened passed with ⟨before, front, rfl, opens, unbroken⟩
  rcases Lexeme.takeWhile_split (· != '\n') rest with ⟨after, split, passes, stops⟩
  refine ⟨before, front, _, after, rfl, split, ?_, opens, ?_, ?_⟩
  · rw [List.append_assoc front, ← split, List.append_assoc]
  · intro member
    rcases List.mem_append.1 member with member | member
    · exact unbroken member
    · simpa using passes '\n' member
  · intro c first
    simpa using stops c first

/-- The line of a place is counted by the newlines before the line around it. -/
theorem lineAfter_append {before front : Text} (unbroken : '\n' ∉ front) :
    lineAfter (before ++ front) = 1 + before.count '\n' := by
  rw [lineAfter, List.count_append, List.count_eq_zero_of_not_mem unbroken, Nat.add_zero]

/-- The column of a place is counted by the characters of its line before it. -/
theorem columnAfter_append {before front : Text} (opens : ∀ c ∈ before.getLast?, c = '\n')
    (unbroken : '\n' ∉ front) : columnAfter (before ++ front) = 1 + front.length := by
  rw [columnAfter, List.reverse_append, takeWhile_append_of_unbroken, List.length_reverse]
  · rwa [List.mem_reverse]
  · rwa [List.head?_reverse]

end Text

/-! ## Spans on their lines -/

namespace Span

open Text

/-- A span on the line that it starts on: `front` stands before it there, it covers
`covered` of the line, and `behind` is the rest of the line. -/
structure OnLine (source : Text) (span : Span) (before front covered behind after : Text) :
    Prop where
  line : LineIn source before (front ++ (covered ++ behind)) after
  start_eq : span.start = before.length + front.length
  covered_eq : covered = (span.text source).takeWhile (· != '\n')

/-- Every located span starts on a line. -/
theorem Located.exists_onLine {source : Text} {span : Span} (located : span.Located source) :
    ∃ before front covered behind after, span.OnLine source before front covered behind after := by
  have start_le := Nat.le_trans located.start_le_stop located.stop_le_length
  rcases exists_lineIn (source.take span.start) (source.drop span.start) with
    ⟨before, front, ahead, after, passed, rest, within⟩
  rw [List.take_append_drop] at within
  refine ⟨before, front, ahead.take (span.stop - span.start), ahead.drop (span.stop - span.start),
    after, ?_, ?_, ?_⟩
  · rwa [List.take_append_drop]
  · have lengths := congrArg List.length passed
    rw [List.length_take, List.length_append] at lengths
    omega
  · have unbroken : '\n' ∉ ahead := fun member =>
      within.unbroken (List.mem_append_right front member)
    rw [text, slice, List.drop_take, rest, takeWhile_take_of_unbroken unbroken within.closes]

namespace OnLine

variable {source before front covered behind after : Text} {span : Span}

theorem passed (on : span.OnLine source before front covered behind after) :
    source.take span.start = before ++ front := by
  rw [on.line.source_eq, on.start_eq, List.append_assoc, ← List.append_assoc before,
    List.take_left' (by simp)]

theorem ahead (on : span.OnLine source before front covered behind after) :
    source.drop span.start = covered ++ behind ++ after := by
  rw [on.line.source_eq, on.start_eq, List.append_assoc, ← List.append_assoc before,
    List.drop_left' (by simp)]

theorem unbroken_front (on : span.OnLine source before front covered behind after) :
    '\n' ∉ front :=
  fun member => on.line.unbroken (List.mem_append_left _ member)

theorem unbroken_ahead (on : span.OnLine source before front covered behind after) :
    '\n' ∉ covered ++ behind :=
  fun member => on.line.unbroken (List.mem_append_right _ member)

section

variable (located : span.Located source)
  (on : span.OnLine source before front covered behind after)

include located on

theorem line_eq : span.line = 1 + before.count '\n' := by
  rw [located.line_eq, on.passed, lineAfter_append on.unbroken_front]

theorem column_eq : span.column = 1 + front.length := by
  rw [located.column_eq, on.passed, columnAfter_append on.line.opens on.unbroken_front]

/-- The line that is shown is the one on which the span starts. -/
theorem sourceLine_eq : span.sourceLine source = front ++ (covered ++ behind) := by
  have counted := on.line_eq located
  rw [sourceLine, if_neg (by omega), counted, Nat.add_sub_cancel_left, on.line.getD_lines]

/-- There is one caret for every character that the span covers of its line, and
one if it covers none. -/
theorem markerWidth_eq : span.markerWidth source = max 1 covered.length := by
  -- The line ends before the span does, or the span before the line: either way the shorter
  -- of the two is what is covered.
  have cut : covered = (covered ++ behind).take (span.stop - span.start) := by
    rw [← takeWhile_take_of_unbroken on.unbroken_ahead on.line.closes, ← on.ahead,
      ← List.drop_take]
    exact on.covered_eq
  have length_eq := congrArg List.length cut
  rw [List.length_take] at length_eq
  rw [markerWidth, on.sourceLine_eq located, on.column_eq located, length_eq, List.length_append]
  congr 2
  omega

/-- The carets begin below the first character of the span. -/
theorem marker_eq :
    span.marker source =
      List.replicate (span.margin.length + front.length) ' ' ++
        List.replicate (max 1 covered.length) '^' := by
  rw [marker, on.markerWidth_eq located, on.column_eq located]
  congr 2
  omega

end

end OnLine

end Span

/-! ## Whole annotations -/

/-- A refused annotation is refused with a located fault. -/
theorem Declaration.located_of_parse_error {source : Text} {family : Family}
    {enabled : Capabilities} {fault : Fault}
    (refused : (parse source family enabled).2 = .error fault) : fault.Located source := by
  cases tokenized : tokenize source with
  | error unscanned =>
      rw [parse_snd, RawDeclaration.parse_snd, tokenized] at refused
      cases refused
      exact located_of_tokenize_error tokenized
  | ok tokens =>
      rcases parse_cases tokenized family enabled with
        ⟨_, ran, _⟩ | ⟨cause, span, ran, ordinary, within⟩
      · cases ran.symm.trans refused
      · cases ran.symm.trans refused
        exact ⟨ordinary.within_general, span, rfl, within⟩

/-- A message below the place it is about.  The place is on the line
`front ++ (covered ++ behind)` with `before` in front of it.  The line is shown
behind its number, which is right-aligned in four columns, and the carets stand
below `covered`; there is one caret if that is empty. -/
def Diagnostic.pointing (origin : String) (before front covered behind : Text)
    (message : String) : String :=
  let number := 1 + before.count '\n'
  let margin := (toString number).toList.leftpad 4 ' ' ++ [' ', '|', ' ']
  "\n".intercalate
    [origin ++ ":" ++ toString number ++ ":" ++ toString (1 + front.length),
     String.ofList (margin ++ (front ++ (covered ++ behind))),
     String.ofList (List.replicate (margin.length + front.length) ' ' ++
       List.replicate (max 1 covered.length) '^'),
     message]

/-- A diagnostic at a located span points at what the span covers of the line it
starts on. -/
theorem Diagnostic.render_eq_pointing {source before front covered behind after : Text}
    {span : Span} (located : span.Located source)
    (on : span.OnLine source before front covered behind after) (category : Category)
    (message origin : String) :
    (Diagnostic.mk category message (some span)).render source origin =
      pointing origin before front covered behind message := by
  have margin_eq : span.margin =
      (toString (1 + before.count '\n')).toList.leftpad 4 ' ' ++ [' ', '|', ' '] := by
    rw [Span.margin, on.line_eq located, List.leftpad]
  have place_eq : origin ++ ":" ++ span.place =
      origin ++ ":" ++ toString (1 + before.count '\n') ++ ":" ++
        toString (1 + front.length) := by
    rw [Span.place, on.line_eq located, on.column_eq located]
    simp only [String.append_assoc]
  rw [render, pointing]
  dsimp only
  rw [place_eq, Span.snippet, on.sourceLine_eq located, on.marker_eq located, margin_eq]

/-- A refused annotation is refused at a span, and the fault, however it is
labelled, is rendered as a message that points at what the span covers of the line
it starts on. -/
theorem Declaration.render_refused {source : Text} {family : Family} {enabled : Capabilities}
    {fault : Fault} (refused : (Declaration.parse source family enabled).2 = .error fault) :
    ∃ span before front covered behind after,
      fault.span = some span ∧ span.OnLine source before front covered behind after ∧
        ∀ origin : String, fault.diagnostic.render source origin =
          Diagnostic.pointing origin before front covered behind fault.cause.message := by
  rcases (located_of_parse_error refused).span with ⟨span, span_eq, located⟩
  rcases located.exists_onLine with ⟨before, front, covered, behind, after, on⟩
  refine ⟨span, before, front, covered, behind, after, span_eq, on, ?_⟩
  intro origin
  rw [Fault.diagnostic, span_eq]
  exact Diagnostic.render_eq_pointing located on _ _ origin

/-- A string that is not closed is pointed at on its first line only. -/
theorem Declaration.render_refused_open_string :
    let source := "validate(\n \"a\nb".toList
    let fault := Fault.located .unterminatedString ⟨11, 15, 2, 2⟩
    (Declaration.parse source .string {}).2 = .error fault ∧
      ∃ span before front covered behind after,
        fault.span = some span ∧ span.OnLine source before front covered behind after ∧
          ∀ origin : String, fault.diagnostic.render source origin =
            Diagnostic.pointing origin before front covered behind fault.cause.message := by
  have refused : (Declaration.parse "validate(\n \"a\nb".toList .string {}).2 =
      .error (.located .unterminatedString ⟨11, 15, 2, 2⟩) := by
    decide +kernel
  exact ⟨refused, render_refused refused⟩

example :
    Diagnostic.pointing "f" "validate(\n".toList [' '] ['"', 'a'] [] "Unterminated string literal" =
      "f:2:2\n   2 |  \"a\n        ^^\nUnterminated string literal" := by
  decide

end GuardLang

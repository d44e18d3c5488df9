import GuardLang.Proofs.Declaration.Printed
import GuardLang.Proofs.Grammar.Items
import GuardLang.Proofs.Number.Decimal
import GuardLang.Proofs.Scanner.Scans

/-!
# Items in writing are derived

`Writes rule text value` says that a text is a way to write a value by a rule:
wherever it stands in front of a separator, it is scanned into tokens from which the
rule derives the value.

Functions, literals and items that can be written are written by what is printed for
them, and so are lists and groups of what can be written (`Writes.listed` and
`Writes.grouped`).
-/

namespace GuardLang

open Lexeme Text

/-- The text is a way to write the value by the rule. -/
def Writes {α : Type} (rule : Text → List Token → α → Prop) (text : Text) (value : α) : Prop :=
  ∀ ⦃source passed after : Text⦄, source = passed ++ (text ++ after) → after.Bounds →
    ∃ tokens, Scans (Position.start.walk passed) text after tokens ∧ rule source tokens value

/-- A rule, wherever the value it derives is placed. -/
def Rule.Unplaced {α : Type} (rule : List Token → Spanned α → Prop) (tokens : List Token)
    (value : α) : Prop :=
  ∃ span, rule tokens ⟨value, span⟩

/-! ## Names and paths -/

namespace Text

theorem isName_iff {text : Text} :
    text.isName = true ↔ ∃ c word, text = c :: word ∧ startsWord c = true ∧
      ∀ d ∈ word, continuesWord d = true := by
  cases text with
  | nil => simp [isName]
  | cons c word => simp [isName]

end Text

/-- A character that can stand in a word makes no operator with the one in front of
it. -/
theorem Lexeme.pair?_eq_none_of_continuesWord (c : Char) {d : Char}
    (passes : continuesWord d = true) : pair? c d = none := by
  have outer : ∀ pair ∈ pairOperators, continuesWord pair.2 = false := by decide
  apply pair?_eq_none
  · rintro rfl
    exact absurd passes (by decide)
  · rintro pair member rfl
    rw [outer pair member] at passes
    cases passes

namespace Scans

variable {after : Text}

/-- A name is scanned into one token. -/
theorem exists_name (place : Position) {name : Text} (named : name.isName = true)
    (ends : after.EndsWord) :
    ∃ token, Scans place name after [token] ∧ token.kind = .identifier ∧ token.value = name := by
  obtain ⟨c, word, rfl, first, passes⟩ := isName_iff.1 named
  exact exists_word place first passes ends

/-- What stands between the names of a path. -/
theorem exists_separator (place : Position) (after : Text) {separator : Text}
    (point : separator = ['.'] ∨ separator = [':', ':']) :
    ∃ token, Scans place separator after [token] ∧ Grammar.isSeparator token.kind = true ∧
      token.value = separator := by
  rcases point with rfl | rfl
  · obtain ⟨token, scans, kind, value⟩ :=
      @exists_mark after place '.' .dot rfl (by simp [pair?, pairOperators])
    exact ⟨token, scans, by rw [kind]; rfl, value⟩
  · have pair : pair? ':' ':' = some ⟨.pathSep, [':', ':']⟩ := rfl
    exact ⟨_, of_form (.pair pair), rfl, rfl⟩

/-- A path is scanned into the tokens of a path. -/
theorem exists_path (place : Position) {path : Text} (isPath : path.IsPath)
    (ends : after.EndsWord) :
    ∃ tokens, Scans place path after tokens ∧ Rule.Path tokens path := by
  induction isPath generalizing after with
  | name named =>
      obtain ⟨token, scans, kind, rfl⟩ := exists_name place named ends
      exact ⟨[token], scans, .name kind⟩
  | @segment text separator name _ point named ih =>
      have stops : EndsWord (separator ++ name ++ after) := by
        rcases point with rfl | rfl <;> exact endsWord_cons_iff.2 (by decide)
      obtain ⟨tokens, front, derived⟩ := ih stops
      obtain ⟨mark, middle, isSeparator, rfl⟩ :=
        exists_separator (place.walk text) (name ++ after) point
      obtain ⟨token, last, kind, rfl⟩ := exists_name ((place.walk text).walk mark.value) named ends
      have path := Rule.Path.segment derived (Grammar.isSeparator_iff.1 isSeparator) kind
      rw [List.append_assoc] at path
      exact ⟨_, front.append (middle.append last), path⟩

end Scans

/-! ## Functions -/

/-- What stands in front of the body of a closure, with the type of the parameter. -/
theorem Scans.exists_typed_bars (place : Position) {after param suffix : Text}
    {typing : List Token} (named : param.isName = true)
    (ends : EndsWord (suffix ++ (['|', ' '] ++ after)))
    (annotated : Scans ((place.walk ['|']).walk param) suffix (['|', ' '] ++ after) typing) :
    ∃ opening name closing, Scans place ('|' :: (param ++ (suffix ++ ['|', ' ']))) after
        (opening :: name :: (typing ++ [closing])) ∧
      opening.kind = .pipe ∧ name.kind = .identifier ∧ name.value = param ∧
      closing.kind = .pipe := by
  have letter : ∀ d ∈ (param ++ (suffix ++ ['|', ' ']) ++ after).head?, pair? '|' d = none := by
    obtain ⟨c, word, rfl, first, _⟩ := isName_iff.1 named
    rintro _ ⟨⟩
    exact pair?_eq_none_of_continuesWord _ (continuesWord_of_startsWord first)
  have blank : ∀ d ∈ ([' '] ++ after).head?, pair? '|' d = none := by
    rintro _ ⟨⟩
    decide
  rw [← List.append_assoc] at ends
  obtain ⟨opening, left, openingKind, _⟩ := exists_mark place rfl letter
  obtain ⟨name, middle, nameKind, nameValue⟩ := exists_name (place.walk ['|']) named ends
  obtain ⟨closing, right, closingKind, _⟩ :=
    exists_mark (((place.walk ['|']).walk param).walk suffix) rfl blank
  refine ⟨opening, name, closing, ?_, openingKind, nameKind, nameValue, closingKind⟩
  exact left.append (middle.append (annotated.append (right.append space)))

/-- What stands in front of the body of a closure without the type of the parameter. -/
theorem Scans.exists_bars (place : Position) (after : Text) {param : Text}
    (named : param.isName = true) :
    ∃ opening name closing, Scans place ('|' :: (param ++ ['|', ' '])) after
        [opening, name, closing] ∧
      opening.kind = .pipe ∧ name.kind = .identifier ∧ name.value = param ∧
      closing.kind = .pipe := by
  have bar : EndsWord ([] ++ (['|', ' '] ++ after)) := endsWord_cons_iff.2 (by decide)
  exact exists_typed_bars place named bar (gap (by simp [Blank]))

/-- The body of a closure is scanned into tokens that cover it. -/
theorem Text.IsBody.exists_scans {source passed body after : Text} (isBody : body.IsBody)
    (source_eq : source = passed ++ (body ++ after)) (bounds : after.Bounds) :
    ∃ tokens span, Scans (Position.start.walk passed) body after tokens ∧ Unbroken tokens ∧
      cover? tokens = some span ∧ span.text source = body := by
  obtain ⟨found, mark, tokenized, nonempty, unbroken⟩ := isBody.scanned
  obtain ⟨tokens, lexed, _, same⟩ := tokenize_eq_ok_iff.1 tokenized
  obtain ⟨rfl, _⟩ := List.append_inj' same rfl
  obtain ⟨moved, lexed, kinds⟩ := lexed.exists_moved (Position.start.walk passed)
  have present : moved ≠ [] := by
    rintro rfl
    exact nonempty (List.map_eq_nil_iff.1 kinds.symm)
  obtain ⟨span, covered, start, stop⟩ := lexed.exists_cover present isBody.head isBody.last
  refine ⟨moved, span, lexed.scans bounds, unbroken.of_map_kind_eq kinds, covered, ?_⟩
  rw [Span.text, start, stop, source_eq]
  simp [slice, List.take_append]

/-- A call with a comma and a quoted parenthesis is the body of a closure. -/
theorem Text.isBody_call : IsBody ['f', '(', 's', ',', ' ', '"', ')', '"', ')'] where
  head := by
    rintro _ ⟨⟩
    decide
  last := by
    rintro _ ⟨⟩
    decide
  scanned := by
    have tokenized : tokenize ['f', '(', 's', ',', ' ', '"', ')', '"', ')'] =
        .ok ([⟨.identifier, ['f'], ⟨0, 1, 1, 1⟩⟩, ⟨.opening .round, ['('], ⟨1, 2, 1, 2⟩⟩,
          ⟨.identifier, ['s'], ⟨2, 3, 1, 3⟩⟩, ⟨.comma, [','], ⟨3, 4, 1, 4⟩⟩,
          ⟨.string, [')'], ⟨5, 8, 1, 6⟩⟩, ⟨.closing .round, [')'], ⟨8, 9, 1, 9⟩⟩] ++
          [⟨.eof, [], ⟨9, 9, 1, 10⟩⟩]) := by
      decide +kernel
    refine ⟨_, _, tokenized, by simp, .plain rfl (by simp) ?_⟩
    exact @Unbroken.group _ _ [_, _, _] [] .round rfl rfl
      (.plain rfl (.plain rfl (.plain rfl .nil))) .nil

/-- A function that fits its slot is written as it is printed. -/
theorem BoundFunction.Fits.writes {inputType : Text} {function : BoundFunction}
    (fits : function.Fits inputType) (writable : function.Writable) :
    Writes (fun source => Rule.Unplaced (Rule.Custom source inputType)) function.printed
      function := by
  intro source passed after source_eq bounds
  cases fits with
  | @path path =>
      obtain ⟨tokens, scans, derived⟩ :=
        Scans.exists_path (Position.start.walk passed) (writable.path path rfl) bounds.endsWord
      obtain ⟨span, covered⟩ := derived.exists_cover?
      exact ⟨tokens, scans, span, .function (.path derived covered) (by simp)⟩
  | @closure param body nonempty =>
      obtain ⟨opening, name, closing, left, openingKind, nameKind, rfl, closingKind⟩ :=
        Scans.exists_bars (Position.start.walk passed) (body ++ after) (writable.param param rfl)
      have printed_eq : printed ⟨.closure, none, some name.value, some body, inputType⟩ =
          '|' :: (name.value ++ ['|', ' ']) ++ body := by
        simp [printed]
      rw [printed_eq, List.append_assoc, ← List.append_assoc] at source_eq
      obtain ⟨tokens, bodySpan, right, unbroken, covered, text_eq⟩ :=
        (writable.body body rfl).exists_scans source_eq bounds
      obtain ⟨span, whole⟩ := exists_cover?_cons opening (name :: closing :: tokens)
      have closure : Rule.Closure source _ _ :=
        .closure openingKind nameKind .none closingKind unbroken covered whole
      rw [text_eq] at closure
      refine ⟨opening :: name :: closing :: tokens, ?_, span, .function (.closure closure) (by simp)⟩
      rw [printed_eq]
      exact left.append_walk right

/-! ## Literals -/

/-- A text between quotes is spelled. -/
theorem spelled_flatMap_escaped (text : Text) : Spelled (text.flatMap escaped) text := by
  induction text with
  | nil => exact .nil
  | cons c rest ih =>
      rw [List.flatMap_cons]
      by_cases special : c = '"' ∨ c = '\\'
      · rw [escaped, if_pos special]
        apply Spelled.escape _ ih
        rcases special with rfl | rfl <;> decide
      · rw [escaped, if_neg special]
        rw [not_or] at special
        exact .plain special.1 special.2 ih

/-- Every text is scanned from between quotes. -/
theorem Scans.exists_string (place : Position) (after text : Text) :
    ∃ token, Scans place text.inQuotes after [token] ∧ token.kind = .string ∧
      token.value = text :=
  ⟨_, of_form (.string (spelled_flatMap_escaped text)), rfl, rfl⟩

/-- A string is written between quotes. -/
theorem Text.writes_stringDefault (text : Text) :
    Writes (fun _ => Rule.StringDefault) text.inQuotes text := by
  intro source passed after _ _
  obtain ⟨token, scans, kind, rfl⟩ := Scans.exists_string (Position.start.walk passed) after text
  exact ⟨[token], scans, .literal kind⟩

theorem Rule.StringDefault.exists_cover? {tokens : List Token} {text : Text}
    (derived : StringDefault tokens text) : ∃ span, cover? tokens = some span := by
  cases derived
  exact ⟨_, cover?_singleton _⟩

/-- A pattern is written as it is printed. -/
theorem Pattern.Writable.writes {pattern : Pattern} (writable : pattern.Writable) :
    Writes (fun _ => Rule.Pattern) pattern.printed pattern := by
  intro source passed after _ bounds
  cases writable with
  | @literal text =>
      obtain ⟨token, scans, kind, rfl⟩ :=
        Scans.exists_string (Position.start.walk passed) after text
      exact ⟨[token], scans, .literal kind⟩
  | path isPath =>
      obtain ⟨tokens, scans, derived⟩ :=
        Scans.exists_path (Position.start.walk passed) isPath bounds.endsWord
      exact ⟨tokens, scans, .path derived⟩

/-- A number of an integer type is written in decimal. -/
theorem IntegerType.InRange.writes {type : IntegerType} {value : Int}
    (inRange : type.InRange value) :
    Writes (fun _ => Rule.Number type.Denotes) (Quantity.printed value) value := by
  intro source passed after _ bounds
  have decimal := decimal_toDigits value.natAbs
  have form := Form.decimal decimal Nat.toDigits_ne_nil bounds
  have denotes := IntegerType.denotes_toDigits inRange
  rw [Quantity.printed, toList_written]
  split
  · rename_i negative
    rw [decide_eq_true negative] at denotes
    have digit : ∀ d ∈ (Nat.toDigits 10 value.natAbs ++ after).head?, pair? '-' d = none := by
      obtain ⟨c, digits, split⟩ :=
        List.exists_cons_of_ne_nil (@Nat.toDigits_ne_nil value.natAbs 10)
      rw [split] at decimal ⊢
      rintro _ ⟨⟩
      have passes : continuesWord c = true :=
        forall_isDigit (fun c => continuesWord c = true) (by decide)
          (decimal c List.mem_cons_self)
      exact pair?_eq_none_of_continuesWord _ passes
    obtain ⟨sign, front, kind, _⟩ :=
      Scans.exists_mark (Position.start.walk passed) rfl digit
    exact ⟨_, front.append (Scans.of_form form), .negative kind rfl denotes⟩
  · rename_i nonneg
    rw [decide_eq_false nonneg] at denotes
    exact ⟨_, Scans.of_form form, .plain rfl denotes⟩

/-- A rule whose tokens have a span writes what has that span. -/
theorem Writes.whole {α : Type} {rule : Text → List Token → α → Prop} {text : Text} {value : α}
    (writes : Writes rule text value)
    (exists_cover : ∀ {source tokens}, rule source tokens value → ∃ span, cover? tokens = some span) :
    Writes (fun source => Rule.Unplaced (Rule.Whole (rule source))) text value := by
  intro source passed after source_eq bounds
  obtain ⟨tokens, scans, derived⟩ := writes source_eq bounds
  obtain ⟨span, covered⟩ := exists_cover derived
  exact ⟨tokens, scans, span, derived, covered⟩

/-! ## Keywords -/

theorem OptionKind.isName_name (kind : OptionKind) : isName (Keyword.name kind).toList = true := by
  cases kind <;> rfl

theorem StringSanitizerKind.isName_name (kind : StringSanitizerKind) :
    isName (Keyword.name kind).toList = true := by
  cases kind <;> rfl

theorem NumericSanitizerKind.isName_name (kind : NumericSanitizerKind) :
    isName (Keyword.name kind).toList = true := by
  cases kind
  rfl

theorem StringValidatorKind.isName_name (kind : StringValidatorKind) :
    isName (Keyword.name kind).toList = true := by
  cases kind <;> rfl

theorem NumericValidatorKind.isName_name (kind : NumericValidatorKind) :
    isName (Keyword.name kind).toList = true := by
  cases kind <;> rfl

section

variable {κ : Type} [Keyword κ] [Worded κ] {kind : κ} {after : Text}

/-- A keyword that is a name is scanned as a keyword. -/
theorem Scans.exists_keyword (place : Position) (named : isName (Keyword.name kind).toList = true)
    (ends : after.EndsWord) :
    ∃ token, Scans place (Keyword.name kind).toList after [token] ∧
      Rule.Keyworded kind token := by
  obtain ⟨token, scans, identifier, value⟩ := exists_name place named ends
  exact ⟨token, scans, Rule.keyworded_iff.2 ⟨identifier, by rw [value, String.ofList_toList]⟩⟩

/-- A keyword and the sign behind it. -/
theorem Scans.exists_assigned (place : Position) (after : Text)
    (named : isName (Keyword.name kind).toList = true) :
    ∃ keyword equals, Scans place ((Keyword.name kind).toList ++ [' ', '=', ' ']) after
        [keyword, equals] ∧
      Rule.Keyworded kind keyword ∧ equals.kind = .equals := by
  have ends : EndsWord ([' ', '=', ' '] ++ after) := endsWord_cons_iff.2 (by decide)
  have blank : ∀ d ∈ ([' '] ++ after).head?, pair? '=' d = none := by
    rintro _ ⟨⟩
    decide
  obtain ⟨keyword, front, keyed⟩ := exists_keyword place named ends
  obtain ⟨equals, sign, isEquals, _⟩ :=
    exists_mark ((place.walk (Keyword.name kind).toList).walk [' ']) rfl blank
  refine ⟨keyword, equals, ?_, keyed, isEquals⟩
  exact front.append (space.append (sign.append space))

variable {α β : Type} {inner : Text → List Token → α → Prop} {rule : Text → List Token → β → Prop}
  {text : Text} {value : α} {result : β}

/-- A keyword alone. -/
theorem Writes.keyword (named : isName (Keyword.name kind).toList = true)
    (derives : ∀ {source token}, Rule.Keyworded kind token → rule source [token] result) :
    Writes rule (.keyed (Keyword.name kind) none) result := by
  intro source passed after _ bounds
  obtain ⟨token, scans, keyed⟩ :=
    Scans.exists_keyword (Position.start.walk passed) named bounds.endsWord
  exact ⟨[token], scans, derives keyed⟩

/-- A keyword with what it is given. -/
theorem Writes.assigned (named : isName (Keyword.name kind).toList = true)
    (writes : Writes inner text value)
    (derives : ∀ {source keyword equals tokens}, Rule.Keyworded kind keyword →
      equals.kind = .equals → inner source tokens value →
      rule source (keyword :: equals :: tokens) result) :
    Writes rule (.keyed (Keyword.name kind) (some text)) result := by
  intro source passed after source_eq bounds
  have keyed_eq : keyed (Keyword.name kind) (some text) =
      (Keyword.name kind).toList ++ [' ', '=', ' '] ++ text := by
    rw [Text.keyed, List.append_assoc]
  rw [keyed_eq, List.append_assoc, ← List.append_assoc] at source_eq
  rw [keyed_eq]
  obtain ⟨keyword, equals, front, keyed, isEquals⟩ :=
    Scans.exists_assigned (Position.start.walk passed) (text ++ after) named
  obtain ⟨tokens, scans, derived⟩ := writes source_eq bounds
  exact ⟨keyword :: equals :: tokens, front.append_walk scans, derives keyed isEquals derived⟩

end

/-! ## Items -/

/-- A sanitizer of strings is written as it is printed. -/
theorem StringSanitizer.writes {sanitizer : StringSanitizer}
    (fits : sanitizer.Fits .custom "String".toList)
    (writable : ∀ function ∈ sanitizer.function, function.Writable) :
    Writes (fun source => Rule.Unplaced (Rule.StringSanitizing source)) sanitizer.printed
      sanitizer := by
  cases fits with
  | @plain kind plain =>
      apply Writes.keyword kind.isName_name
      intro source token keyed
      exact ⟨_, .plain plain keyed⟩
  | custom fits =>
      apply (fits.writes (writable _ rfl)).assigned (StringSanitizerKind.isName_name .custom)
      rintro source keyword equals tokens keyed isEquals ⟨span, derived⟩
      exact ⟨_, .custom keyed isEquals derived⟩

/-- A sanitizer of numbers is written as it is printed. -/
theorem NumericSanitizer.writes {inputType : Text} {sanitizer : NumericSanitizer}
    (fits : sanitizer.Fits .custom inputType)
    (writable : ∀ function ∈ sanitizer.function, function.Writable) :
    Writes (fun source => Rule.Unplaced (Rule.NumericSanitizing source inputType))
      sanitizer.printed sanitizer := by
  cases fits with
  | @plain kind plain => exact absurd (by cases kind; rfl) plain
  | custom fits =>
      apply (fits.writes (writable _ rfl)).assigned (NumericSanitizerKind.isName_name .custom)
      rintro source keyword equals tokens keyed isEquals ⟨span, derived⟩
      exact ⟨_, .custom keyed isEquals derived⟩

/-- A validator of strings is written as it is printed. -/
theorem StringValidator.Fits.writes {enabled : Capabilities} {validator : StringValidator}
    (fits : validator.Fits enabled) (functions : ∀ function ∈ validator.function, function.Writable)
    (patterns : ∀ pattern ∈ validator.pattern, pattern.Writable) :
    Writes (fun source => Rule.Unplaced (Rule.StringValidating source enabled)) validator.printed
      validator := by
  cases fits with
  | @length kind length isLength nonneg within =>
      have inRange : IntegerType.usize.InRange length := ⟨nonneg, within⟩
      apply inRange.writes.assigned kind.isName_name
      intro source keyword equals tokens keyed isEquals derived
      obtain ⟨span, covered⟩ := exists_cover?_cons keyword (equals :: tokens)
      exact ⟨span, .length isLength keyed isEquals derived covered⟩
  | notEmpty =>
      apply Writes.keyword (StringValidatorKind.isName_name .notEmpty)
      intro source token keyed
      exact ⟨_, .notEmpty keyed⟩
  | custom fits =>
      apply (fits.writes (functions _ rfl)).assigned (StringValidatorKind.isName_name .custom)
      rintro source keyword equals tokens keyed isEquals ⟨span, derived⟩
      exact ⟨_, .custom keyed isEquals derived⟩
  | regex allowed =>
      apply (patterns _ rfl).writes.assigned (StringValidatorKind.isName_name .regex)
      intro source keyword equals tokens keyed isEquals derived
      obtain ⟨span, covered⟩ := exists_cover?_cons keyword (equals :: tokens)
      exact ⟨span, .regex allowed keyed isEquals derived covered⟩

/-- A validator of integers is written as it is printed. -/
theorem NumericValidator.Fits.writes {type : IntegerType} {validator : NumericValidator Int}
    (fits : validator.Fits type.InRange type.name.toList False)
    (writable : ∀ function ∈ validator.function, function.Writable) :
    Writes (fun source => Rule.Unplaced (Rules.ofIntegers source type).validator)
      validator.printed validator := by
  rw [type.name_eq] at fits
  cases fits with
  | @bound kind value bounds inRange =>
      have limits := Rule.mem_bounds_iff.2 bounds
      have known : kind ∈ NumericValidatorKind.ofIntegers :=
        List.mem_append_left [NumericValidatorKind.custom] limits
      apply inRange.writes.assigned kind.isName_name
      intro source keyword equals tokens keyed isEquals derived
      obtain ⟨span, covered⟩ := exists_cover?_cons keyword (equals :: tokens)
      exact ⟨span, .bound known limits keyed isEquals derived covered⟩
  | custom fits =>
      apply (fits.writes (writable _ rfl)).assigned (NumericValidatorKind.isName_name .custom)
      rintro source keyword equals tokens keyed isEquals ⟨span, derived⟩
      have known : NumericValidatorKind.custom ∈ NumericValidatorKind.ofIntegers := by decide
      exact ⟨span, .custom known keyed isEquals derived⟩
  | finite impossible => exact impossible.elim

/-! ## Lists -/

section

variable {α : Type} {rule : Text → List Token → α → Prop}

theorem commaSeparated_cons_cons (first second : Text) (rest : List Text) :
    commaSeparated (first :: second :: rest) =
      first ++ ([',', ' '] ++ commaSeparated (second :: rest)) := by
  rw [commaSeparated, List.intercalate_cons_cons, List.append_assoc]
  rfl

/-- A comma and a blank. -/
theorem Scans.exists_comma (place : Position) (after : Text) :
    ∃ comma, Scans place [',', ' '] after [comma] ∧ comma.kind = .comma := by
  have alone : ∀ d ∈ ([' '] ++ after).head?, pair? ',' d = none := by
    simp [pair?, pairOperators]
  obtain ⟨comma, scans, kind, _⟩ := exists_mark place rfl alone
  exact ⟨comma, scans.append space, kind⟩

/-- Values that can be written are written as a list with commas between them. -/
theorem Writes.listed {write : α → Text} {values : List α}
    (each : ∀ value ∈ values, Writes rule (write value) value) :
    Writes (fun source => Rule.Listed (rule source)) (commaSeparated (values.map write)) values := by
  induction values with
  | nil =>
      intro source passed after _ _
      exact ⟨[], Scans.gap (by simp [Blank, commaSeparated]), .nil⟩
  | cons value values ih =>
      intro source passed after source_eq bounds
      cases values with
      | nil =>
          have alone : commaSeparated ([value].map write) = write value := by
            simp [commaSeparated]
          rw [alone] at source_eq ⊢
          obtain ⟨tokens, scans, derived⟩ := each value (by simp) source_eq bounds
          exact ⟨tokens, scans, .last derived⟩
      | cons next values =>
          rw [List.map_cons, List.map_cons, commaSeparated_cons_cons, ← List.map_cons] at source_eq ⊢
          generalize commaSeparated ((next :: values).map write) = rest at source_eq ih ⊢
          -- The comma ends the first value, and the others stand behind the blank.
          have before : source = passed ++ (write value ++ ([',', ' '] ++ rest ++ after)) := by
            rw [source_eq, List.append_assoc]
          have behind : source =
              ((passed ++ write value) ++ [',', ' ']) ++ (rest ++ after) := by
            simp [source_eq]
          obtain ⟨tokens, first, derived⟩ :=
            each value (by simp) before (bounds_cons_iff.2 (by decide))
          obtain ⟨comma, middle, isComma⟩ :=
            Scans.exists_comma (Position.start.walk (passed ++ write value)) (rest ++ after)
          obtain ⟨others, last, listed⟩ :=
            ih (fun other member => each other (List.mem_cons_of_mem _ member)) behind bounds
          exact ⟨tokens ++ comma :: others, first.append_walk (middle.append_walk last),
            .more derived isComma listed⟩

/-- A list of items that can be written is written as a list. -/
theorem Writes.items {rule : Text → List Token → Spanned α → Prop} {write : α → Text}
    {items : List (Spanned α)}
    (each : ∀ item ∈ items,
      Writes (fun source => Rule.Unplaced (rule source)) (write item.item) item.item) :
    Writes (fun source => Rule.Listed (Rule.Unplaced (rule source)))
      (commaSeparated (items.map fun item => write item.item)) (items.map (·.item)) := by
  have mapped : (items.map fun item => write item.item) = (items.map (·.item)).map write := by
    rw [List.map_map]
    rfl
  rw [mapped]
  apply Writes.listed
  intro value member
  obtain ⟨item, found, rfl⟩ := List.mem_map.1 member
  exact each item found

end

/-! ## Groups -/

/-- A keyword and the parenthesis behind it. -/
theorem Scans.exists_opened (place : Position) (after : Text) (kind : OptionKind) :
    ∃ keyword opener, Scans place ((Keyword.name kind).toList ++ ['(']) after [keyword, opener] ∧
      Rule.Keyworded kind keyword ∧ opener.kind = .opening .round := by
  have round : EndsWord (['('] ++ after) := endsWord_cons_iff.2 (by decide)
  obtain ⟨keyword, front, keyed⟩ := exists_keyword place kind.isName_name round
  obtain ⟨opener, mark, opening, _⟩ :=
    @exists_mark after (place.walk (Keyword.name kind).toList) '(' _ rfl
      (by simp [pair?, pairOperators])
  exact ⟨keyword, opener, front.append mark, keyed, opening⟩

/-- A keyword with a group of items. -/
theorem Writes.grouped {α β : Type} {inner : Text → List Token → α → Prop}
    {rule : Text → List Token → β → Prop} {items : List Text} {values : α} {result : β}
    {kind : OptionKind} (writes : Writes inner (commaSeparated items) values)
    (derives : ∀ {source keyword opener tokens closer}, Rule.Keyworded kind keyword →
      opener.kind = .opening .round → inner source tokens values →
      closer.kind = .closing .round →
      rule source (keyword :: opener :: (tokens ++ [closer])) result) :
    Writes rule (.grouped (Keyword.name kind) items) result := by
  intro source passed after source_eq bounds
  have grouped_eq : Text.grouped (Keyword.name kind) items =
      (Keyword.name kind).toList ++ ['('] ++ (commaSeparated items ++ [')']) := by
    simp [Text.grouped]
  rw [grouped_eq, List.append_assoc, ← List.append_assoc passed, List.append_assoc _ [')']]
    at source_eq
  rw [grouped_eq]
  obtain ⟨keyword, opener, front, keyed, opening⟩ :=
    Scans.exists_opened (Position.start.walk passed)
      (commaSeparated items ++ [')'] ++ after) kind
  obtain ⟨tokens, middle, derived⟩ := writes source_eq (bounds_cons_iff.2 (by decide))
  obtain ⟨closer, last, closing, _⟩ :=
    @Scans.exists_mark after (Position.start.walk
      (passed ++ ((Keyword.name kind).toList ++ ['(']) ++ commaSeparated items)) ')' _ rfl
      (by simp [pair?, pairOperators])
  exact ⟨_, front.append_walk (middle.append_walk last), derives keyed opening derived closing⟩

end GuardLang

import GuardLang.Proofs.Declaration.Derivation
import GuardLang.Proofs.Grammar.Writes
import GuardLang.Proofs.Scanner.Slice

/-!
# Functions read from their own writing

A function, a path or a type that has been read is written out and read again.  Names and
separators are the text they were read from, so a path or a type is scanned as it was.  The
body of a closure is a slice of the source.  Behind the bars of the closure it stands in
front of the end of the text, where it gives the same tokens as in the source
(`Lexed.exists_slice_at`).

Main statement: `readsBack_of_tokenize`.
-/

namespace GuardLang

open Lexeme Text

/-! ## The text of names and separators -/

namespace Lexeme

/-- A single mark is no name, and no separator but the point. -/
theorem kind_of_single? {c : Char} {symbol : Lexeme} (single : single? c = some symbol) :
    symbol.kind ≠ .identifier ∧ symbol.kind ≠ .lifetime ∧
      (Grammar.isSeparator symbol.kind = true → symbol.value = ['.']) := by
  rcases single?_cases single with ⟨kind, mark, rfl⟩ | ⟨_, rfl⟩
  · unfold markKind? at mark
    split at mark <;> cases mark <;> simp [Grammar.isSeparator]
  · simp [Grammar.isSeparator]

/-- A pair of marks is no name, and no separator but the two colons. -/
theorem kind_of_pair? {c d : Char} {symbol : Lexeme} (pair : pair? c d = some symbol) :
    symbol.kind ≠ .identifier ∧ symbol.kind ≠ .lifetime ∧
      (Grammar.isSeparator symbol.kind = true → symbol.value = [':', ':']) := by
  rcases pair?_cases pair with ⟨rfl, rfl, rfl⟩ | ⟨_, rfl⟩
  · simp
  · simp [Grammar.isSeparator]

end Lexeme

namespace Token.Stands

variable {source : Text} {token : Token}

theorem isName (stands : token.Stands source) (identifier : token.kind = .identifier) :
    token.value.isName = true := by
  rcases stands with ⟨_, _, _, lexeme, _, form, rfl⟩
  change lexeme.kind = .identifier at identifier
  change lexeme.value.isName = true
  cases form with
  | word first passes _ _ => exact isName_iff.2 ⟨_, _, rfl, first, passes⟩
  | pair pair => exact absurd identifier (kind_of_pair? pair).1
  | single single _ => exact absurd identifier (kind_of_single? single).1
  | _ => cases identifier

theorem exists_name (stands : token.Stands source) (lifetime : token.kind = .lifetime) :
    ∃ name : Text, token.value = '\x27' :: name ∧ name.isName = true := by
  rcases stands with ⟨_, _, _, lexeme, _, form, rfl⟩
  change lexeme.kind = .lifetime at lifetime
  change ∃ name : Text, lexeme.value = _ ∧ _
  cases form with
  | lifetime first passes _ _ => exact ⟨_, rfl, isName_iff.2 ⟨_, _, rfl, first, passes⟩⟩
  | pair pair => exact absurd lifetime (kind_of_pair? pair).2.1
  | single single _ => exact absurd lifetime (kind_of_single? single).2.1
  | _ => cases lifetime

theorem separator (stands : token.Stands source)
    (separates : Grammar.isSeparator token.kind = true) :
    token.value = ['.'] ∨ token.value = [':', ':'] := by
  rcases stands with ⟨_, _, _, lexeme, _, form, rfl⟩
  change Grammar.isSeparator lexeme.kind = true at separates
  change lexeme.value = _ ∨ lexeme.value = _
  cases form with
  | pair pair => exact .inr ((kind_of_pair? pair).2.2 separates)
  | single single _ => exact .inl ((kind_of_single? single).2.2 separates)
  | _ => cases separates

end Token.Stands

/-! ## Paths and types in writing -/

/-- The way to write a type: a path, or a reference to one with or without a lifetime. -/
inductive Text.IsType : Text → Prop
  | path {path : Text} : path.IsPath → IsType path
  | reference {path : Text} : path.IsPath → IsType ('&' :: path)
  | lifetime {name path : Text} : name.isName = true → path.IsPath →
      IsType ('&' :: ('\x27' :: name ++ ' ' :: path))

/-- A path begins with a letter or an underscore. -/
theorem Text.IsPath.exists_cons {path : Text} (isPath : path.IsPath) :
    ∃ c rest, path = c :: rest ∧ startsWord c = true := by
  induction isPath with
  | name named =>
      obtain ⟨c, word, rfl, first, _⟩ := isName_iff.1 named
      exact ⟨c, word, rfl, first⟩
  | segment _ _ _ ih =>
      obtain ⟨c, rest, rfl, first⟩ := ih
      exact ⟨c, _, rfl, first⟩

theorem Text.IsType.ne_nil {type : Text} (isType : type.IsType) : type ≠ [] := by
  cases isType with
  | path isPath =>
      obtain ⟨c, rest, rfl, _⟩ := isPath.exists_cons
      simp
  | _ => simp

namespace Rule

variable {source : Text} {tokens : List Token} {text : Text}

theorem Path.isPath (path : Path tokens text) (stand : ∀ token ∈ tokens, token.Stands source) :
    text.IsPath := by
  induction path with
  | @name name identifier => exact .name ((stand name (by simp)).isName identifier)
  | @segment tokens text separator name _ separates identifier ih =>
      have front := ih fun token member => stand token (by simp [member])
      rw [List.append_assoc]
      exact .segment front
        ((stand separator (by simp)).separator (Grammar.isSeparator_iff.2 separates))
        ((stand name (by simp)).isName identifier)

theorem TypeName.isType (type : TypeName tokens text)
    (stand : ∀ token ∈ tokens, token.Stands source) : text.IsType := by
  cases type with
  | path path => exact .path (path.isPath stand)
  | reference _ path =>
      exact .reference (path.isPath fun token member => stand token (by simp [member]))
  | @lifetime _ lifetime rest text _ isLifetime path =>
      have isPath := path.isPath fun token member => stand token (by simp [member])
      rcases (stand lifetime (by simp)).exists_name isLifetime with ⟨name, value, named⟩
      have written := IsType.lifetime named isPath
      simpa [value] using written

end Rule

namespace Scans

variable {after : Text}

/-- A lifetime in front of a blank. -/
theorem exists_lifetime (place : Position) {name : Text} (named : name.isName = true)
    (after : Text) :
    ∃ token, Scans place ('\x27' :: name) (' ' :: after) [token] ∧ token.kind = .lifetime ∧
      token.value = '\x27' :: name := by
  obtain ⟨c, word, rfl, first, passes⟩ := isName_iff.1 named
  have stops : ∀ d ∈ (' ' :: after).head?, continuesWord d = false := by
    rintro _ ⟨⟩
    decide
  have apart : word = [] → ∀ d ∈ (' ' :: after).head?, d ≠ '\x27' := by
    rintro _ _ ⟨⟩
    decide
  exact ⟨_, of_form (.lifetime first passes stops apart), rfl, rfl⟩

/-- A type is scanned into the tokens of a type. -/
theorem exists_type (place : Position) {type : Text} (isType : type.IsType)
    (ends : after.EndsWord) :
    ∃ tokens, Scans place type after tokens ∧ Rule.TypeName tokens type := by
  cases isType with
  | path isPath =>
      obtain ⟨tokens, scans, path⟩ := exists_path place isPath ends
      exact ⟨tokens, scans, .path path⟩
  | @reference path isPath =>
      have letter : ∀ d ∈ (path ++ after).head?, pair? '&' d = none := by
        obtain ⟨c, rest, rfl, first⟩ := isPath.exists_cons
        rintro _ ⟨⟩
        exact pair?_eq_none_of_continuesWord _ (continuesWord_of_startsWord first)
      obtain ⟨ampersand, left, isAmpersand, _⟩ := exists_mark place rfl letter
      obtain ⟨tokens, scans, path⟩ := exists_path (place.walk ['&']) isPath ends
      exact ⟨ampersand :: tokens, left.append scans, .reference isAmpersand path⟩
  | @lifetime name path named isPath =>
      have quote : ∀ d ∈ ('\x27' :: name ++ ' ' :: path ++ after).head?, pair? '&' d = none := by
        rintro _ ⟨⟩
        decide
      obtain ⟨ampersand, left, isAmpersand, _⟩ := exists_mark place rfl quote
      obtain ⟨lifetime, middle, isLifetime, value⟩ :=
        exists_lifetime (place.walk ['&']) named (path ++ after)
      obtain ⟨tokens, right, derived⟩ :=
        exists_path (((place.walk ['&']).walk ('\x27' :: name)).walk [' ']) isPath ends
      have type := Rule.TypeName.lifetime isAmpersand isLifetime derived
      rw [value] at type
      have behind := middle.append (Scans.append space right)
      exact ⟨ampersand :: lifetime :: tokens, left.append behind, by simpa using type⟩

end Scans

/-! ## Reading a whole text -/

/-- The parser reads the whole text, and gives the value. -/
def Parser.ReadsBack {α : Type} (parser : Parser α) (text : Text) (value : α) : Prop :=
  ∃ stream rest, tokenize text = .ok stream ∧
    parser.run (.ofTokens stream text) = (.ok value, rest) ∧ rest.ahead = []

/-- What a rule derives from the tokens of a text is read back from the text. -/
theorem Parser.Reads.readsBack {α : Type} {parser : Parser α} {text : Text}
    {rule : List Token → α → Prop} {stop : List Token → Prop} {tokens : List Token} {value : α}
    (reads : parser.Reads text rule stop) (stops : stop []) (lexed : Lexed .start text tokens)
    (derived : rule tokens value) : parser.ReadsBack text value := by
  have tokenized := tokenize_eq_ok_iff.2 ⟨tokens, lexed, reads.nested derived, rfl⟩
  have ahead : (Feed.ofTokens (tokens ++ [Scanner.endMark (Position.start.walk text)]) text).ahead =
      tokens ++ [] := by
    rw [Feed.ofTokens_ahead, List.append_nil]
  exact ⟨_, _, tokenized, reads.complete (tidy_of_tokenize tokenized).1 ahead derived stops,
    Feed.skip_ahead_of_append ahead⟩

theorem Text.IsPath.readsBack {path : Text} (isPath : path.IsPath) :
    ∃ span, Grammar.path.ReadsBack path ⟨path, span⟩ := by
  obtain ⟨tokens, scans, derived⟩ := Scans.exists_path .start isPath bounds_nil.endsWord
  obtain ⟨span, covered⟩ := derived.exists_cover?
  exact ⟨span, Grammar.path_reads.readsBack itemEnd_nil.pathEnd scans.lexed ⟨derived, covered⟩⟩

theorem Text.IsType.readsBack {type : Text} (isType : type.IsType) :
    ∃ span, Grammar.type.ReadsBack type ⟨type, span⟩ := by
  obtain ⟨tokens, scans, derived⟩ := Scans.exists_type .start isType bounds_nil.endsWord
  obtain ⟨span, covered⟩ := derived.exists_cover?
  exact ⟨span, Grammar.type_reads.readsBack itemEnd_nil.pathEnd scans.lexed ⟨derived, covered⟩⟩

/-! ## Closures -/

namespace FunctionRef

variable {function : FunctionRef}

theorem typeSuffix_of_some {type : Text} (typed : function.paramType = some type)
    (nonempty : type ≠ []) : function.typeSuffix = ':' :: ' ' :: type := by
  unfold typeSuffix
  rw [typed]
  split <;> simp_all

/-- A word ends in front of the type of a parameter, and in front of a bar if there is
none. -/
theorem endsWord_typeSuffix (function : FunctionRef) (after : Text) :
    EndsWord (function.typeSuffix ++ (['|', ' '] ++ after)) := by
  unfold typeSuffix
  split
  · exact endsWord_cons_iff.2 (by decide)
  · exact endsWord_cons_iff.2 (by decide)
  · exact endsWord_cons_iff.2 (by decide)

/-- The type of a parameter is scanned as it is written. -/
theorem exists_typing (place : Position) {after : Text} (ends : after.EndsWord)
    (types : ∀ type ∈ function.paramType, type.IsType) :
    ∃ tokens, Scans place function.typeSuffix after tokens ∧
      Rule.ParamType tokens function.paramType := by
  cases typed : function.paramType with
  | none =>
      have suffix : function.typeSuffix = [] := by simp [typeSuffix, typed]
      rw [suffix]
      exact ⟨[], Scans.gap (by simp [Blank]), .none⟩
  | some type =>
      have isType := types type typed
      have blank : ∀ d ∈ (' ' :: type ++ after).head?, pair? ':' d = none := by
        rintro _ ⟨⟩
        decide
      obtain ⟨colon, left, isColon, _⟩ := Scans.exists_mark place rfl blank
      obtain ⟨tokens, right, derived⟩ :=
        Scans.exists_type ((place.walk [':']).walk [' ']) isType ends
      rw [typeSuffix_of_some typed isType.ne_nil]
      exact ⟨colon :: tokens, left.append (Scans.space.append right), .typed isColon derived⟩

/-- What is written in front of the body of a closure is scanned as it is written. -/
theorem exists_bars (place : Position) (after : Text) {param : Text}
    (named : param.isName = true) (types : ∀ type ∈ function.paramType, type.IsType) :
    ∃ opening name typing closing,
      Scans place ('|' :: (param ++ (function.typeSuffix ++ ['|', ' ']))) after
        (opening :: name :: (typing ++ [closing])) ∧
      opening.kind = .pipe ∧ name.kind = .identifier ∧ name.value = param ∧
      Rule.ParamType typing function.paramType ∧ closing.kind = .pipe := by
  have bar : EndsWord (['|', ' '] ++ after) := endsWord_cons_iff.2 (by decide)
  obtain ⟨typing, scans, annotated⟩ :=
    function.exists_typing ((place.walk ['|']).walk param) bar types
  obtain ⟨opening, name, closing, scans, isOpening, isName, value, isClosing⟩ :=
    Scans.exists_typed_bars place named (function.endsWord_typeSuffix after) scans
  exact ⟨opening, name, typing, closing, scans, isOpening, isName, value, annotated, isClosing⟩

end FunctionRef

theorem map_eq_of_forall₂ {α β γ : Type} {related : α → β → Prop} {f : α → γ} {g : β → γ}
    (same : ∀ {first second}, related first second → f first = g second) {firsts : List α}
    {seconds : List β} (each : List.Forall₂ related firsts seconds) :
    firsts.map f = seconds.map g := by
  induction each with
  | nil => rfl
  | cons here _ ih => rw [List.map_cons, List.map_cons, same here, ih]

/-- What a run of tokens covers is scanned into tokens of the same kinds wherever it is put
at the end of a text, and there they cover all of it. -/
theorem Lexed.exists_moved_cover {source : Text} {tokens run : List Token} {span : Span}
    (lexed : Lexed .start source tokens) (among : run <:+: tokens)
    (covered : cover? run = some span) (passed : Text) :
    ∃ moved other, Lexed (Position.start.walk passed) (span.text source) moved ∧
      moved.map Token.kind = run.map Token.kind ∧ cover? moved = some other ∧
      other.text (passed ++ span.text source) = span.text source := by
  obtain ⟨start_le, stop_le, moved, relexed, alike⟩ :=
    lexed.exists_slice_at among covered (Position.start.walk passed)
  obtain ⟨first, last, first_eq, last_eq, rfl⟩ := cover?_eq_some_iff.1 covered
  have kinds : run.map Token.kind = moved.map Token.kind :=
    map_eq_of_forall₂ (fun alike => alike.kind_eq) alike
  have starts : run.map (fun token => token.span.start + passed.length) =
      moved.map (fun token => first.span.start + token.span.start) :=
    map_eq_of_forall₂ (fun alike => by simpa [Span.through] using alike.span.1) alike
  have stops : run.map (fun token => token.span.stop + passed.length) =
      moved.map (fun token => first.span.start + token.span.stop) :=
    map_eq_of_forall₂ (fun alike => by simpa [Span.through] using alike.span.2) alike
  have heads := congrArg List.head? starts
  have lasts := congrArg List.getLast? stops
  rw [List.head?_map, List.head?_map, first_eq, eq_comm, Option.map_some,
    Option.map_eq_some_iff] at heads
  rw [List.getLast?_map, List.getLast?_map, last_eq, eq_comm, Option.map_some,
    Option.map_eq_some_iff] at lasts
  obtain ⟨first', first'_eq, same_start⟩ := heads
  obtain ⟨last', last'_eq, same_stop⟩ := lasts
  refine ⟨moved, first'.span.through last'.span, relexed, kinds.symm,
    cover?_eq_some_iff.2 ⟨first', last', first'_eq, last'_eq, rfl⟩, ?_⟩
  have length : ((first.span.through last.span).text source).length =
      last.span.stop - first.span.start :=
    Span.length_text stop_le
  change first.span.start ≤ last.span.stop at start_le
  generalize (first.span.through last.span).text source = text at length ⊢
  have start_eq : first'.span.start = passed.length := by omega
  have stop_eq : last'.span.stop = (passed ++ text).length := by
    rw [List.length_append]
    omega
  rw [Span.text, Span.through, slice, start_eq, stop_eq, List.take_length, List.drop_left]

theorem Rule.ParamType.isType {source : Text} {tokens : List Token} {paramType : Option Text}
    (typing : ParamType tokens paramType) (stand : ∀ token ∈ tokens, token.Stands source) :
    ∀ type ∈ paramType, type.IsType := by
  cases typing with
  | none => simp
  | typed _ type =>
      rintro _ ⟨⟩
      exact type.isType fun token member => stand token (List.mem_cons_of_mem _ member)

/-- A closure is derived again from its own writing. -/
theorem Rule.Closure.exists_reread {source : Text} {found tokens : List Token}
    {function : FunctionRef} (closure : Closure source tokens function)
    (lexed : Lexed .start source found) (among : tokens <:+: found)
    (stand : ∀ token ∈ tokens, token.Stands source) :
    ∃ again span, Lexed .start function.written again ∧
      Closure function.written again { function with span } := by
  cases closure with
  | @closure opening param closing typing body paramType bodySpan span _ isParam annotated _
      unbroken covered _ =>
      generalize same : FunctionRef.mk .closure none (some param.value) paramType
        (some (bodySpan.text source)) span = function
      have written_eq : function.written =
          '|' :: (param.value ++ (function.typeSuffix ++ ['|', ' '])) ++ bodySpan.text source := by
        simp [← same, FunctionRef.written, FunctionRef.part]
      have types : ∀ type ∈ function.paramType, type.IsType := by
        rw [← same]
        exact annotated.isType fun token member => stand token (by simp [member])
      have inside : body <:+: found :=
        .trans ⟨opening :: param :: (typing ++ [closing]), [], by simp⟩ among
      obtain ⟨opening', param', typing', closing', scans, isOpening', isParam', value, annotated',
        isClosing'⟩ := function.exists_bars .start (bodySpan.text source)
          ((stand param (by simp)).isName isParam) types
      obtain ⟨body', bodySpan', relexed, kinds, covered', text_eq⟩ :=
        lexed.exists_moved_cover inside covered
          ('|' :: (param.value ++ (function.typeSuffix ++ ['|', ' '])))
      obtain ⟨span', whole⟩ :=
        exists_cover?_cons opening' (param' :: (typing' ++ closing' :: body'))
      have closure : Closure function.written _ _ := .closure isOpening' isParam' annotated'
        isClosing' (unbroken.of_map_kind_eq kinds) covered' whole
      rw [written_eq, text_eq, ← written_eq, value] at closure
      refine ⟨_, span', ?_, by rw [← same] at closure ⊢; exact closure⟩
      rw [written_eq]
      simpa using scans _ relexed

/-- A function is derived again from its own writing. -/
theorem Rule.Function.exists_reread {source : Text} {found tokens : List Token}
    {function : FunctionRef} (derived : Function source tokens function)
    (lexed : Lexed .start source found) (among : tokens <:+: found)
    (stand : ∀ token ∈ tokens, token.Stands source) :
    ∃ again span, Lexed .start function.written again ∧
      Function function.written again { function with span } := by
  cases derived with
  | path path _ =>
      obtain ⟨again, scans, derived⟩ :=
        Scans.exists_path .start (path.isPath stand) bounds_nil.endsWord
      obtain ⟨span, covered⟩ := derived.exists_cover?
      exact ⟨again, span, scans.lexed, .path derived covered⟩
  | closure closure =>
      obtain ⟨again, span, relexed, closure⟩ := closure.exists_reread lexed among stand
      exact ⟨again, span, relexed, .closure closure⟩

/-! ## What has been read -/

/-- What a parser takes from the tokens of a scan is a part of what has been found. -/
theorem Parser.Reads.exists_taken {α : Type} {parser : Parser α} {source : Text}
    {rule : List Token → α → Prop} {stop : List Token → Prop} {found : List Token} {value : α}
    {rest : Feed} (reads : parser.Reads source rule stop) (lexed : Lexed .start source found)
    (nested : Nested found)
    (ran : parser.run (.ofTokens (found ++ [Scanner.endMark (Position.start.walk source)]) source) =
      (.ok value, rest)) :
    ∃ taken, taken <:+: found ∧ (∀ token ∈ taken, token.Stands source) ∧ rule taken value := by
  have tokenized := tokenize_eq_ok_iff.2 ⟨found, lexed, nested, rfl⟩
  obtain ⟨taken, more, ahead, _, derived⟩ := reads.sound (tidy_of_tokenize tokenized).1 ran
  rw [Feed.ofTokens_ahead] at ahead
  have among : taken <:+: found := ahead ▸ (List.prefix_append taken more).isInfix
  refine ⟨taken, among, ?_, derived⟩
  intro token member
  exact lexed.stands token (among.subset member)

/-- To write a function and read it again changes nothing.  From the tokens of any scan, let
a function be read.  The text that is written for it can be scanned, and is read, up to its
end, as the same function; only the place is another one.  The same holds of the text of a
path and of the text of a type. -/
theorem readsBack_of_tokenize {source : Text} {stream : List Token}
    (tokenized : tokenize source = .ok stream) :
    (∀ function rest, Grammar.function.run (.ofTokens stream source) = (.ok function, rest) →
      ∃ span, Grammar.function.ReadsBack function.written { function with span }) ∧
    (∀ path rest, Grammar.path.run (.ofTokens stream source) = (.ok path, rest) →
      ∃ span, Grammar.path.ReadsBack path.item ⟨path.item, span⟩) ∧
    (∀ type rest, Grammar.type.run (.ofTokens stream source) = (.ok type, rest) →
      ∃ span, Grammar.type.ReadsBack type.item ⟨type.item, span⟩) := by
  obtain ⟨found, lexed, nested, rfl⟩ := tokenize_eq_ok_iff.1 tokenized
  refine ⟨?_, ?_, ?_⟩
  · intro function rest ran
    obtain ⟨taken, among, stand, derived⟩ := Grammar.function_reads.exists_taken lexed nested ran
    obtain ⟨again, span, relexed, derived⟩ := derived.exists_reread lexed among stand
    exact ⟨span, Grammar.function_reads.readsBack itemEnd_nil relexed derived⟩
  · intro path rest ran
    obtain ⟨taken, _, stand, derived, _⟩ := Grammar.path_reads.exists_taken lexed nested ran
    exact (derived.isPath stand).readsBack
  · intro type rest ran
    obtain ⟨taken, _, stand, derived, _⟩ := Grammar.type_reads.exists_taken lexed nested ran
    exact (derived.isType stand).readsBack

/-- A closure whose parameter has a type with a lifetime, and whose body has a comma in
brackets and a line break. -/
theorem readsBack_typed_closure :
    ∃ span, Grammar.function.ReadsBack "|s: &'a str| f(s,\n1.5)".toList
      { form := .closure
        param := some ['s']
        paramType := some "&'a str".toList
        body := some "f(s,\n1.5)".toList
        span } := by
  have tokenized : tokenize "| s:& 'a  str |f(s,\n1.5) , t".toList =
      .ok [⟨.pipe, ['|'], ⟨0, 1, 1, 1⟩⟩, ⟨.identifier, ['s'], ⟨2, 3, 1, 3⟩⟩,
        ⟨.colon, [':'], ⟨3, 4, 1, 4⟩⟩, ⟨.ampersand, ['&'], ⟨4, 5, 1, 5⟩⟩,
        ⟨.lifetime, "'a".toList, ⟨6, 8, 1, 7⟩⟩, ⟨.identifier, "str".toList, ⟨10, 13, 1, 11⟩⟩,
        ⟨.pipe, ['|'], ⟨14, 15, 1, 15⟩⟩, ⟨.identifier, ['f'], ⟨15, 16, 1, 16⟩⟩,
        ⟨.opening .round, ['('], ⟨16, 17, 1, 17⟩⟩, ⟨.identifier, ['s'], ⟨17, 18, 1, 18⟩⟩,
        ⟨.comma, [','], ⟨18, 19, 1, 19⟩⟩, ⟨.number, "1.5".toList, ⟨20, 23, 2, 1⟩⟩,
        ⟨.closing .round, [')'], ⟨23, 24, 2, 4⟩⟩, ⟨.comma, [','], ⟨25, 26, 2, 6⟩⟩,
        ⟨.identifier, ['t'], ⟨27, 28, 2, 8⟩⟩, .endAt ⟨28, 28, 2, 9⟩] := by
    decide +kernel
  exact (readsBack_of_tokenize tokenized).1 _ _ rfl

end GuardLang

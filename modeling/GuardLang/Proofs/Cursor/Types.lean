import GuardLang.Proofs.Cursor.Patterns
import GuardLang.Proofs.Grammar.Reprinted

/-!
# Types of parameters

A closure that gives its parameter a type is bound by comparing this type with the expected
one, without the blanks of either.  The names and marks of a type have no blanks, so only
what stands between its tokens is left out.  Between a name and a separator nothing is
needed to tell them apart.  A lifetime and the name behind it, however, run together: what
is compared are the lexemes of the two types with the lifetime glued to this name.

So two types with different lifetimes may be taken for one another, and no others.

Main statement: `FunctionRef.bind_annotated`.
-/

namespace GuardLang

open Lexeme Text

/-! ## Lexemes without blanks -/

/-- A token without its place. -/
def Token.lexeme (token : Token) : Lexeme := ⟨token.kind, token.value⟩

theorem Token.lexeme_eq {token : Token} {kind : TokenKind} (same : token.kind = kind) :
    token.lexeme = ⟨kind, token.value⟩ := by
  rw [lexeme, same]

namespace Lexeme

/-- Lexemes of which a lifetime is one with what stands behind it. -/
def glue : List Lexeme → List Lexeme
  | first :: second :: rest =>
    if first.kind = .lifetime then ⟨.lifetime, first.value ++ second.value⟩ :: glue rest
    else first :: glue (second :: rest)
  | lexemes => lexemes

theorem glue_cons {first : Lexeme} (other : first.kind ≠ .lifetime) (rest : List Lexeme) :
    glue (first :: rest) = first :: glue rest := by
  cases rest with
  | nil => rfl
  | cons second rest => rw [glue, if_neg other]

theorem glue_lifetime {lifetime : Lexeme} (isLifetime : lifetime.kind = .lifetime) (name : Lexeme)
    (rest : List Lexeme) :
    glue (lifetime :: name :: rest) = ⟨.lifetime, lifetime.value ++ name.value⟩ :: glue rest := by
  rw [glue, if_pos isLifetime]

/-- Gluing keeps the text. -/
theorem flatMap_value_glue (lexemes : List Lexeme) :
    (glue lexemes).flatMap value = lexemes.flatMap value := by
  fun_induction glue lexemes with
  | case1 first second rest _ ih => simp [ih]
  | case2 first second rest _ ih => simp [ih]
  | case3 => rfl

/-- Where there is no lifetime nothing is glued. -/
theorem glue_of_forall_ne {lexemes : List Lexeme}
    (none : ∀ lexeme ∈ lexemes, lexeme.kind ≠ .lifetime) : glue lexemes = lexemes := by
  fun_induction glue lexemes with
  | case1 first second rest lifetime => exact absurd lifetime (none first (by simp))
  | case2 first second rest _ ih =>
      rw [ih fun lexeme member => none lexeme (List.mem_cons_of_mem _ member)]
  | case3 => rfl

end Lexeme

namespace Text

theorem withoutBlanks_append (first second : Text) :
    (first ++ second).withoutBlanks = first.withoutBlanks ++ second.withoutBlanks :=
  List.filter_append ..

theorem Blank.withoutBlanks_eq {gap : Text} (blank : gap.Blank) : gap.withoutBlanks = [] := by
  rw [withoutBlanks, List.filter_eq_nil_iff]
  intro c member
  simp [blank c member]

/-- A text in which no character is blank. -/
def Visible (text : Text) : Prop := ∀ c ∈ text, isBlank c = false

theorem Visible.withoutBlanks_eq {text : Text} (visible : text.Visible) :
    text.withoutBlanks = text := by
  rw [withoutBlanks, List.filter_eq_self]
  intro c member
  simp [visible c member]

theorem forall_eq_false_of_all {p : Char → Bool} {text : Text}
    (fails : text.all (fun c => !p c) = true) : ∀ c ∈ text, p c = false := by
  simpa using fails

theorem continuesWord_of_isName {name : Text} (named : name.isName = true) :
    ∀ c ∈ name, continuesWord c = true := by
  obtain ⟨first, word, rfl, starts, passes⟩ := isName_iff.1 named
  intro c member
  rcases List.mem_cons.1 member with rfl | member
  · exact continuesWord_of_startsWord starts
  · exact passes c member

theorem ne_nil_of_isName {name : Text} (named : name.isName = true) : name ≠ [] := by
  obtain ⟨first, word, rfl, _⟩ := isName_iff.1 named
  simp

theorem visible_of_isName {name : Text} (named : name.isName = true) : name.Visible :=
  fun c member => isBlank_eq_false_of_continuesWord (continuesWord_of_isName named c member)

/-- A text is split in one way into a run of characters that pass a test and a rest that
does not begin with one. -/
theorem append_inj_of_stops {p : Char → Bool} {run run' rest rest' : Text}
    (passes : ∀ c ∈ run, p c = true) (passes' : ∀ c ∈ run', p c = true)
    (stops : ∀ c ∈ rest.head?, p c = false) (stops' : ∀ c ∈ rest'.head?, p c = false)
    (same : run ++ rest = run' ++ rest') : run = run' ∧ rest = rest' := by
  have run_eq : run = run' := by
    rw [← takeWhile_append_of_stops passes stops, same, takeWhile_append_of_stops passes' stops']
  subst run_eq
  exact ⟨rfl, List.append_cancel_left same⟩

end Text

/-- A token that is no literal, and without blanks. -/
structure Token.Bare (token : Token) : Prop where
  string : token.kind ≠ .string
  char : token.kind ≠ .char
  visible : token.value.Visible

namespace Token.Stands

variable {source : Text} {token : Token}

/-- The marks of a type stand for themselves. -/
theorem value_of_mark (stands : token.Stands source) :
    (token.kind = .ampersand → token.value = ['&']) ∧ (token.kind = .dot → token.value = ['.']) ∧
      (token.kind = .pathSep → token.value = [':', ':']) := by
  rcases stands with ⟨_, _, _, lexeme, _, form, rfl⟩
  change (lexeme.kind = _ → lexeme.value = _) ∧ (lexeme.kind = _ → lexeme.value = _) ∧
    (lexeme.kind = _ → lexeme.value = _)
  cases form with
  | pair pair => rcases pair?_cases pair with ⟨rfl, rfl, rfl⟩ | ⟨_, rfl⟩ <;> simp
  | single single _ =>
      rcases single?_cases single with ⟨_, mark, rfl⟩ | ⟨_, rfl⟩
      · unfold markKind? at mark
        split at mark <;> cases mark <;> simp
      · simp
  | _ => simp

theorem lexeme_of_ampersand (stands : token.Stands source) (ampersand : token.kind = .ampersand) :
    token.lexeme = ⟨.ampersand, ['&']⟩ := by
  rw [lexeme_eq ampersand, stands.value_of_mark.1 ampersand]

/-- A separator is a point or two colons. -/
theorem lexeme_of_separator (stands : token.Stands source)
    (separates : Grammar.isSeparator token.kind = true) :
    token.lexeme = ⟨.dot, ['.']⟩ ∨ token.lexeme = ⟨.pathSep, [':', ':']⟩ := by
  simp only [Grammar.isSeparator, Bool.or_eq_true, beq_iff_eq] at separates
  rcases separates with dot | pathSep
  · exact .inl (by rw [lexeme_eq dot, stands.value_of_mark.2.1 dot])
  · exact .inr (by rw [lexeme_eq pathSep, stands.value_of_mark.2.2 pathSep])

theorem value_ne_nil_of_separator (stands : token.Stands source)
    (separates : Grammar.isSeparator token.kind = true) : token.value ≠ [] := by
  rcases stands.separator separates with point | colons
  · simp [point]
  · simp [colons]

/-- Separators are told apart by their first character. -/
theorem separator_inj {source' rest rest' : Text} {other : Token} (stands : token.Stands source)
    (stands' : other.Stands source') (separates : Grammar.isSeparator token.kind = true)
    (separates' : Grammar.isSeparator other.kind = true)
    (same : token.value ++ rest = other.value ++ rest') :
    token.lexeme = other.lexeme ∧ rest = rest' := by
  have value_eq : token.value = token.lexeme.value := rfl
  have value_eq' : other.value = other.lexeme.value := rfl
  rw [value_eq, value_eq'] at same
  rcases stands.lexeme_of_separator separates with point | colons <;>
    rcases stands'.lexeme_of_separator separates' with point' | colons'
  · rw [point, point'] at same ⊢
    exact ⟨rfl, List.append_cancel_left same⟩
  · rw [point, colons'] at same
    cases same
  · rw [colons, point'] at same
    cases same
  · rw [colons, colons'] at same ⊢
    exact ⟨rfl, List.append_cancel_left same⟩

theorem bare_of_mark (stands : token.Stands source) (ampersand : token.kind = .ampersand) :
    token.Bare := by
  refine ⟨by simp [ampersand], by simp [ampersand], ?_⟩
  rw [stands.value_of_mark.1 ampersand]
  exact forall_eq_false_of_all rfl

theorem bare_of_lifetime (stands : token.Stands source) (lifetime : token.kind = .lifetime) :
    token.Bare := by
  refine ⟨by simp [lifetime], by simp [lifetime], ?_⟩
  obtain ⟨name, value, named⟩ := stands.exists_name lifetime
  rw [value]
  exact List.forall_mem_cons.2 ⟨by decide, visible_of_isName named⟩

theorem bare_of_path (stands : token.Stands source)
    (kinds : Grammar.isSeparator token.kind = true ∨ token.kind = .identifier) : token.Bare := by
  refine ⟨?_, ?_, ?_⟩
  · rintro string
    simp [string, Grammar.isSeparator] at kinds
  · rintro char
    simp [char, Grammar.isSeparator] at kinds
  · rcases kinds with separates | identifier
    · rcases stands.separator separates with point | colons
      · rw [point]
        exact forall_eq_false_of_all rfl
      · rw [colons]
        exact forall_eq_false_of_all rfl
    · exact visible_of_isName (stands.isName identifier)

end Token.Stands

/-! ## The text of a type -/

namespace Rule

variable {source : Text} {tokens rest : List Token} {text : Text}

/-- What a path has behind its first name. -/
inductive Segments : List Token → Prop
  | nil : Segments []
  | cons {separator name : Token} {rest : List Token} :
      Grammar.isSeparator separator.kind = true → name.kind = .identifier → Segments rest →
      Segments (separator :: name :: rest)

theorem Segments.concat {separator name : Token} (segments : Segments rest)
    (separates : Grammar.isSeparator separator.kind = true) (identifier : name.kind = .identifier) :
    Segments (rest ++ [separator, name]) := by
  induction segments with
  | nil => exact .cons separates identifier .nil
  | cons separates' identifier' _ ih => exact .cons separates' identifier' ih

theorem Path.exists_segments (path : Path tokens text) :
    ∃ name rest, tokens = name :: rest ∧ name.kind = .identifier ∧ Segments rest := by
  induction path with
  | @name name identifier => exact ⟨name, [], rfl, identifier, .nil⟩
  | segment _ separates identifier ih =>
      obtain ⟨first, rest, rfl, isName, segments⟩ := ih
      exact ⟨first, _, List.cons_append, isName,
        segments.concat (Grammar.isSeparator_iff.2 separates) identifier⟩

theorem Segments.kind_cases (segments : Segments rest) :
    ∀ token ∈ rest, Grammar.isSeparator token.kind = true ∨ token.kind = .identifier := by
  induction segments with
  | nil => simp
  | cons separates identifier _ ih =>
      intro token member
      rcases List.mem_cons.1 member with rfl | member
      · exact .inl separates
      rcases List.mem_cons.1 member with rfl | member
      · exact .inr identifier
      · exact ih token member

theorem Path.kind_cases (path : Path tokens text) :
    ∀ token ∈ tokens, Grammar.isSeparator token.kind = true ∨ token.kind = .identifier := by
  obtain ⟨name, rest, rfl, identifier, segments⟩ := path.exists_segments
  exact List.forall_mem_cons.2 ⟨.inr identifier, segments.kind_cases⟩

/-- There is no lifetime in a path. -/
theorem kind_ne_lifetime
    (kinds : ∀ token ∈ rest, Grammar.isSeparator token.kind = true ∨ token.kind = .identifier) :
    ∀ lexeme ∈ rest.map Token.lexeme, lexeme.kind ≠ .lifetime := by
  intro _ member lifetime
  obtain ⟨token, among, rfl⟩ := List.mem_map.1 member
  change token.kind = .lifetime at lifetime
  have cases := kinds token among
  rw [lifetime] at cases
  simp [Grammar.isSeparator] at cases

theorem Segments.glue_eq (segments : Segments rest) :
    glue (rest.map Token.lexeme) = rest.map Token.lexeme :=
  glue_of_forall_ne (kind_ne_lifetime segments.kind_cases)

/-- Behind its first name a path goes on with a mark. -/
theorem Segments.stops (segments : Segments rest) (stand : ∀ token ∈ rest, token.Stands source) :
    ∀ c ∈ (rest.flatMap Token.value).head?, continuesWord c = false := by
  cases segments with
  | nil => simp
  | @cons separator name rest separates identifier segments =>
      rcases (stand separator (by simp)).separator separates with point | colons
      · rw [List.flatMap_cons, point]
        rintro _ ⟨⟩
        decide
      · rw [List.flatMap_cons, colons]
        rintro _ ⟨⟩
        decide

/-- The segments of a path can be told from their text. -/
theorem Segments.lexemes_inj {source' : Text} {rest' : List Token} (segments : Segments rest)
    (segments' : Segments rest') (stand : ∀ token ∈ rest, token.Stands source)
    (stand' : ∀ token ∈ rest', token.Stands source')
    (same : rest.flatMap Token.value = rest'.flatMap Token.value) :
    rest.map Token.lexeme = rest'.map Token.lexeme := by
  induction segments generalizing rest' with
  | nil =>
      cases segments' with
      | nil => rfl
      | @cons separator _ _ separates =>
          have visible := (stand' separator (by simp)).value_ne_nil_of_separator separates
          exact absurd (List.append_eq_nil_iff.1 same.symm).1 visible
  | @cons separator name rest separates identifier segments ih =>
      have first := stand separator (by simp)
      cases segments' with
      | nil =>
          exact absurd (List.append_eq_nil_iff.1 same).1 (first.value_ne_nil_of_separator separates)
      | @cons separator' name' rest' separates' identifier' segments' =>
          have behind : ∀ token ∈ rest, token.Stands source := fun token member =>
            stand token (by simp [member])
          have behind' : ∀ token ∈ rest', token.Stands source' := fun token member =>
            stand' token (by simp [member])
          obtain ⟨separator_eq, same⟩ :=
            first.separator_inj (stand' separator' (by simp)) separates separates' same
          obtain ⟨name_eq, same⟩ := append_inj_of_stops
            (continuesWord_of_isName ((stand name (by simp)).isName identifier))
            (continuesWord_of_isName ((stand' name' (by simp)).isName identifier'))
            (segments.stops behind) (segments'.stops behind') same
          have name_eq : name.lexeme = name'.lexeme := by
            rw [Token.lexeme_eq identifier, Token.lexeme_eq identifier', name_eq]
          simp [separator_eq, name_eq, ih segments' behind behind' same]

/-- The lexemes in front of the segments of a type that begins with the given marks. -/
def leading (word : Text) : Text → List Lexeme
  | [] => [⟨.identifier, word⟩]
  | [_] => [⟨.ampersand, ['&']⟩, ⟨.identifier, word⟩]
  | _ => [⟨.ampersand, ['&']⟩, ⟨.lifetime, '\x27' :: word⟩]

/-- A type consists of marks, a word and segments.  The word is its first name, with the name
of its lifetime in front. -/
structure Parted (source : Text) (tokens : List Token) (marks word : Text) (rest : List Token) :
    Prop where
  marks_stop : ∀ c ∈ marks, continuesWord c = false
  word_ne_nil : word ≠ []
  word_passes : ∀ c ∈ word, continuesWord c = true
  segments : Segments rest
  stand : ∀ token ∈ rest, token.Stands source
  text_eq : tokens.flatMap Token.value = marks ++ (word ++ rest.flatMap Token.value)
  glue_eq : glue (tokens.map Token.lexeme) = leading word marks ++ rest.map Token.lexeme

theorem Parted.starts {marks word : Text} (parted : Parted source tokens marks word rest) :
    ∀ c ∈ (word ++ rest.flatMap Token.value).head?, (!continuesWord c) = false := by
  intro c first
  obtain ⟨d, word, rfl⟩ := List.exists_cons_of_ne_nil parted.word_ne_nil
  cases first
  simp [parted.word_passes c (by simp)]

theorem TypeName.exists_parted (type : TypeName tokens text)
    (stand : ∀ token ∈ tokens, token.Stands source) :
    ∃ marks word rest, Parted source tokens marks word rest := by
  cases type with
  | path path =>
      obtain ⟨name, rest, rfl, identifier, segments⟩ := path.exists_segments
      have isName := (stand name (by simp)).isName identifier
      refine ⟨[], name.value, rest, by simp, ne_nil_of_isName isName,
        continuesWord_of_isName isName, segments,
        fun token member => stand token (by simp [member]), by simp, ?_⟩
      rw [List.map_cons, Token.lexeme_eq identifier, glue_cons (by simp), segments.glue_eq]
      rfl
  | @reference ampersand _ _ isAmpersand path =>
      obtain ⟨name, rest, rfl, identifier, segments⟩ := path.exists_segments
      have isName := (stand name (by simp)).isName identifier
      have mark := (stand ampersand (by simp)).lexeme_of_ampersand isAmpersand
      have value : ampersand.value = ['&'] := congrArg Lexeme.value mark
      refine ⟨['&'], name.value, rest, forall_eq_false_of_all rfl, ne_nil_of_isName isName,
        continuesWord_of_isName isName, segments,
        fun token member => stand token (by simp [member]), by simp [value], ?_⟩
      rw [List.map_cons, List.map_cons, mark, Token.lexeme_eq identifier, glue_cons (by simp),
        glue_cons (by simp), segments.glue_eq]
      rfl
  | @lifetime ampersand lifetime _ _ isAmpersand isLifetime path =>
      obtain ⟨name, rest, rfl, identifier, segments⟩ := path.exists_segments
      have isName := (stand name (by simp)).isName identifier
      obtain ⟨label, value', isLabel⟩ := (stand lifetime (by simp)).exists_name isLifetime
      have mark := (stand ampersand (by simp)).lexeme_of_ampersand isAmpersand
      have value : ampersand.value = ['&'] := congrArg Lexeme.value mark
      refine ⟨['&', '\x27'], label ++ name.value, rest, forall_eq_false_of_all rfl,
        by simp [ne_nil_of_isName isName], ?_, segments,
        fun token member => stand token (by simp [member]), by simp [value, value'], ?_⟩
      · intro c member
        rcases List.mem_append.1 member with member | member
        · exact continuesWord_of_isName isLabel c member
        · exact continuesWord_of_isName isName c member
      · rw [List.map_cons, List.map_cons, List.map_cons, mark, glue_cons (by simp),
          glue_lifetime isLifetime, segments.glue_eq]
        simp [leading, Token.lexeme, value']

/-- The text of a type gives back its lexemes, but for the end of a lifetime. -/
theorem TypeName.glue_inj {source' text' : Text} {tokens' : List Token}
    (type : TypeName tokens text) (type' : TypeName tokens' text')
    (stand : ∀ token ∈ tokens, token.Stands source)
    (stand' : ∀ token ∈ tokens', token.Stands source')
    (same : tokens.flatMap Token.value = tokens'.flatMap Token.value) :
    glue (tokens.map Token.lexeme) = glue (tokens'.map Token.lexeme) := by
  obtain ⟨marks, word, rest, parted⟩ := type.exists_parted stand
  obtain ⟨marks', word', rest', parted'⟩ := type'.exists_parted stand'
  rw [parted.text_eq, parted'.text_eq] at same
  -- The marks go up to the first letter, and the word up to the first mark behind it.
  obtain ⟨rfl, behind⟩ := @append_inj_of_stops (fun c => !continuesWord c) _ _ _ _
    (by simpa using parted.marks_stop) (by simpa using parted'.marks_stop) parted.starts
    parted'.starts same
  obtain ⟨rfl, tail⟩ := append_inj_of_stops parted.word_passes parted'.word_passes
    (parted.segments.stops parted.stand) (parted'.segments.stops parted'.stand) behind
  rw [parted.glue_eq, parted'.glue_eq,
    parted.segments.lexemes_inj parted'.segments parted.stand parted'.stand tail]

/-- A type without a lifetime, or one with a single lifetime behind its first mark. -/
theorem TypeName.lifetime_cases (type : TypeName tokens text) :
    (∀ lexeme ∈ tokens.map Token.lexeme, lexeme.kind ≠ .lifetime) ∨
      ∃ mark lifetime name rest, tokens.map Token.lexeme = mark :: lifetime :: name :: rest ∧
        mark.kind ≠ .lifetime ∧ lifetime.kind = .lifetime ∧ name.kind = .identifier ∧
        glue rest = rest := by
  cases type with
  | path path => exact .inl (kind_ne_lifetime path.kind_cases)
  | @reference ampersand _ _ isAmpersand path =>
      have other : ampersand.lexeme.kind ≠ .lifetime := by simp [Token.lexeme, isAmpersand]
      exact .inl (List.forall_mem_cons.2 ⟨other, kind_ne_lifetime path.kind_cases⟩)
  | @lifetime ampersand lifetime _ _ isAmpersand isLifetime path =>
      obtain ⟨name, rest, rfl, identifier, segments⟩ := path.exists_segments
      exact .inr ⟨ampersand.lexeme, lifetime.lexeme, name.lexeme, rest.map Token.lexeme, rfl,
        by simp [Token.lexeme, isAmpersand], isLifetime, identifier, segments.glue_eq⟩

/-- Types whose lifetimes do not differ are told apart also when these are glued. -/
theorem TypeName.lexemes_eq_of_glue_eq {text' : Text} {tokens' : List Token}
    (type : TypeName tokens text) (type' : TypeName tokens' text')
    (agree : ∀ first ∈ tokens.map Token.lexeme, ∀ second ∈ tokens'.map Token.lexeme,
      first.kind = .lifetime → second.kind = .lifetime → first = second)
    (same : glue (tokens.map Token.lexeme) = glue (tokens'.map Token.lexeme)) :
    tokens.map Token.lexeme = tokens'.map Token.lexeme := by
  rcases type.lifetime_cases with none | ⟨mark, lifetime, name, rest, lexemes, isMark, isLifetime,
    isName, unglued⟩ <;>
  rcases type'.lifetime_cases with none' | ⟨mark', lifetime', name', rest', lexemes', isMark',
    isLifetime', isName', unglued'⟩
  · rwa [glue_of_forall_ne none, glue_of_forall_ne none'] at same
  · rw [glue_of_forall_ne none, lexemes', glue_cons isMark', glue_lifetime isLifetime'] at same
    exact absurd rfl (none ⟨.lifetime, lifetime'.value ++ name'.value⟩ (by rw [same]; simp))
  · rw [glue_of_forall_ne none', lexemes, glue_cons isMark, glue_lifetime isLifetime] at same
    exact absurd rfl (none' ⟨.lifetime, lifetime.value ++ name.value⟩ (by rw [← same]; simp))
  · obtain rfl : lifetime = lifetime' :=
      agree lifetime (by simp [lexemes]) lifetime' (by simp [lexemes']) isLifetime isLifetime'
    rw [lexemes, lexemes', glue_cons isMark, glue_lifetime isLifetime, unglued, glue_cons isMark',
      glue_lifetime isLifetime, unglued'] at same
    obtain ⟨rfl, glued⟩ := List.cons.inj same
    obtain ⟨joined, rfl⟩ := List.cons.inj glued
    have value_eq := List.append_cancel_left (Lexeme.mk.inj joined).2
    have name_eq : name = name' := by
      rcases name with ⟨_, _⟩
      rcases name' with ⟨_, _⟩
      cases isName
      cases isName'
      cases value_eq
      rfl
    rw [lexemes, lexemes', name_eq]

/-- The tokens of a type are written as they are, without blanks. -/
theorem TypeName.bare (type : TypeName tokens text)
    (stand : ∀ token ∈ tokens, token.Stands source) : ∀ token ∈ tokens, token.Bare := by
  cases type with
  | path path =>
      intro token member
      exact (stand token member).bare_of_path (path.kind_cases token member)
  | reference isAmpersand path =>
      rw [List.forall_mem_cons] at stand ⊢
      refine ⟨stand.1.bare_of_mark isAmpersand, ?_⟩
      intro token member
      exact (stand.2 token member).bare_of_path (path.kind_cases token member)
  | lifetime isAmpersand isLifetime path =>
      rw [List.forall_mem_cons, List.forall_mem_cons] at stand ⊢
      refine ⟨stand.1.bare_of_mark isAmpersand, stand.2.1.bare_of_lifetime isLifetime, ?_⟩
      intro token member
      exact (stand.2.2 token member).bare_of_path (path.kind_cases token member)

/-- The text of a type without its blanks is the text of its tokens. -/
theorem TypeName.withoutBlanks_eq (type : TypeName tokens text)
    (stand : ∀ token ∈ tokens, token.Stands source) :
    text.withoutBlanks = tokens.flatMap Token.value := by
  have visible : withoutBlanks (tokens.flatMap Token.value) = tokens.flatMap Token.value := by
    apply Visible.withoutBlanks_eq
    intro c member
    obtain ⟨token, among, inside⟩ := List.mem_flatMap.1 member
    exact (type.bare stand token among).visible c inside
  cases type with
  | path path => rwa [path.text_eq]
  | @reference ampersand tokens _ isAmpersand path =>
      have value := (stand ampersand (by simp)).value_of_mark.1 isAmpersand
      rw [List.flatMap_cons, value] at visible ⊢
      rwa [path.text_eq]
  | @lifetime ampersand lifetime tokens _ isAmpersand isLifetime path =>
      have value := (stand ampersand (by simp)).value_of_mark.1 isAmpersand
      have space : Text.Blank [' '] := blank_iff_all.2 rfl
      rw [List.flatMap_cons, List.flatMap_cons, value] at visible ⊢
      have written : '&' :: (lifetime.value ++ [' ']) ++ tokens.flatMap Token.value =
          ['&'] ++ (lifetime.value ++ ([' '] ++ tokens.flatMap Token.value)) := by
        simp
      -- The space behind the lifetime is the only blank, and with it the lifetime's end is lost.
      rw [path.text_eq, written, withoutBlanks_append, withoutBlanks_append, withoutBlanks_append,
        space.withoutBlanks_eq, List.nil_append, ← withoutBlanks_append, ← withoutBlanks_append,
        visible]

end Rule

/-- What is scanned into tokens without blanks consists of them, its blanks apart. -/
theorem Lexed.withoutBlanks_eq {place : Position} {text : Text} {tokens : List Token}
    (lexed : Lexed place text tokens) (bare : ∀ token ∈ tokens, token.Bare) :
    text.withoutBlanks = tokens.flatMap Token.value := by
  induction lexed with
  | blank blank => exact blank.withoutBlanks_eq
  | @token place gap written after lexeme tokens blank form _ ih =>
      have first := bare _ List.mem_cons_self
      have value_eq : lexeme.value = written := form.value_eq first.string first.char
      have visible : written.Visible := value_eq ▸ first.visible
      rw [withoutBlanks_append, withoutBlanks_append, blank.withoutBlanks_eq,
        visible.withoutBlanks_eq, ih fun token member => bare token (List.mem_cons_of_mem _ member),
        List.flatMap_cons, tokenAt_value, value_eq]
      rfl

/-! ## Types that are read -/

/-- A next token that marks no end is ahead. -/
theorem Feed.exists_cons {feed : Feed} (last : feed.last.kind = .eof)
    (other : feed.current.kind ≠ .eof) : ∃ rest, feed.ahead = feed.current :: rest := by
  cases ahead : feed.ahead with
  | nil =>
      rw [Feed.current_of_nil ahead] at other
      exact absurd last other
  | cons token rest =>
      rw [Feed.current_of_cons ahead]
      exact ⟨rest, rfl⟩

namespace Grammar

variable {feed rest : Feed} {value : Spanned Text}

/-- What is read as a path is a path. -/
theorem exists_path_of_run (last : feed.last.kind = .eof)
    (ran : path.run feed = (.ok value, rest)) :
    ∃ taken more, feed.ahead = taken ++ more ∧ rest = feed.skip taken.length ∧
      Rule.Path taken value.item := by
  by_cases identifier : feed.current.kind = .identifier
  · obtain ⟨tokens, ahead⟩ := Feed.exists_cons last (by simp [identifier])
    obtain ⟨taken, more, text, split, path, _, ⟨_, _, _, read⟩ | ⟨_, _, _, read, _⟩⟩ :=
      run_path_of_name last ahead identifier
    · cases read.symm.trans ran
      exact ⟨taken, more, split, rfl, path⟩
    · cases read.symm.trans ran
  · cases (run_path_of_other identifier).symm.trans ran

theorem exists_reference_of_run {ampersand : Token} {lifetime : Text}
    (ran : (reference ampersand lifetime).run feed = (.ok value, rest))
    (last : feed.last.kind = .eof) :
    ∃ taken more text, feed.ahead = taken ++ more ∧ rest = feed.skip taken.length ∧
      Rule.Path taken text ∧ value.item = '&' :: lifetime ++ text := by
  obtain ⟨referent, middle, read, finished⟩ := Parser.run_bind_eq_ok_iff.1 ran
  cases finished
  obtain ⟨taken, more, ahead, rest_eq, path⟩ := exists_path_of_run last read
  exact ⟨taken, more, referent.item, ahead, rest_eq, path, rfl⟩

/-- What is read as a type is a type. -/
theorem exists_type_of_run (last : feed.last.kind = .eof)
    (ran : type.run feed = (.ok value, rest)) :
    ∃ taken more, feed.ahead = taken ++ more ∧ rest = feed.skip taken.length ∧
      Rule.TypeName taken value.item := by
  rw [type_eq] at ran
  by_cases isAmpersand : feed.current.kind = .ampersand
  · obtain ⟨tokens, ahead⟩ := Feed.exists_cons last (by simp [isAmpersand])
    have advanced := Feed.advance_of_cons ahead (by simp [isAmpersand])
    have behind := Feed.skip_ahead_of_cons ahead
    by_cases isLifetime : (feed.skip 1).current.kind = .lifetime
    · obtain ⟨tokens', ahead'⟩ := @Feed.exists_cons (feed.skip 1) last (by simp [isLifetime])
      have advanced' := Feed.advance_of_cons ahead' (by simp [isLifetime])
      have behind' := Feed.skip_ahead_of_cons ahead'
      have read : (reference feed.current ((feed.skip 1).current.value ++ [' '])).run
          ((feed.skip 1).skip 1) = (.ok value, rest) := by
        simpa [isAmpersand, advanced, isLifetime, advanced'] using ran
      obtain ⟨taken, more, text, split, rest_eq, path, item_eq⟩ := exists_reference_of_run read last
      refine ⟨feed.current :: (feed.skip 1).current :: taken, more, ?_, ?_, ?_⟩
      · rw [ahead, ← behind, ahead', ← behind', split]
        rfl
      · rw [rest_eq, Feed.skip_skip, Feed.skip_skip, List.length_cons, List.length_cons]
        congr 1
        omega
      · rw [item_eq]
        exact .lifetime isAmpersand isLifetime path
    · have read : (reference feed.current []).run (feed.skip 1) = (.ok value, rest) := by
        simpa [isAmpersand, advanced, isLifetime] using ran
      obtain ⟨taken, more, text, split, rest_eq, path, item_eq⟩ := exists_reference_of_run read last
      refine ⟨feed.current :: taken, more, ?_, ?_, ?_⟩
      · rw [ahead, ← behind, split]
        rfl
      · rw [rest_eq, Feed.skip_skip, List.length_cons, Nat.add_comm]
      · rw [item_eq]
        exact .reference isAmpersand path
  · have read : path.run feed = (.ok value, rest) := by simpa [isAmpersand] using ran
    obtain ⟨taken, more, split, rest_eq, path⟩ := exists_path_of_run last read
    exact ⟨taken, more, split, rest_eq, .path path⟩

end Grammar

/-! ## Binding -/

/-- The tokens between two places of a cursor. -/
def Cursor.upTo (cursor : Cursor) (after : Cursor) : List Token :=
  (cursor.tokens.drop cursor.index).take (after.index - cursor.index)

/-- A type that is read at a cursor over the tokens of a scan. -/
theorem Cursor.Descends.typeName {source : Text} {stream : List Token} {root cursor after : Cursor}
    {type : Spanned Text} (tokenized : tokenize source = .ok stream)
    (rooted : ofTokens? stream source = some root) (descends : root.Descends cursor)
    (read : cursor.run Grammar.type = (.ok type, after)) :
    Rule.TypeName (cursor.upTo after) type.item ∧
      ∀ token ∈ cursor.upTo after, token.Stands source := by
  obtain ⟨found, lexed, _, whole⟩ := part_of_tokenize tokenized rooted
  have part := descends.part whole lexed.ordered
  rcases ran : Grammar.type.run cursor.feed with ⟨outcome, rest⟩
  rw [run, ran] at read
  cases read
  obtain ⟨taken, more, ahead, rest_eq, derived⟩ := Grammar.exists_type_of_run part.last_kind ran
  have upTo_eq : cursor.upTo { cursor with index := rest.index } = taken := by
    have index_eq : rest.index - cursor.index = taken.length := by
      rw [rest_eq, Feed.skip_index]
      exact Nat.add_sub_cancel_left _ _
    rw [upTo, index_eq]
    exact (congrArg (List.take taken.length) ahead).trans List.take_left
  rw [upTo_eq]
  refine ⟨derived, ?_⟩
  intro token member
  apply lexed.stands
  apply part.among.subset
  apply List.mem_of_mem_drop
  change token ∈ cursor.feed.ahead
  rw [ahead]
  exact List.mem_append_left more member

/-- A text that is read as a type up to its end. -/
theorem typeName_of_tokenize {text : Text} {stream : List Token} {type : Spanned Text} {rest : Feed}
    (tokenized : tokenize text = .ok stream)
    (read : Grammar.type.run (.ofTokens stream text) = (.ok type, rest)) (ended : rest.ahead = []) :
    Rule.TypeName stream.dropLast type.item ∧ (∀ token ∈ stream.dropLast, token.Stands text) ∧
      text.withoutBlanks = stream.dropLast.flatMap Token.value := by
  obtain ⟨found, lexed, _, rfl⟩ := tokenize_eq_ok_iff.1 tokenized
  rw [List.dropLast_concat]
  have stand : ∀ token ∈ found, token.Stands text := lexed.stands
  have last : (Feed.ofTokens (found ++ [Scanner.endMark (Position.start.walk text)])
      text).last.kind = .eof := by
    rw [Feed.ofTokens_last]
    rfl
  obtain ⟨taken, more, ahead, rfl, derived⟩ := Grammar.exists_type_of_run last read
  rw [Feed.skip_ahead_of_append ahead] at ended
  rw [Feed.ofTokens_ahead, ended, List.append_nil] at ahead
  subst ahead
  exact ⟨derived, stand, lexed.withoutBlanks_eq (derived.bare stand)⟩

/-- Closures are bound by the lexemes of their type.  Let a type be read anywhere in a scan, and
let it be the type that a closure gives its parameter; let another text be read as a type up to
its end.  The closure is bound to this text exactly if the tokens of the two types have the same
kinds and values, where a lifetime is one with the name behind it, and otherwise it is refused at
its own span.  Unless the types have lifetimes that differ, this is to say that their tokens have
the same kinds and values. -/
theorem FunctionRef.bind_annotated {source expected : Text} {stream stream' : List Token}
    {root cursor after : Cursor} {annotated target : Spanned Text} {rest : Feed}
    {function : FunctionRef} (tokenized : tokenize source = .ok stream)
    (rooted : Cursor.ofTokens? stream source = some root) (descends : root.Descends cursor)
    (read : cursor.run Grammar.type = (.ok annotated, after))
    (typed : function.paramType = some annotated.item)
    (tokenized' : tokenize expected = .ok stream')
    (read' : Grammar.type.run (.ofTokens stream' expected) = (.ok target, rest))
    (ended : rest.ahead = []) :
    let actual := (cursor.upTo after).map Token.lexeme
    let wanted := stream'.dropLast.map Token.lexeme
    (∀ bound, function.bind expected = .ok bound ↔
      glue actual = glue wanted ∧
        bound = { form := function.form, path := function.path, param := function.param,
                  body := function.body, inputType := expected }) ∧
    (glue actual ≠ glue wanted →
      (function.bind expected).mapError Fault.diagnostic =
        .error ⟨.typeMismatch,
          "Expected a function with input type " ++ ("`" ++ String.ofList expected ++ "`") ++
            ", got " ++ ("`" ++ String.ofList annotated.item ++ "`"),
          some function.span⟩) ∧
    ((∀ first ∈ actual, ∀ second ∈ wanted, first.kind = .lifetime → second.kind = .lifetime →
        first = second) →
      (glue actual = glue wanted ↔ actual = wanted)) := by
  intro actual wanted
  obtain ⟨type, stand⟩ := descends.typeName tokenized rooted read
  obtain ⟨type', stand', text'⟩ := typeName_of_tokenize tokenized' read' ended
  have compared : annotated.item.withoutBlanks = expected.withoutBlanks ↔
      glue actual = glue wanted := by
    rw [type.withoutBlanks_eq stand, text']
    constructor
    · exact type.glue_inj type' stand stand'
    · intro same
      have texts := congrArg (List.flatMap Lexeme.value) same
      rw [flatMap_value_glue, flatMap_value_glue, List.flatMap_map, List.flatMap_map] at texts
      exact texts
  refine ⟨?_, ?_, ?_⟩
  · intro bound
    rw [bind_eq_ok_iff, typed, ← compared, ← Text.sameButWhitespace_iff]
    simp
  · intro differs
    rw [bind, typed]
    dsimp only
    rw [if_neg (mt compared.1 differs)]
    rfl
  · intro agree
    exact ⟨type.lexemes_eq_of_glue_eq type' agree, congrArg glue⟩

/-- A closure with a reference is bound to the same type with other blanks, and is not bound to
the type that is referred to. -/
theorem FunctionRef.bind_annotated_reference :
    let function : FunctionRef :=
      { form := .closure, param := some ['x'], paramType := some "&\x27a bc".toList,
        body := some ['x'], span := ⟨0, 13, 1, 1⟩ }
    (∃ bound, function.bind "& \x27a\nbc".toList = .ok bound) ∧
      (function.bind "bc".toList).mapError Fault.diagnostic =
        .error ⟨.typeMismatch, "Expected a function with input type `bc`, got `&\x27a bc`",
          some ⟨0, 13, 1, 1⟩⟩ := by
  intro function
  let root : Cursor :=
    { tokens :=
        [⟨.ampersand, ['&'], ⟨0, 1, 1, 1⟩⟩, ⟨.lifetime, "\x27a".toList, ⟨1, 3, 1, 2⟩⟩,
          ⟨.identifier, "bc".toList, ⟨4, 6, 1, 5⟩⟩]
      last := .endAt ⟨6, 6, 1, 7⟩
      source := "&\x27a bc".toList }
  have tokenized : tokenize root.source = .ok (root.tokens ++ [root.last]) := by decide +kernel
  have read : root.run Grammar.type = (.ok ⟨root.source, ⟨0, 6, 1, 1⟩⟩, { root with index := 3 }) :=
    rfl
  have typed : function.paramType = some root.source := rfl
  have respaced : tokenize "& \x27a\nbc".toList =
      .ok [⟨.ampersand, ['&'], ⟨0, 1, 1, 1⟩⟩, ⟨.lifetime, "\x27a".toList, ⟨2, 4, 1, 3⟩⟩,
        ⟨.identifier, "bc".toList, ⟨5, 7, 2, 1⟩⟩, .endAt ⟨7, 7, 2, 3⟩] := by
    decide +kernel
  have referent : tokenize "bc".toList =
      .ok [⟨.identifier, "bc".toList, ⟨0, 2, 1, 1⟩⟩, .endAt ⟨2, 2, 1, 3⟩] := by
    decide +kernel
  constructor
  · have bound := (bind_annotated tokenized rfl .root read typed respaced rfl rfl).1
    exact ⟨_, (bound _).2 ⟨by decide, rfl⟩⟩
  · exact (bind_annotated tokenized rfl .root read typed referent rfl rfl).2.1 (by decide)

/-- A closure that is bound to a type with other tokens than its own: the lifetime and the name
of both types have the same text together. -/
theorem FunctionRef.bind_other_type :
    let root : Cursor :=
      { tokens :=
          [⟨.pipe, ['|'], ⟨0, 1, 1, 1⟩⟩, ⟨.identifier, ['x'], ⟨1, 2, 1, 2⟩⟩,
            ⟨.colon, [':'], ⟨2, 3, 1, 3⟩⟩, ⟨.ampersand, ['&'], ⟨4, 5, 1, 5⟩⟩,
            ⟨.lifetime, "\x27a".toList, ⟨5, 7, 1, 6⟩⟩, ⟨.identifier, "bc".toList, ⟨8, 10, 1, 9⟩⟩,
            ⟨.pipe, ['|'], ⟨10, 11, 1, 11⟩⟩, ⟨.identifier, ['x'], ⟨12, 13, 1, 13⟩⟩]
        last := .endAt ⟨13, 13, 1, 14⟩
        source := "|x: &\x27a bc| x".toList }
    let function : FunctionRef :=
      { form := .closure, param := some ['x'], paramType := some "&\x27a bc".toList,
        body := some ['x'], span := ⟨0, 13, 1, 1⟩ }
    let wanted : Cursor :=
      { tokens :=
          [⟨.ampersand, ['&'], ⟨0, 1, 1, 1⟩⟩, ⟨.lifetime, "\x27ab".toList, ⟨1, 4, 1, 2⟩⟩,
            ⟨.identifier, ['c'], ⟨5, 6, 1, 6⟩⟩]
        last := .endAt ⟨6, 6, 1, 7⟩
        source := "&\x27ab c".toList }
    tokenize root.source = .ok (root.tokens ++ [root.last]) ∧
      (root.run Grammar.closure).1 = .ok function ∧
      Cursor.run { root with index := 3 } Grammar.type =
        (.ok ⟨"&\x27a bc".toList, ⟨4, 10, 1, 5⟩⟩, { root with index := 6 }) ∧
      tokenize wanted.source = .ok (wanted.tokens ++ [wanted.last]) ∧
      wanted.run Grammar.type =
        (.ok ⟨wanted.source, ⟨0, 6, 1, 1⟩⟩, { wanted with index := wanted.tokens.length }) ∧
      (Cursor.upTo { root with index := 3 } { root with index := 6 }).map Token.lexeme ≠
        wanted.tokens.map Token.lexeme ∧
      function.bind wanted.source =
        .ok { form := .closure, param := some ['x'], body := some ['x'],
              inputType := "&\x27ab c".toList } := by
  refine ⟨by decide +kernel, rfl, rfl, by decide +kernel, rfl, by decide, by decide +kernel⟩

end GuardLang

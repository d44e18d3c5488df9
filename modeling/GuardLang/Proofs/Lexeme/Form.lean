import GuardLang.Proofs.Lexeme.Literal
import GuardLang.Proofs.Lexeme.Number

/-!
# The forms of lexemes

`Form written lexeme after` is the lexical grammar: it says that `written`, with
`after` behind it, stands for `lexeme`.  What stands behind matters only where a
lexeme could go on or be taken for another one.

Main statements: reading succeeds exactly on the forms (`read_of_form` and
`exists_form_of_read`), and a form stays one when the text behind it is cut
(`Form.clipped`).
-/

namespace GuardLang.Lexeme

open Text

/-- The text `written`, with `after` behind it, stands for a lexeme. -/
inductive Form : Text → Lexeme → Text → Prop
  | string {body value after : Text} : Spelled body value →
      Form ('"' :: body ++ ['"']) ⟨.string, value⟩ after
  | raw {hashes : Nat} {value after : Text} : ¬ terminator hashes <:+: value →
      Form ('r' :: (List.replicate hashes '#' ++ '"' :: (value ++ terminator hashes)))
        ⟨.string, value⟩ after
  | character {c : Char} {after : Text} : c ≠ '\\' → c ≠ '\x27' →
      Form ['\x27', c, '\x27'] ⟨.char, [c]⟩ after
  | escaped {c meaning : Char} {after : Text} : (c, meaning) ∈ escapes →
      Form ['\x27', '\\', c, '\x27'] ⟨.char, [meaning]⟩ after
  | lifetime {c : Char} {word after : Text} : startsWord c = true →
      (∀ d ∈ word, continuesWord d = true) → (∀ d ∈ after.head?, continuesWord d = false) →
      (word = [] → ∀ d ∈ after.head?, d ≠ '\x27') →
      Form ('\x27' :: c :: word) ⟨.lifetime, '\x27' :: c :: word⟩ after
  | number {number after : Text} : startsDigit number = true →
      numberLength (number ++ after) = number.length → Form number ⟨.number, number⟩ after
  | word {c : Char} {word after : Text} : startsWord c = true →
      (∀ d ∈ word, continuesWord d = true) → (∀ d ∈ after.head?, continuesWord d = false) →
      ¬ (c = 'r' ∧ opensRaw (c :: (word ++ after)) = true) →
      Form (c :: word) ⟨.identifier, c :: word⟩ after
  | pair {c d : Char} {symbol : Lexeme} {after : Text} : pair? c d = some symbol →
      Form [c, d] symbol after
  | single {c : Char} {symbol : Lexeme} {after : Text} : single? c = some symbol →
      (∀ d ∈ after.head?, pair? c d = none) → Form [c] symbol after

/-! ## First characters -/

/-- The kinds that no mark or operator has. -/
def otherKinds : List TokenKind := [.string, .char, .eof]

/-- The characters that begin a mark or an operator. -/
def symbolStarts : List Char :=
  ['=', '-', ',', '.', ':', '|', '&', '(', ')', '[', ']', '\x7b', '\x7d'] ++ singleOperators

/-- A character that begins a mark or an operator begins no other form. -/
theorem read_eq_of_mem_symbolStarts {c : Char} (start : c ∈ symbolStarts) (rest : Text) :
    read c rest = match symbol? c rest with
      | some symbol => ⟨symbol.value.length, .ok symbol⟩
      | none => .failed 0 (.unexpectedCharacter c) 0 1 := by
  have apart : symbolStarts.all (fun c => c != '"' && c != 'r' && c != '\x27' && !c.isDigit &&
      !startsWord c) = true := by
    decide +kernel
  have other := List.all_eq_true.1 apart c start
  simp only [Bool.and_eq_true, bne_iff_ne, Bool.not_eq_true'] at other
  rcases other with ⟨⟨⟨⟨quote, raw⟩, apostrophe⟩, digit⟩, letter⟩
  cases symbol : symbol? c rest with
  | none => simp [read, quote, raw, apostrophe, digit, letter, symbol]
  | some found => simp [read, quote, raw, apostrophe, digit, letter, symbol]

theorem mem_symbolStarts_of_markKind? {c : Char} {kind : TokenKind}
    (mark : markKind? c = some kind) : c ∈ symbolStarts ∧ kind ∉ otherKinds := by
  unfold markKind? at mark
  split at mark <;> cases mark <;> exact ⟨by decide, by decide⟩

/-- A single character is a mark or an operator. -/
theorem single?_cases {c : Char} {symbol : Lexeme} (single : single? c = some symbol) :
    (∃ kind, markKind? c = some kind ∧ symbol = ⟨kind, [c]⟩) ∨
      (c ∈ singleOperators ∧ symbol = ⟨.operator, [c]⟩) := by
  unfold single? at single
  split at single
  · rename_i kind mark
    exact .inl ⟨kind, mark, (Option.some.inj single).symm⟩
  · split at single
    · rename_i operator
      exact .inr ⟨List.contains_iff_mem.1 operator, (Option.some.inj single).symm⟩
    · cases single

/-- Two characters are a path separator or an operator. -/
theorem pair?_cases {c d : Char} {symbol : Lexeme} (pair : pair? c d = some symbol) :
    (c = ':' ∧ d = ':' ∧ symbol = ⟨.pathSep, [c, d]⟩) ∨
      ((c, d) ∈ pairOperators ∧ symbol = ⟨.operator, [c, d]⟩) := by
  unfold pair? at pair
  split at pair
  · rename_i colons
    exact .inl ⟨colons.1, colons.2, (Option.some.inj pair).symm⟩
  · split at pair
    · rename_i operator
      exact .inr ⟨List.contains_iff_mem.1 operator, (Option.some.inj pair).symm⟩
    · cases pair

theorem mem_symbolStarts_of_single? {c : Char} {symbol : Lexeme}
    (single : single? c = some symbol) :
    c ∈ symbolStarts ∧ symbol.value = [c] ∧ symbol.kind ∉ otherKinds := by
  rcases single?_cases single with ⟨kind, mark, rfl⟩ | ⟨operator, rfl⟩
  · rcases mem_symbolStarts_of_markKind? mark with ⟨start, kind_ne⟩
    exact ⟨start, rfl, kind_ne⟩
  · exact ⟨List.mem_append_right _ operator, rfl, by simp [otherKinds]⟩

theorem mem_symbolStarts_of_pair? {c d : Char} {symbol : Lexeme}
    (pair : pair? c d = some symbol) :
    c ∈ symbolStarts ∧ symbol.value = [c, d] ∧ symbol.kind ∉ otherKinds := by
  have starts : ∀ pair ∈ pairOperators, pair.1 ∈ symbolStarts := by decide
  rcases pair?_cases pair with ⟨rfl, rfl, rfl⟩ | ⟨operator, rfl⟩
  · exact ⟨by decide, rfl, by simp [otherKinds]⟩
  · exact ⟨starts _ operator, rfl, by simp [otherKinds]⟩

/-- What holds of the ten decimal digits, looked up one by one. -/
theorem forall_isDigit (p : Char → Prop) (listed : ∀ n ∈ List.range' 48 10, p (Char.ofNat n))
    {c : Char} (digit : c.isDigit = true) : p c := by
  simp only [Char.isDigit, Bool.and_eq_true, decide_eq_true_eq] at digit
  have above : 48 ≤ c.toNat := UInt32.le_iff_toNat_le.1 digit.1
  have below : c.toNat ≤ 57 := UInt32.le_iff_toNat_le.1 digit.2
  have holds := listed c.toNat (List.mem_range'_1.2 (by omega))
  rwa [Char.ofNat_toNat] at holds

/-- No digit begins a word. -/
theorem startsWord_eq_false_of_isDigit {c : Char} (digit : c.isDigit = true) :
    startsWord c = false :=
  forall_isDigit (fun c => startsWord c = false) (by decide +kernel) digit

/-! ## Forms are read -/

/-- A run of characters that pass a test ends where one fails it. -/
theorem takeWhile_append_of_stops {p : Char → Bool} {run after : Text}
    (passes : ∀ c ∈ run, p c = true) (stops : ∀ c ∈ after.head?, p c = false) :
    (run ++ after).takeWhile p = run := by
  rw [List.takeWhile_append_of_pos passes]
  cases after with
  | nil => simp
  | cons c after => simp [stops c rfl]

/-- A word is taken up to the first character that cannot stand in it. -/
theorem wordOf_of_stops {c : Char} {word after : Text} (first : startsWord c = true)
    (passes : ∀ d ∈ word, continuesWord d = true)
    (stops : ∀ d ∈ after.head?, continuesWord d = false) :
    wordOf (c :: (word ++ after)) = c :: word := by
  have all : ∀ d ∈ c :: word, continuesWord d = true := by
    intro d member
    rcases List.mem_cons.1 member with rfl | member
    · exact continuesWord_of_startsWord first
    · exact passes d member
  exact takeWhile_append_of_stops all stops

/-- A word does not hold an apostrophe. -/
theorem ne_apostrophe_of_continuesWord {c : Char} (passes : continuesWord c = true) :
    c ≠ '\x27' := by
  rintro rfl
  exact absurd passes (by decide)

/-- A word is read as one unless a raw string begins with it. -/
theorem read_of_startsWord {c : Char} {rest : Text} (first : startsWord c = true)
    (raw : ¬ (c = 'r' ∧ opensRaw (c :: rest) = true)) :
    read c rest = ⟨(wordOf (c :: rest)).length, .ok ⟨.identifier, wordOf (c :: rest)⟩⟩ := by
  have quote : c ≠ '"' := by
    rintro rfl
    exact absurd first (by decide)
  have apostrophe : c ≠ '\x27' :=
    ne_apostrophe_of_continuesWord (continuesWord_of_startsWord first)
  have digit : c.isDigit = false := by
    cases digit : c.isDigit with
    | false => rfl
    | true => exact absurd first (by simp [startsWord_eq_false_of_isDigit digit])
  simp [read, quote, raw, apostrophe, digit, first]

/-- A number is read where a digit stands. -/
theorem read_of_isDigit {c : Char} (digit : c.isDigit = true) (rest : Text) :
    read c rest = ⟨(numberOf (c :: rest)).length, .ok ⟨.number, numberOf (c :: rest)⟩⟩ := by
  have apart : c ≠ '"' ∧ c ≠ 'r' ∧ c ≠ '\x27' := by
    refine ⟨?_, ?_, ?_⟩ <;> rintro rfl <;> exact absurd digit (by decide)
  simp [read, apart.1, apart.2.1, apart.2.2, digit]

/-- A lifetime is read where a word stands behind an apostrophe and no second
apostrophe makes its first character a literal. -/
theorem read_of_lifetime {c : Char} {rest : Text} (first : startsWord c = true)
    (closed : rest.head? ≠ some '\x27') :
    read '\x27' (c :: rest) =
      ⟨(wordOf (c :: rest)).length + 1, .ok ⟨.lifetime, '\x27' :: wordOf (c :: rest)⟩⟩ := by
  have backslash : c ≠ '\\' := by
    rintro rfl
    exact absurd first (by decide)
  simp [read, readCharacter, Reading.map, Except.map, backslash, closed, first]

/-- A form is read as the lexeme it stands for. -/
theorem read_of_form {written after : Text} {lexeme : Lexeme} (form : Form written lexeme after)
    {c : Char} {rest : Text} (split : c :: rest = written ++ after) :
    read c rest = ⟨written.length, .ok lexeme⟩ := by
  cases form with
  | @string body value _ spelled =>
      rw [List.append_assoc, List.cons_append] at split
      cases split
      simp only [read, if_true, List.singleton_append]
      rw [← List.cons_append, readString_of_spelled spelled]
      simp [Reading.map, Except.map]
  | @raw hashes value _ free =>
      simp only [List.cons_append, List.append_assoc] at split
      cases split
      have opens : opensRaw ('r' :: (List.replicate hashes '#' ++
          '"' :: (value ++ (terminator hashes ++ after)))) = true :=
        opensRaw_cons_iff.2 ⟨hashes, _, rfl⟩
      simp only [read, opens, Char.reduceEq, and_self, if_true, if_false]
      rw [← List.append_assoc, readRaw_of_free 'r' free after]
      simp [Reading.map, Except.map, terminator]
      omega
  | character backslash apostrophe =>
      cases split
      simp [read, readCharacter, Reading.map, Except.map, backslash, apostrophe]
  | escaped listed =>
      cases split
      simp [read, readCharacter, closeCharacter, Reading.map, Except.map,
        unescape?_eq_some_iff.2 listed]
  | @lifetime d word _ first passes stops apart =>
      simp only [List.cons_append] at split
      cases split
      have closed : (word ++ after).head? ≠ some '\x27' := by
        cases word with
        | nil => exact fun head => apart rfl _ head rfl
        | cons e word =>
            intro head
            exact ne_apostrophe_of_continuesWord (passes e List.mem_cons_self)
              (Option.some.inj head)
      rw [read_of_lifetime first closed, wordOf_of_stops first passes stops]
      rfl
  | number digit whole =>
      cases written with
      | nil => cases digit
      | cons d number =>
          have number_eq : numberOf (d :: number ++ after) = d :: number := by
            rw [numberOf, whole, List.take_left]
          rw [List.cons_append] at split number_eq
          cases split
          rw [read_of_isDigit (by simpa [startsDigit] using digit), number_eq]
  | @word d word _ first passes stops raw =>
      rw [List.cons_append] at split
      cases split
      rw [read_of_startsWord first raw, wordOf_of_stops first passes stops]
  | pair pair =>
      cases split
      rcases mem_symbolStarts_of_pair? pair with ⟨start, value_eq, _⟩
      rw [read_eq_of_mem_symbolStarts start]
      simp [symbol?, pair, value_eq]
  | single single alone =>
      cases split
      rcases mem_symbolStarts_of_single? single with ⟨start, value_eq, _⟩
      rw [read_eq_of_mem_symbolStarts start]
      have none : after.head?.bind (pair? c) = none := by
        cases after with
        | nil => rfl
        | cons d after => exact alone d rfl
      simp [symbol?, none, single, value_eq]

/-! ## What is read is a form -/

/-- A run of characters that pass a test, and what stands behind it. -/
theorem takeWhile_split (p : Char → Bool) (text : Text) :
    ∃ after, text = text.takeWhile p ++ after ∧ (∀ c ∈ text.takeWhile p, p c = true) ∧
      ∀ c ∈ after.head?, p c = false := by
  refine ⟨text.dropWhile p, List.takeWhile_append_dropWhile.symm, ?_, ?_⟩
  · intro c member
    exact List.all_eq_true.1 List.all_takeWhile c member
  · intro c head
    have stops := List.head?_dropWhile_not p text
    rw [Option.mem_def.1 head] at stops
    exact stops

/-- A word that is taken is a form of its own or of a lifetime. -/
theorem exists_wordOf_split {c : Char} (first : startsWord c = true) (rest : Text) :
    ∃ word after, rest = word ++ after ∧ wordOf (c :: rest) = c :: word ∧
      (∀ d ∈ word, continuesWord d = true) ∧ ∀ d ∈ after.head?, continuesWord d = false := by
  rcases takeWhile_split continuesWord rest with ⟨after, split, passes, stops⟩
  refine ⟨rest.takeWhile continuesWord, after, split, ?_, passes, stops⟩
  rw [wordOf, List.takeWhile_cons, if_pos (continuesWord_of_startsWord first)]

/-- A character literal or lifetime that is read is a form. -/
theorem exists_form_of_readCharacter {rest : Text} {kind : TokenKind} {value : Text}
    (read : (readCharacter ('\x27' :: rest)).outcome = .ok (kind, value)) :
    ∃ written after, '\x27' :: rest = written ++ after ∧
      (readCharacter ('\x27' :: rest)).taken = written.length ∧
      Form written ⟨kind, value⟩ after := by
  rcases rest with _ | ⟨c, rest⟩
  · cases read
  simp only [readCharacter, List.drop_one, List.tail_cons] at read ⊢
  split at read
  · rename_i backslash
    subst backslash
    rcases rest with _ | ⟨escaped, rest⟩
    · cases read
    simp only [if_true] at read ⊢
    cases known : unescape? escaped with
    | none =>
        rw [known] at read
        cases read
    | some meaning =>
        rw [known] at read
        simp only [closeCharacter, List.drop_succ_cons, List.drop_zero] at read ⊢
        split at read
        · rename_i closed
          cases read
          rcases List.head?_eq_some_iff.1 closed with ⟨after, rfl⟩
          exact ⟨['\x27', '\\', escaped, '\x27'], after, rfl, by simp,
            .escaped (unescape?_eq_some_iff.1 known)⟩
        · cases read
  · rename_i backslash
    rw [if_neg backslash]
    split at read
    · rename_i literal
      cases read
      rcases List.head?_eq_some_iff.1 literal.2 with ⟨after, rfl⟩
      rw [if_pos literal]
      exact ⟨['\x27', c, '\x27'], after, rfl, rfl, .character backslash literal.1⟩
    · rename_i literal
      rw [if_neg literal]
      split at read
      · rename_i first
        rw [if_pos first]
        cases read
        rcases exists_wordOf_split first rest with ⟨word, after, rfl, word_eq, passes, stops⟩
        rw [word_eq]
        refine ⟨'\x27' :: c :: word, after, rfl, rfl, .lifetime first passes stops ?_⟩
        rintro rfl d head rfl
        exact literal ⟨ne_apostrophe_of_continuesWord (continuesWord_of_startsWord first), head⟩
      · cases read

/-- A mark or operator that is read is a form. -/
theorem exists_form_of_symbol? {c : Char} {rest : Text} {symbol : Lexeme}
    (found : symbol? c rest = some symbol) :
    ∃ written after, c :: rest = written ++ after ∧ symbol.value.length = written.length ∧
      Form written symbol after := by
  rcases Option.or_eq_some_iff.1 found with pair | ⟨alone, single⟩
  · rcases Option.bind_eq_some_iff.1 pair with ⟨d, head, pair⟩
    rcases List.head?_eq_some_iff.1 head with ⟨after, rfl⟩
    refine ⟨[c, d], after, rfl, ?_, .pair pair⟩
    rw [(mem_symbolStarts_of_pair? pair).2.1]
  · refine ⟨[c], rest, rfl, ?_, .single single ?_⟩
    · rw [(mem_symbolStarts_of_single? single).2.1]
    · intro d head
      rw [Option.mem_def.1 head] at alone
      exact alone

theorem map_outcome_eq_ok_iff {α β : Type} {f : α → β} {reading : Reading α} {value : β} :
    (reading.map f).outcome = .ok value ↔ ∃ read, reading.outcome = .ok read ∧ f read = value := by
  simp only [Reading.map]
  cases reading.outcome <;> simp [Except.map]

theorem map_outcome_eq_error_iff {α β : Type} {f : α → β} {reading : Reading α}
    {misread : Misread} :
    (reading.map f).outcome = .error misread ↔ reading.outcome = .error misread := by
  simp only [Reading.map]
  cases reading.outcome <;> simp [Except.map]

/-- What is read is a form in front of the rest of the text. -/
theorem exists_form_of_read {c : Char} {rest : Text} {lexeme : Lexeme}
    (succeeds : (read c rest).outcome = .ok lexeme) :
    ∃ written after, c :: rest = written ++ after ∧
      (read c rest).taken = written.length ∧ Form written lexeme after := by
  by_cases quote : c = '"'
  · subst quote
    simp only [read, if_true, map_outcome_eq_ok_iff, Reading.map_taken] at succeeds ⊢
    rcases succeeds with ⟨value, outcome, rfl⟩
    rcases exists_spelled_of_readString outcome with ⟨body, after, rfl, spelled, taken⟩
    exact ⟨'"' :: body ++ ['"'], after, by simp, by simp [taken], .string spelled⟩
  by_cases raw : c = 'r' ∧ opensRaw (c :: rest) = true
  · rcases raw with ⟨rfl, opens⟩
    simp only [read, Char.reduceEq, opens, and_self, if_false, if_true, map_outcome_eq_ok_iff,
      Reading.map_taken] at succeeds ⊢
    rcases succeeds with ⟨value, outcome, rfl⟩
    rcases exists_free_of_readRaw opens outcome with ⟨hashes, after, rfl, free, taken⟩
    refine ⟨_, after, ?_, ?_, .raw free⟩
    · simp
    · rw [taken]
      simp only [terminator, List.length_cons, List.length_append, List.length_replicate]
      omega
  by_cases apostrophe : c = '\x27'
  · subst apostrophe
    simp only [read, Char.reduceEq, false_and, if_false, if_true, map_outcome_eq_ok_iff,
      Reading.map_taken] at succeeds ⊢
    rcases succeeds with ⟨⟨kind, value⟩, outcome, rfl⟩
    exact exists_form_of_readCharacter outcome
  by_cases digit : c.isDigit = true
  · rw [read_of_isDigit digit] at succeeds ⊢
    cases succeeds
    have split := List.take_append_drop (numberLength (c :: rest)) (c :: rest)
    have length_eq : (numberOf (c :: rest)).length = numberLength (c :: rest) := by
      rw [numberOf, List.length_take, Nat.min_eq_left (numberLength_le _)]
    refine ⟨numberOf (c :: rest), _, split.symm, rfl, .number ?_ ?_⟩
    · rcases List.exists_cons_of_ne_nil (numberOf_ne_nil rest digit) with ⟨d, number, number_eq⟩
      rw [numberOf] at number_eq ⊢
      rw [number_eq, List.cons_append] at split
      rw [number_eq, startsDigit, (List.cons.inj split).1]
      simpa using digit
    · rw [length_eq, numberOf, split]
  by_cases first : startsWord c = true
  · rw [read_of_startsWord first raw] at succeeds ⊢
    cases succeeds
    rcases exists_wordOf_split first rest with ⟨word, after, rfl, word_eq, passes, stops⟩
    rw [word_eq]
    exact ⟨c :: word, after, rfl, rfl, .word first passes stops raw⟩
  · simp only [read, quote, raw, apostrophe, digit, first, if_false] at succeeds ⊢
    cases found : symbol? c rest with
    | none =>
        rw [found] at succeeds
        cases succeeds
    | some symbol =>
        rw [found] at succeeds
        cases succeeds
        exact exists_form_of_symbol? found

/-! ## Forms and what stands behind them -/

/-- A cut opens no raw string: the hashes and the quote are no separators, so they
stood there before. -/
theorem opensRaw_of_clipped {c : Char} {after other : Text} (cut : Clipped after other)
    (opens : opensRaw (c :: other) = true) : opensRaw (c :: after) = true := by
  rw [opensRaw_cons_iff] at opens ⊢
  induction cut with
  | cut bounds =>
      rcases opens with ⟨_ | hashes, body, rfl⟩
      · exact absurd rfl (ne_of_separates (bounds_cons_iff.1 bounds) (by decide))
      · rw [List.replicate_succ, List.cons_append] at bounds
        exact absurd rfl (ne_of_separates (bounds_cons_iff.1 bounds) (by decide))
  | @keep d after other _ ih =>
      rcases opens with ⟨_ | hashes, body, split⟩
      · cases split
        exact ⟨0, after, rfl⟩
      · rw [List.replicate_succ, List.cons_append] at split
        cases split
        rcases ih ⟨hashes, body, rfl⟩ with ⟨count, rest, rfl⟩
        exact ⟨count + 1, rest, by rw [List.replicate_succ, List.cons_append]⟩

/-- A form stays one when the text behind it is cut. -/
theorem Form.clipped {written after other : Text} {lexeme : Lexeme}
    (form : Form written lexeme after) (cut : Clipped after other) :
    Form written lexeme other := by
  cases form with
  | string spelled => exact .string spelled
  | raw free => exact .raw free
  | character backslash apostrophe => exact .character backslash apostrophe
  | escaped listed => exact .escaped listed
  | lifetime first passes stops apart =>
      refine .lifetime first passes ?_ ?_
      · exact cut.head?_of_forall (fun _ => continuesWord_eq_false_of_separates) stops
      · intro empty
        exact cut.head?_of_forall (fun _ ends => ne_of_separates ends (by decide)) (apart empty)
  | number digit whole => exact .number digit (numberLength_clipped cut whole)
  | word first passes stops raw =>
      refine .word first passes ?_ ?_
      · exact cut.head?_of_forall (fun _ => continuesWord_eq_false_of_separates) stops
      · rintro ⟨letter, opens⟩
        exact raw ⟨letter, opensRaw_of_clipped (cut.append _) opens⟩
  | pair pair => exact .pair pair
  | single single alone =>
      refine .single single ?_
      exact cut.head?_of_forall (fun _ => pair?_eq_none_of_separates _) alone

/-- A form does not begin with a blank. -/
theorem Form.head_isBlank {written after : Text} {lexeme : Lexeme}
    (form : Form written lexeme after) : ∀ c ∈ written.head?, isBlank c = false := by
  have symbols : ∀ c ∈ symbolStarts, isBlank c = false := by
    have apart : symbolStarts.all (fun c => !isBlank c) = true := by decide +kernel
    intro c start
    simpa using List.all_eq_true.1 apart c start
  intro c head
  cases form with
  | string | raw | character | escaped | lifetime =>
      cases head
      decide
  | word first =>
      cases head
      exact isBlank_eq_false_of_continuesWord (continuesWord_of_startsWord first)
  | number digit _ =>
      rw [startsDigit, Option.mem_def.1 head, Option.any_some] at digit
      exact isBlank_eq_false_of_isDigit digit
  | pair pair =>
      cases head
      exact symbols _ (mem_symbolStarts_of_pair? pair).1
  | single single _ =>
      cases head
      exact symbols _ (mem_symbolStarts_of_single? single).1

theorem Form.written_ne_nil {written after : Text} {lexeme : Lexeme}
    (form : Form written lexeme after) : written ≠ [] := by
  cases form with
  | number digit _ =>
      rintro rfl
      cases digit
  | _ => simp

theorem Form.kind_ne_eof {written after : Text} {lexeme : Lexeme}
    (form : Form written lexeme after) : lexeme.kind ≠ .eof := by
  cases form with
  | pair pair => exact fun mark => (mem_symbolStarts_of_pair? pair).2.2 (by simp [mark, otherKinds])
  | single single _ =>
      exact fun mark => (mem_symbolStarts_of_single? single).2.2 (by simp [mark, otherKinds])
  | _ => simp

/-- Lexemes other than strings and character literals stand for themselves. -/
theorem Form.value_eq {written after : Text} {lexeme : Lexeme}
    (form : Form written lexeme after) (string : lexeme.kind ≠ .string)
    (char : lexeme.kind ≠ .char) : lexeme.value = written := by
  cases form with
  | pair pair => exact (mem_symbolStarts_of_pair? pair).2.1
  | single single _ => exact (mem_symbolStarts_of_single? single).2.1
  | string | raw => exact absurd rfl string
  | character | escaped => exact absurd rfl char
  | lifetime | number | word => rfl

/-! ## What faults are about -/

/-- A fault in a lexeme lies within the text it was read from. -/
theorem misread_read {c : Char} {rest : Text} {misread : Misread}
    (failed : (read c rest).outcome = .error misread) :
    misread.Within (c :: rest) := by
  unfold read at failed
  split at failed
  · exact misread_readString (map_outcome_eq_error_iff.1 failed)
  split at failed
  · exact misread_readRaw (map_outcome_eq_error_iff.1 failed)
  split at failed
  · exact misread_readCharacter (map_outcome_eq_error_iff.1 failed)
  split at failed
  · cases failed
  split at failed
  · cases failed
  split at failed
  · cases failed
  · cases failed
    exact ⟨Nat.zero_le _, by simp, rfl⟩

end GuardLang.Lexeme

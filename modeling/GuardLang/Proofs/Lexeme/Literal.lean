import GuardLang.Lexeme.Literal
import Mathlib.Data.List.Forall2

/-!
# How literals are written

A literal is written for a value.  Between double quotes every character of the
value is written on its own: a double quote and a backslash as escapes, the other
characters that have an escape either as they are or escaped, and all the rest as they
are.  A raw string holds its value as it is, between quotes with hashes that do not come
together inside, and ends with the first quote that its hashes follow.  A character
literal holds one character between single quotes, or one escape.

For the strings it is shown which texts the readers take and what value they give,
whatever stands behind the literal.
-/

namespace GuardLang

namespace Lexeme

/-! ## How values are written -/

/-- The escapes: the character behind the backslash and what both stand for. -/
def escapes : List (Char × Char) :=
  [('n', '\n'), ('t', '\t'), ('r', '\r'), ('0', '\x00'), ('\\', '\\'), ('"', '"'),
    ('\x27', '\x27')]

/-- A way to write one character between double quotes. -/
inductive CharSpelled (c : Char) : Text → Prop
  | plain : c ≠ '"' → c ≠ '\\' → CharSpelled c [c]
  | escape {letter : Char} : (letter, c) ∈ escapes → CharSpelled c ['\\', letter]

/-- A literal that is written for a value, between double quotes or as a raw string. -/
inductive StringLiteral : Text → Text → Prop
  | quoted {value : Text} {parts : List Text} : List.Forall₂ CharSpelled value parts →
      StringLiteral ('"' :: parts.flatten ++ ['"']) value
  | raw {hashes : Nat} {value : Text} : ¬ ('"' :: List.replicate hashes '#') <:+: value →
      StringLiteral ('r' :: (List.replicate hashes '#' ++
        '"' :: (value ++ '"' :: List.replicate hashes '#'))) value

/-- A literal that is written for a character, between single quotes. -/
inductive CharLiteral : Text → Text → Prop
  | plain {c : Char} : c ≠ '\\' → c ≠ '\x27' → CharLiteral ['\x27', c, '\x27'] [c]
  | escape {letter c : Char} : (letter, c) ∈ escapes →
      CharLiteral ['\x27', '\\', letter, '\x27'] [c]

/-! ## Escapes are undone -/

theorem unescape?_eq_some_iff {c meaning : Char} :
    unescape? c = some meaning ↔ (c, meaning) ∈ escapes := by
  constructor
  · intro known
    unfold unescape? at known
    split at known <;> cases known <;> decide
  · intro listed
    have undone : ∀ pair ∈ escapes, unescape? pair.1 = some pair.2 := by decide
    exact undone _ listed

theorem unescape?_eq_none_iff {c : Char} :
    unescape? c = none ↔ ∀ meaning, (c, meaning) ∉ escapes := by
  simp only [← unescape?_eq_some_iff, Option.eq_none_iff_forall_ne_some, ne_eq]

/-! ## Strings between quotes -/

/-- What stands between the quotes of a string, and the text it stands for. -/
inductive Spelled : Text → Text → Prop
  | nil : Spelled [] []
  | plain {c : Char} {written value : Text} : c ≠ '"' → c ≠ '\\' → Spelled written value →
      Spelled (c :: written) (c :: value)
  | escape {c meaning : Char} {written value : Text} : (c, meaning) ∈ escapes →
      Spelled written value → Spelled ('\\' :: c :: written) (meaning :: value)

theorem Spelled.cons {c : Char} {part written value : Text} (spelled : Spelled written value)
    (first : CharSpelled c part) : Spelled (part ++ written) (c :: value) := by
  cases first with
  | plain quote backslash => exact .plain quote backslash spelled
  | escape listed => exact .escape listed spelled

/-- A text is spelled if its characters are, one after the other. -/
theorem spelled_iff {written value : Text} :
    Spelled written value ↔ ∃ parts, List.Forall₂ CharSpelled value parts ∧
      written = parts.flatten := by
  constructor
  · intro spelled
    induction spelled with
    | nil => exact ⟨[], .nil, rfl⟩
    | @plain c _ _ quote backslash _ ih =>
        rcases ih with ⟨parts, each, rfl⟩
        exact ⟨[c] :: parts, .cons (.plain quote backslash) each, rfl⟩
    | @escape letter _ _ _ listed _ ih =>
        rcases ih with ⟨parts, each, rfl⟩
        exact ⟨['\\', letter] :: parts, .cons (.escape listed) each, rfl⟩
  · rintro ⟨parts, each, rfl⟩
    induction each with
    | nil => exact .nil
    | cons first _ ih => exact ih.cons first

/-- What stands where the body of a string ends. -/
def BodyEnd.Stands : BodyEnd → Text → Prop
  | .quote, rest => ∃ after, rest = '"' :: after
  | .endOfText, rest => rest = [] ∨ rest = ['\\']
  | .unknownEscape c, rest => unescape? c = none ∧ ∃ after, rest = '\\' :: c :: after

namespace Body

/-- A spelled text is read, and then what stands behind it. -/
theorem read_append {written value : Text} (spelled : Spelled written value) (rest : Text) :
    read (written ++ rest) =
      ⟨value ++ (read rest).value, (read rest).length + written.length, (read rest).ending⟩ := by
  induction spelled with
  | nil => rfl
  | plain quote backslash _ ih =>
      rw [List.cons_append, read.eq_def]
      simp [quote, backslash, ih, cons, Nat.add_assoc]
  | escape listed _ ih =>
      rw [List.cons_append, List.cons_append, read.eq_def]
      simp [unescape?_eq_some_iff.2 listed, ih, cons, Nat.add_assoc]

/-- A spelled text is read up to the quote behind it. -/
theorem read_of_spelled {written value : Text} (spelled : Spelled written value) (after : Text) :
    read (written ++ '"' :: after) = ⟨value, written.length, .quote⟩ := by
  rw [read_append spelled, read.eq_def]
  simp

/-- A spelled text is read up to a backslash behind it that begins no escape. -/
theorem read_of_unknown {written value : Text} (spelled : Spelled written value) {c : Char}
    (unknown : unescape? c = none) (after : Text) :
    read (written ++ '\\' :: c :: after) = ⟨value, written.length, .unknownEscape c⟩ := by
  rw [read_append spelled, read.eq_def]
  simp [unknown]

/-- Reading a body takes a spelled text off the front and stops for a reason that
can be seen there. -/
theorem exists_spelled_of_read (text : Text) :
    ∃ written rest, text = written ++ rest ∧ written.length = (read text).length ∧
      Spelled written (read text).value ∧ (read text).ending.Stands rest := by
  fun_induction read text with
  | case1 => exact ⟨[], [], rfl, rfl, .nil, Or.inl rfl⟩
  | case2 rest => exact ⟨[], _, rfl, rfl, .nil, rest, rfl⟩
  | case3 => exact ⟨[], _, rfl, rfl, .nil, Or.inr rfl⟩
  | case4 escaped rest meaning known _ ih =>
      rcases ih with ⟨written, behind, rfl, length_eq, spelled, stands⟩
      refine ⟨'\\' :: escaped :: written, behind, rfl, ?_,
        .escape (unescape?_eq_some_iff.1 known) spelled, stands⟩
      simp [cons, length_eq]
  | case5 escaped rest unknown =>
      exact ⟨[], _, rfl, rfl, .nil, unknown, rest, rfl⟩
  | case6 c rest quote backslash ih =>
      rcases ih with ⟨written, behind, rfl, length_eq, spelled, stands⟩
      refine ⟨c :: written, behind, rfl, ?_, .plain quote backslash spelled, stands⟩
      simp [cons, length_eq]

end Body

/-- A string is read if what stands between its quotes is spelled. -/
theorem readString_of_spelled {written value : Text} (spelled : Spelled written value)
    (after : Text) :
    readString ('"' :: written ++ '"' :: after) = ⟨written.length + 2, .ok value⟩ := by
  simp [readString, Body.read_of_spelled spelled]

/-- A string is refused at a backslash that begins no escape. -/
theorem readString_of_unknown {written value : Text} (spelled : Spelled written value) {c : Char}
    (unknown : unescape? c = none) (after : Text) :
    readString ('"' :: written ++ '\\' :: c :: after) =
      .failed (written.length + 2) (.unknownEscape c) (written.length + 1)
        (written.length + 3) := by
  simp [readString, Body.read_of_unknown spelled unknown]

/-- A string that is read stands between two quotes and is spelled. -/
theorem exists_spelled_of_readString {c : Char} {rest value : Text}
    (read : (readString (c :: rest)).outcome = .ok value) :
    ∃ written after, rest = written ++ '"' :: after ∧ Spelled written value ∧
      (readString (c :: rest)).taken = written.length + 2 := by
  rcases Body.exists_spelled_of_read rest with ⟨written, behind, split, length_eq, spelled, stands⟩
  simp only [readString, List.drop_one, List.tail_cons] at read ⊢
  cases ending : (Body.read rest).ending with
  | quote =>
      rw [ending] at stands read
      rcases stands with ⟨after, rfl⟩
      cases read
      exact ⟨written, after, split, spelled, by simp [length_eq]⟩
  | endOfText =>
      rw [ending] at read
      cases read
  | unknownEscape c =>
      rw [ending] at read
      cases read

/-! ## Raw strings -/

/-- What ends a raw string with the given number of hashes. -/
def terminator (hashes : Nat) : Text :=
  '"' :: List.replicate hashes '#'

/-- Hashes in front of a quote lie in front of it. -/
theorem replicate_prefix_of_append {hashes : Nat} {text after : Text}
    (found : List.replicate hashes '#' <+: text ++ '"' :: after) :
    List.replicate hashes '#' <+: text := by
  induction hashes generalizing text with
  | zero => exact List.nil_prefix
  | succ hashes ih =>
      rw [List.replicate_succ] at found ⊢
      cases text with
      | nil =>
          rw [List.nil_append, List.cons_prefix_cons] at found
          exact absurd found.1 (by decide)
      | cons c text =>
          rw [List.cons_append, List.cons_prefix_cons] at found
          exact List.cons_prefix_cons.2 ⟨found.1, ih found.2⟩

/-- A terminator that begins inside a text in front of another one lies inside
it: the two cannot overlap, as only their first character is a quote. -/
theorem terminator_prefix_of_append {hashes : Nat} {c : Char} {text after : Text}
    (found : terminator hashes <+: c :: text ++ terminator hashes ++ after) :
    terminator hashes <+: c :: text := by
  rw [List.append_assoc, terminator, List.cons_append, List.cons_prefix_cons] at found
  exact List.cons_prefix_cons.2 ⟨found.1, replicate_prefix_of_append found.2⟩

/-- The first terminator in a text is the one behind a value exactly if the value
has none. -/
theorem indexOf?_terminator_iff {hashes : Nat} {value after : Text} :
    Text.indexOf? (terminator hashes) (value ++ terminator hashes ++ after) = some value.length ↔
      ¬ terminator hashes <:+: value := by
  induction value with
  | nil => simp [Text.indexOf?, terminator]
  | cons c value ih =>
      rw [List.cons_append, List.cons_append, Text.indexOf?]
      by_cases found : terminator hashes <+: c :: value
      · have here : terminator hashes <+: c :: (value ++ terminator hashes ++ after) :=
          found.trans (by simp)
        rw [if_pos (List.isPrefixOf_iff_prefix.2 here)]
        simp [found.isInfix]
      · have absent : (terminator hashes).isPrefixOf
            (c :: (value ++ terminator hashes ++ after)) = false := by
          rw [Bool.eq_false_iff, ne_eq, List.isPrefixOf_iff_prefix]
          exact fun here => found (terminator_prefix_of_append here)
        rw [absent, List.infix_cons_iff]
        simp only [Bool.false_eq_true, if_false, Option.map_eq_some_iff, List.length_cons,
          Nat.add_right_cancel_iff, exists_eq_right, found, false_or]
        exact ih

/-- A raw string begins where hashes, or none, and a quote follow. -/
theorem opensRaw_cons_iff {c : Char} {rest : Text} :
    opensRaw (c :: rest) = true ↔
      ∃ hashes body, rest = List.replicate hashes '#' ++ '"' :: body := by
  simp only [opensRaw, List.drop_one, List.tail_cons, beq_iff_eq]
  induction rest with
  | nil => simp
  | cons d rest ih =>
      rw [List.dropWhile_cons]
      by_cases hash : d = '#'
      · subst hash
        simp only [beq_self_eq_true, if_true, ih]
        constructor
        · rintro ⟨hashes, body, rfl⟩
          exact ⟨hashes + 1, body, by rw [List.replicate_succ, List.cons_append]⟩
        · rintro ⟨_ | hashes, body, split⟩
          · cases split
          · rw [List.replicate_succ, List.cons_append] at split
            exact ⟨hashes, body, (List.cons.inj split).2⟩
      · simp only [beq_iff_eq, hash, if_false, List.head?_cons, Option.some.injEq]
        constructor
        · rintro rfl
          exact ⟨0, rest, rfl⟩
        · rintro ⟨_ | hashes, body, split⟩
          · exact (List.cons.inj split).1
          · rw [List.replicate_succ, List.cons_append] at split
            exact absurd (List.cons.inj split).1 hash

theorem takeWhile_hashes (hashes : Nat) (body : Text) :
    (List.replicate hashes '#' ++ '"' :: body).takeWhile (· == '#') =
      List.replicate hashes '#' := by
  induction hashes with
  | zero => rfl
  | succ hashes ih =>
      rw [List.replicate_succ, List.cons_append, List.takeWhile_cons]
      simp [ih]

/-- Reading a raw string is looking for its terminator. -/
theorem readRaw_eq (c : Char) (hashes : Nat) (body : Text) :
    readRaw (c :: (List.replicate hashes '#' ++ '"' :: body)) =
      match Text.indexOf? (terminator hashes) body with
      | some length => ⟨hashes + 2 + length + (hashes + 1), .ok (body.take length)⟩
      | none => .failed (hashes + 2) .unterminatedRawString 0 (hashes + 2 + body.length) := by
  have opening : (c :: (List.replicate hashes '#' ++ '"' :: body)).drop (hashes + 2) = body := by
    simp [List.drop_append]
  have length_eq :
      (c :: (List.replicate hashes '#' ++ '"' :: body)).length = hashes + 2 + body.length := by
    simp
    omega
  simp only [readRaw, List.drop_one, List.tail_cons, takeWhile_hashes, List.length_replicate,
    opening, length_eq, Nat.min_eq_right (Nat.le_add_right (hashes + 2) body.length)]
  rfl

/-- A raw string is read if its value has no terminator. -/
theorem readRaw_of_free {hashes : Nat} {value : Text} (c : Char)
    (free : ¬ terminator hashes <:+: value) (after : Text) :
    readRaw (c :: (List.replicate hashes '#' ++ '"' :: (value ++ terminator hashes ++ after))) =
      ⟨hashes + 2 + value.length + (hashes + 1), .ok value⟩ := by
  rw [readRaw_eq, indexOf?_terminator_iff.2 free]
  simp [List.append_assoc]

/-- A raw string that is read ends with the first terminator behind its quote. -/
theorem exists_free_of_readRaw {c : Char} {rest value : Text} (opens : opensRaw (c :: rest) = true)
    (read : (readRaw (c :: rest)).outcome = .ok value) :
    ∃ hashes after,
      rest = List.replicate hashes '#' ++ '"' :: (value ++ terminator hashes ++ after) ∧
        ¬ terminator hashes <:+: value ∧
        (readRaw (c :: rest)).taken = hashes + 2 + value.length + (hashes + 1) := by
  rcases opensRaw_cons_iff.1 opens with ⟨hashes, body, rfl⟩
  rw [readRaw_eq] at read ⊢
  cases found : Text.indexOf? (terminator hashes) body with
  | none =>
      rw [found] at read
      cases read
  | some length =>
      rw [found] at read
      cases read
      rcases List.isPrefixOf_iff_prefix.1 (Text.isPrefixOf_drop_of_indexOf? found) with
        ⟨after, behind⟩
      have split : body = body.take length ++ terminator hashes ++ after := by
        rw [List.append_assoc, behind, List.take_append_drop]
      have short : (body.take length).length = length := by
        have remaining := congrArg List.length behind
        simp only [terminator, List.length_append, List.length_cons, List.length_drop] at remaining
        rw [List.length_take]
        omega
      refine ⟨hashes, after, by rw [← split], ?_, by rw [short]⟩
      rw [← @indexOf?_terminator_iff hashes (body.take length) after, ← split, short]
      exact found

end Lexeme

/-! ## What faults are about -/

/-- A fault is about a range of the text that was read from, and about its
grammar. -/
structure Misread.Within (text : Text) (misread : Misread) : Prop where
  start_le_stop : misread.start ≤ misread.stop
  stop_le_length : misread.stop ≤ text.length
  grammatical : misread.cause.category = .grammar

namespace Lexeme

/-- A fault in a string lies within its text. -/
theorem misread_readString {c : Char} {rest : Text} {misread : Misread}
    (failed : (readString (c :: rest)).outcome = .error misread) :
    misread.Within (c :: rest) := by
  rcases Body.exists_spelled_of_read rest with ⟨written, behind, split, length_eq, _, stands⟩
  simp only [readString, List.drop_one, List.tail_cons] at failed
  cases ending : (Body.read rest).ending with
  | quote =>
      rw [ending] at failed
      cases failed
  | endOfText =>
      rw [ending] at failed
      cases failed
      exact ⟨Nat.zero_le _, Nat.le_refl _, rfl⟩
  | unknownEscape escaped =>
      rw [ending] at failed stands
      rcases stands with ⟨_, after, rfl⟩
      cases failed
      have total := congrArg List.length split
      simp only [List.length_append, List.length_cons] at total
      exact ⟨by dsimp only; omega, by simp only [List.length_cons]; omega, rfl⟩

/-- A fault in a raw string lies within its text. -/
theorem misread_readRaw {c : Char} {rest : Text} {misread : Misread}
    (failed : (readRaw (c :: rest)).outcome = .error misread) :
    misread.Within (c :: rest) := by
  simp only [readRaw] at failed
  split at failed
  · cases failed
  · cases failed
    exact ⟨Nat.zero_le _, Nat.le_refl _, rfl⟩

/-- A fault in a character literal lies within its text. -/
theorem misread_readCharacter {c : Char} {rest : Text} {misread : Misread}
    (failed : (readCharacter (c :: rest)).outcome = .error misread) :
    misread.Within (c :: rest) := by
  simp only [readCharacter, List.drop_one, List.tail_cons] at failed
  rcases rest with _ | ⟨first, rest⟩
  · cases failed
    exact ⟨Nat.zero_le _, Nat.le_refl _, rfl⟩
  · dsimp only at failed
    split at failed
    · rcases rest with _ | ⟨escaped, rest⟩
      · cases failed
        exact ⟨Nat.zero_le _, Nat.le_refl _, rfl⟩
      · have three : 3 ≤ (c :: first :: escaped :: rest).length := by simp
        dsimp only at failed
        split at failed
        · unfold closeCharacter at failed
          split at failed
          · cases failed
          · cases failed
            exact ⟨Nat.zero_le _, three, rfl⟩
        · cases failed
          exact ⟨Nat.le_add_left 1 2, three, rfl⟩
    · split at failed
      · cases failed
      · split at failed
        · cases failed
        · cases failed
          exact ⟨Nat.zero_le _, by simp, rfl⟩

end Lexeme

end GuardLang

import GuardLang.Lexeme
import GuardLang.Text.Blank

/-!
# Boundaries between lexemes

A blank character can stand neither inside a word nor inside a number, and it
makes no operator with the character in front of it.  The same holds of a comma and
of a closing parenthesis.  So a text may be cut at any place, or one of these
separators put there, without a change in how the lexemes in front of the place end.

`Clipped after text` says that `text` may stand behind a lexeme instead of `after`:
the two agree up to a place where `text` ends or goes on with a separator.
-/

namespace GuardLang

namespace Text

/-! ## Blank characters -/

namespace Ranges

/-- The code points of some ranges, one by one. -/
def points (ranges : Ranges) : List Nat :=
  ranges.flatMap fun range => List.range' range.1 (range.2 + 1 - range.1)

/-- A code point that some range holds is one of them. -/
theorem mem_points_of_contains {ranges : Ranges} {n : Nat} (held : ranges.contains n = true) :
    n ∈ ranges.points := by
  induction ranges with
  | nil => cases held
  | cons range rest ih =>
      rcases range with ⟨low, high⟩
      rw [points, List.flatMap_cons, List.mem_append, List.mem_range'_1]
      simp only [contains] at held
      split at held
      · cases held
      · rcases Bool.or_eq_true_iff.1 held with here | later
        · left
          have := of_decide_eq_true here
          omega
        · exact Or.inr (ih later)

end Ranges

/-- The whitespace characters of Unicode, by their code points: those of the separator
category `Zs`, and those whose bidirectional class is `WS`, `B` or `S`. -/
def whitespace : List Nat :=
  [0x9, 0xa, 0xb, 0xc, 0xd, 0x1c, 0x1d, 0x1e, 0x1f, 0x20, 0x85, 0xa0, 0x1680, 0x2000, 0x2001,
    0x2002, 0x2003, 0x2004, 0x2005, 0x2006, 0x2007, 0x2008, 0x2009, 0x200a, 0x2028, 0x2029,
    0x202f, 0x205f, 0x3000]

theorem isBlank_iff {c : Char} : isBlank c = true ↔ c.toNat ∈ whitespace := by
  constructor
  · intro blank
    exact Ranges.mem_points_of_contains blank
  · intro listed
    have held : ∀ n ∈ whitespace, blankRanges.contains n = true := by decide
    exact held _ listed

/-- A word does not go on with a blank character.  There are few of these, so
each is looked up in the tables of letters and numerals. -/
theorem continuesWord_eq_false_of_isBlank {c : Char} (blank : isBlank c = true) :
    continuesWord c = false := by
  have listed : ∀ n ∈ blankRanges.points, continuesWord (Char.ofNat n) = false := by
    decide +kernel
  have holds := listed c.toNat (Ranges.mem_points_of_contains blank)
  rwa [Char.ofNat_toNat] at holds

theorem isBlank_eq_false_of_continuesWord {c : Char} (passes : continuesWord c = true) :
    isBlank c = false := by
  cases blank : isBlank c with
  | false => rfl
  | true =>
      rw [continuesWord_eq_false_of_isBlank blank] at passes
      cases passes

/-! ## Separators -/

/-- Whether a character ends every lexeme in front of it. -/
def separates (c : Char) : Bool := isBlank c || c == ',' || c == ')'

theorem separates_iff {c : Char} :
    separates c = true ↔ isBlank c = true ∨ c = ',' ∨ c = ')' := by
  simp [separates, or_assoc]

theorem separates_of_isBlank {c : Char} (blank : isBlank c = true) : separates c = true :=
  separates_iff.2 (.inl blank)

/-- A separator is none of those characters that are not. -/
theorem ne_of_separates {c d : Char} (ends : separates c = true) (inner : separates d = false) :
    c ≠ d := by
  rintro rfl
  rw [ends] at inner
  cases inner

theorem continuesWord_eq_false_of_separates {c : Char} (ends : separates c = true) :
    continuesWord c = false := by
  rcases separates_iff.1 ends with blank | rfl | rfl
  · exact continuesWord_eq_false_of_isBlank blank
  · decide +kernel
  · decide +kernel

end Text

namespace Lexeme

open Text

/-- A run of digits does not go on with a blank character. -/
theorem continuesRun_eq_false_of_isBlank {c : Char} (blank : isBlank c = true) :
    continuesRun c = false := by
  have listed : ∀ n ∈ blankRanges.points, continuesRun (Char.ofNat n) = false := by
    decide +kernel
  have holds := listed c.toNat (Ranges.mem_points_of_contains blank)
  rwa [Char.ofNat_toNat] at holds

theorem isBlank_eq_false_of_isDigit {c : Char} (digit : c.isDigit = true) :
    isBlank c = false := by
  cases blank : isBlank c with
  | false => rfl
  | true =>
      have stops := continuesRun_eq_false_of_isBlank blank
      rw [continuesRun, digit] at stops
      cases stops

theorem continuesRun_eq_false_of_separates {c : Char} (ends : separates c = true) :
    continuesRun c = false := by
  rcases separates_iff.1 ends with blank | rfl | rfl
  · exact continuesRun_eq_false_of_isBlank blank
  · decide
  · decide

/-- Two characters are taken together only if the second one ends a mark or an
operator. -/
theorem pair?_eq_none {c d : Char} (colon : d ≠ ':')
    (operator : ∀ pair ∈ pairOperators, pair.2 ≠ d) : pair? c d = none := by
  have unlisted : (c, d) ∉ pairOperators := fun member => operator _ member rfl
  simp [pair?, colon, unlisted]

/-- A separator makes no operator with the character in front of it. -/
theorem pair?_eq_none_of_separates (c : Char) {d : Char} (ends : separates d = true) :
    pair? c d = none := by
  have inner : ∀ pair ∈ pairOperators, separates pair.2 = false := by decide +kernel
  apply pair?_eq_none (ne_of_separates ends (by decide))
  intro pair member
  exact (ne_of_separates ends (inner pair member)).symm

end Lexeme

/-! ## Cut texts -/

namespace Text

/-- A text at whose beginning a lexeme in front of it has to end: it is empty or
begins with a separator. -/
def Bounds (text : Text) : Prop := ∀ c ∈ text.head?, separates c = true

/-- The text may stand behind a lexeme instead of `after`: it agrees with it up
to a place where it ends or goes on with a separator. -/
inductive Clipped : Text → Text → Prop
  | cut {after text : Text} : text.Bounds → Clipped after text
  | keep {c : Char} {after text : Text} : Clipped after text → Clipped (c :: after) (c :: text)

theorem bounds_nil : Bounds [] := by
  simp [Bounds]

theorem bounds_cons_iff {c : Char} {text : Text} : Bounds (c :: text) ↔ separates c = true := by
  simp [Bounds]

namespace Clipped

/-- What stands in front of both texts does not matter. -/
theorem append (kept : Text) {after text : Text} (clipped : Clipped after text) :
    Clipped (kept ++ after) (kept ++ text) := by
  induction kept with
  | nil => exact clipped
  | cons c kept ih => exact keep ih

/-- A text may be cut and anything put behind the cut that begins with a
separator. -/
theorem of_append (kept after : Text) {text : Text} (bounds : text.Bounds) :
    Clipped (kept ++ after) (kept ++ text) :=
  (cut bounds).append kept

/-- If no character that fails a test stood behind a lexeme, none does now,
provided that every separator passes it. -/
theorem head?_of_forall {after text : Text} (clipped : Clipped after text) {p : Char → Prop}
    (ends : ∀ c, separates c = true → p c) (holds : ∀ c ∈ after.head?, p c) :
    ∀ c ∈ text.head?, p c := by
  cases clipped with
  | cut bounds =>
      intro c first
      exact ends c (bounds c first)
  | keep _ => simpa using holds

end Clipped

end Text

end GuardLang

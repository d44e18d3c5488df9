import GuardLang.Proofs.Lexeme.Numeral
import GuardLang.Proofs.Scanner.Lossless
import Mathlib.Data.List.Basic

/-!
# Blanks stand between tokens

No token begins or ends with a blank.  So the text from the start of the first to the end of the
last of some tokens has no blanks around it, whatever stands between them
(`Lexed.trimmed_run`).
-/

namespace GuardLang

open Text

namespace Lexeme

/-! ## Last characters -/

/-- A number ends in a run. -/
theorem IsNumber.exists_run {text : Text} (number : IsNumber text) :
    ∃ front run, text = front ++ run ∧ Run run := by
  rcases number with ⟨whole, fraction, exponent, rfl, isRun, isFraction, isExponent⟩
  cases isExponent with
  | @marked mark sign digits _ _ digitsRun =>
      exact ⟨whole ++ (fraction ++ mark :: sign), digits, by simp, digitsRun⟩
  | none =>
      cases isFraction with
      | @point digits digitsRun => exact ⟨whole ++ ['.'], digits, by simp, digitsRun⟩
      | none => exact ⟨[], whole, by simp, isRun⟩

theorem IsNumber.getLast_isBlank {text : Text} (number : IsNumber text) :
    ∀ c ∈ text.getLast?, isBlank c = false := by
  rcases number.exists_run with ⟨front, run, rfl, isRun⟩
  intro c last
  have nonempty : run ≠ [] := by
    cases isRun
    simp
  rw [List.getLast?_append_of_ne_nil _ nonempty] at last
  cases blank : isBlank c with
  | false => rfl
  | true =>
      have passes := isRun.continues c (List.mem_of_getLast? last)
      rw [continuesRun_eq_false_of_isBlank blank] at passes
      cases passes

/-- A form does not end in a blank. -/
theorem Form.getLast_isBlank {written after : Text} {lexeme : Lexeme}
    (form : Form written lexeme after) : ∀ c ∈ written.getLast?, isBlank c = false := by
  have quotes : isBlank '"' = false ∧ isBlank '#' = false ∧ isBlank '\x27' = false := by
    decide +kernel
  have pairs : pairOperators.all (fun pair => !isBlank pair.2) = true := by decide +kernel
  intro c last
  cases form with
  | @string body value _ _ =>
      rw [List.getLast?_append_cons] at last
      cases last
      exact quotes.1
  | @raw hashes value _ _ =>
      have ends : c ∈ (terminator hashes).getLast? := by
        rw [terminator] at last ⊢
        rwa [← List.cons_append, List.getLast?_append_cons, ← List.cons_append,
          List.getLast?_append_cons] at last
      have among := List.mem_of_getLast? ends
      rw [terminator, List.mem_cons, List.mem_replicate] at among
      rcases among with rfl | ⟨_, rfl⟩
      · exact quotes.1
      · exact quotes.2.1
  | character | escaped =>
      cases last
      exact quotes.2.2
  | @lifetime first word _ starts passes =>
      rw [List.getLast?_cons_cons] at last
      refine isBlank_eq_false_of_continuesWord ?_
      rcases List.mem_cons.1 (List.mem_of_getLast? last) with rfl | member
      · exact continuesWord_of_startsWord starts
      · exact passes c member
  | number digit whole =>
      exact (Form.isNumber (.number digit whole) rfl).getLast_isBlank c last
  | word starts passes =>
      refine isBlank_eq_false_of_continuesWord ?_
      rcases List.mem_cons.1 (List.mem_of_getLast? last) with rfl | member
      · exact continuesWord_of_startsWord starts
      · exact passes c member
  | @pair first second symbol _ pair =>
      cases last
      rcases pair?_cases pair with ⟨rfl, rfl, _⟩ | ⟨operator, _⟩
      · decide
      · simpa using List.all_eq_true.1 pairs _ operator
  | @single only symbol _ single alone =>
      cases last
      exact (Form.single single alone).head_isBlank only rfl

end Lexeme

/-! ## Slices -/

namespace Text

/-- A text with no blank around it, and not empty. -/
structure Trimmed (text : Text) : Prop where
  nonempty : text ≠ []
  head : ∀ c ∈ text.head?, isBlank c = false
  last : ∀ c ∈ text.getLast?, isBlank c = false

theorem getElem?_slice (source : Text) {start stop n : Nat} (bound : start + n < stop) :
    (source.slice start stop)[n]? = source[start + n]? := by
  rw [slice, List.getElem?_drop, List.getElem?_take_of_lt bound]

/-- A slice whose first and last characters are not blank is trimmed. -/
theorem trimmed_slice {source : Text} {start stop : Nat} (proper : start < stop)
    (stop_le : stop ≤ source.length) (head : ∀ c ∈ source[start]?, isBlank c = false)
    (last : ∀ c ∈ source[stop - 1]?, isBlank c = false) : (source.slice start stop).Trimmed := by
  have length := source.length_slice start stop_le
  refine ⟨?_, ?_, ?_⟩
  · intro empty
    rw [empty, List.length_nil] at length
    omega
  · intro c first
    rw [List.head?_eq_getElem?, getElem?_slice _ (by omega)] at first
    exact head c first
  · intro c ending
    rw [List.getLast?_eq_getElem?, length, getElem?_slice _ (by omega)] at ending
    exact last c (by rwa [show stop - 1 = start + (stop - start - 1) by omega])

end Text

/-! ## Tokens -/

namespace Token.Stands

variable {source : Text} {token : Token}

theorem stop_le_length (stands : token.Stands source) : token.span.stop ≤ source.length := by
  rcases stands with ⟨before, written, after, lexeme, rfl, form, rfl⟩
  simp only [Lexeme.tokenAt_stop, Position.walk_offset, Position.start_offset, List.length_append]
  omega

/-- What stands in the source where the token does is what it was read from. -/
theorem exists_form (stands : token.Stands source) :
    ∃ written after lexeme, Lexeme.Form written lexeme after ∧
      token.span.stop = token.span.start + written.length ∧
      ∀ n < written.length, source[token.span.start + n]? = written[n]? := by
  rcases stands with ⟨before, written, after, lexeme, rfl, form, rfl⟩
  refine ⟨written, after, lexeme, form, by simp, ?_⟩
  intro n bound
  simp only [Lexeme.tokenAt_start, Position.walk_offset, Position.start_offset, Nat.zero_add]
  rw [List.getElem?_append_right (Nat.le_add_right _ _), Nat.add_sub_cancel_left,
    List.getElem?_append_left bound]

theorem head_isBlank (stands : token.Stands source) :
    ∀ c ∈ source[token.span.start]?, isBlank c = false := by
  rcases stands.exists_form with ⟨written, after, lexeme, form, _, same⟩
  intro c first
  apply form.head_isBlank c
  rw [List.head?_eq_getElem?, ← same 0 (List.length_pos_iff.2 form.written_ne_nil)]
  exact first

theorem getLast_isBlank (stands : token.Stands source) :
    ∀ c ∈ source[token.span.stop - 1]?, isBlank c = false := by
  rcases stands.exists_form with ⟨written, after, lexeme, form, stop_eq, same⟩
  have positive := List.length_pos_iff.2 form.written_ne_nil
  intro c last
  apply form.getLast_isBlank c
  rw [List.getLast?_eq_getElem?, ← same _ (by omega)]
  rwa [show token.span.start + (written.length - 1) = token.span.stop - 1 by omega]

end Token.Stands

/-- The text that a run of tokens covers has no blanks around it. -/
theorem Lexed.trimmed_run {source : Text} {tokens run : List Token} {first last : Token}
    (lexed : Lexed .start source tokens) (among : run <:+: tokens)
    (isFirst : run.head? = some first) (isLast : run.getLast? = some last) :
    (source.slice first.span.start last.span.stop).Trimmed := by
  have ordered := lexed.ordered.sublist among.sublist
  have firstIn := List.mem_of_mem_head? isFirst
  have lastIn := List.mem_of_getLast? isLast
  have proper : first.span.start < last.span.stop :=
    Nat.lt_of_lt_of_le (ordered.proper first firstIn) (ordered.stop_le_getLast firstIn isLast)
  have stands := lexed.stands
  have firstStands := stands first (among.subset firstIn)
  have lastStands := stands last (among.subset lastIn)
  exact trimmed_slice proper lastStands.stop_le_length firstStands.head_isBlank
    lastStands.getLast_isBlank

end GuardLang

import GuardLang.Proofs.Lexeme.Form

/-!
# The form of numbers

A number consists of runs of digits with marks between them:

    number = run ['.' run] [('e' | 'E') ['+' | '-'] run]

In a source a run is a digit with digits and underscores behind it.  What is left of a
number without its underscores has the same form, with runs of digits only.  So the
form leaves open what a run is.

Main statement: the number that a text begins with is the longest one
(`longest_numberOf`).
-/

namespace GuardLang.Lexeme

/-! ## Numbers and their parts -/

/-- A run in a source: a digit, and digits and underscores behind it. -/
inductive Run : Text → Prop
  | digits {first : Char} {rest : Text} : first.isDigit = true →
      (∀ c ∈ rest, c.isDigit = true ∨ c = '_') → Run (first :: rest)

/-- A fraction, which may be left out. -/
inductive Fraction (run : Text → Prop) : Text → Prop
  | none : Fraction run []
  | point {digits : Text} : run digits → Fraction run ('.' :: digits)

/-- An exponent, which may be left out. -/
inductive Exponent (run : Text → Prop) : Text → Prop
  | none : Exponent run []
  | marked {mark : Char} {sign digits : Text} : mark = 'e' ∨ mark = 'E' →
      sign ∈ [[], ['+'], ['-']] → run digits → Exponent run (mark :: (sign ++ digits))

/-- A text is a number with the given parts. -/
structure Numeral (run : Text → Prop) (text whole fraction exponent : Text) : Prop where
  text_eq : text = whole ++ (fraction ++ exponent)
  whole : run whole
  fraction : Fraction run fraction
  exponent : Exponent run exponent

/-- A text is a number as it is written in a source. -/
def IsNumber (text : Text) : Prop :=
  ∃ whole fraction exponent, Numeral Run text whole fraction exponent

/-! ## Runs -/

theorem continuesRun_iff {c : Char} : continuesRun c = true ↔ c.isDigit = true ∨ c = '_' := by
  simp [continuesRun]

theorem run_iff {text : Text} :
    Run text ↔ startsDigit text = true ∧ ∀ c ∈ text, continuesRun c = true := by
  constructor
  · rintro ⟨digit, passes⟩
    constructor
    · simpa [startsDigit] using digit
    · intro c member
      rcases List.mem_cons.1 member with rfl | member
      · exact continuesRun_iff.2 (.inl digit)
      · exact continuesRun_iff.2 (passes c member)
  · rintro ⟨digit, passes⟩
    cases text with
    | nil => cases digit
    | cons first rest =>
        apply Run.digits
        · simpa [startsDigit] using digit
        · intro c member
          exact continuesRun_iff.1 (passes c (List.mem_cons_of_mem _ member))

namespace Run

variable {text : Text}

theorem continues (run : Run text) : ∀ c ∈ text, continuesRun c = true :=
  (run_iff.1 run).2

theorem startsDigit_append (run : Run text) (after : Text) :
    startsDigit (text ++ after) = true := by
  cases run with
  | digits digit _ => simpa [startsDigit] using digit

/-- A run goes on as far as it can. -/
theorem runLength_append (run : Run text) (after : Text) :
    runLength (text ++ after) = text.length + runLength after := by
  rw [runLength, List.takeWhile_append_of_pos run.continues, List.length_append]
  rfl

/-- The characters that are taken for a run are one. -/
theorem take_runLength (digit : startsDigit text = true) : Run (text.take (runLength text)) := by
  have taken : text.take (runLength text) = text.takeWhile continuesRun :=
    (List.prefix_iff_eq_take.1 (List.takeWhile_prefix continuesRun)).symm
  rw [taken, run_iff]
  constructor
  · cases text with
    | nil => cases digit
    | cons first rest =>
        have passes : continuesRun first = true :=
          continuesRun_iff.2 (.inl (by simpa [startsDigit] using digit))
        rw [List.takeWhile_cons_of_pos passes]
        simpa [startsDigit] using digit
  · exact List.all_eq_true.1 List.all_takeWhile

end Run

/-! ## Fractions and exponents -/

theorem fractionLength_point {digits : Text} (run : Run digits) (after : Text) :
    fractionLength ('.' :: digits ++ after) = digits.length + 1 + runLength after := by
  have opens : opensFraction ('.' :: digits ++ after) := ⟨rfl, run.startsDigit_append after⟩
  rw [fractionLength_of_opens opens, List.cons_append, List.drop_one, List.tail_cons,
    run.runLength_append]
  omega

/-- A fraction that is taken is one. -/
theorem Fraction.take_fractionLength (text : Text) :
    Fraction Run (text.take (fractionLength text)) := by
  by_cases opens : opensFraction text
  · rw [fractionLength_of_opens opens]
    rcases text with _ | ⟨c, rest⟩
    · cases opens.1
    · have point : c = '.' := Option.some.inj opens.1
      rw [point, List.take_succ_cons]
      exact .point (Run.take_runLength opens.2)
  · rw [fractionLength_of_not_opens opens]
    exact .none

/-- The sign in front of a run is seen. -/
theorem signLength_append {sign digits : Text} (signed : sign ∈ [[], ['+'], ['-']])
    (run : Run digits) (after : Text) : signLength (sign ++ (digits ++ after)) = sign.length := by
  cases run with
  | @digits first rest digit _ =>
      have unsigned : ¬ (first = '+' ∨ first = '-') := by
        rintro (rfl | rfl)
        · exact absurd digit (by decide)
        · exact absurd digit (by decide)
      simp only [List.mem_cons, List.not_mem_nil, or_false] at signed
      rcases signed with rfl | rfl | rfl
      · simp [signLength_cons, unsigned]
      · rfl
      · rfl

/-- What is taken for a sign is one, or empty. -/
theorem take_signLength (text : Text) : text.take (signLength text) ∈ [[], ['+'], ['-']] := by
  cases text with
  | nil => simp
  | cons c rest =>
      rw [signLength_cons]
      split
      · rename_i sign
        rcases sign with rfl | rfl
        · simp
        · simp
      · simp

theorem exponentLength_marked {mark : Char} {sign digits : Text} (marks : mark = 'e' ∨ mark = 'E')
    (signed : sign ∈ [[], ['+'], ['-']]) (run : Run digits) (after : Text) :
    exponentLength (mark :: (sign ++ digits) ++ after) =
      (mark :: (sign ++ digits)).length + runLength after := by
  have sign_eq := signLength_append signed run after
  have behind : (sign ++ (digits ++ after)).drop (signLength (sign ++ (digits ++ after))) =
      digits ++ after := by
    rw [sign_eq, List.drop_left]
  have opens : opensExponent (mark :: (sign ++ (digits ++ after))) := by
    constructor
    · simpa using marks
    · rw [List.drop_one, List.tail_cons, behind]
      exact run.startsDigit_append after
  rw [List.cons_append, List.append_assoc, exponentLength_of_opens opens, List.drop_one,
    List.tail_cons, behind, run.runLength_append, sign_eq, List.length_cons, List.length_append]
  omega

/-- An exponent that is taken is one. -/
theorem Exponent.take_exponentLength (text : Text) :
    Exponent Run (text.take (exponentLength text)) := by
  by_cases opens : opensExponent text
  · rw [exponentLength_of_opens opens]
    rcases text with _ | ⟨mark, rest⟩
    · rcases opens.1 with absent | absent
      · cases absent
      · cases absent
    · rw [List.take_succ_cons, List.drop_one, List.tail_cons, Nat.add_comm, List.take_add]
      apply Exponent.marked
      · simpa using opens.1
      · exact take_signLength rest
      · exact Run.take_runLength opens.2
  · rw [exponentLength_of_not_opens opens]
    exact .none

/-- A number is one run if neither a fraction nor an exponent is there. -/
theorem Numeral.run_iff {text whole fraction exponent : Text}
    (numeral : Numeral Run text whole fraction exponent) :
    Run text ↔ fraction = [] ∧ exponent = [] := by
  constructor
  · intro run
    have continues : ∀ c ∈ fraction ++ exponent, continuesRun c = true := by
      intro c member
      exact run.continues c (numeral.text_eq ▸ List.mem_append_right whole member)
    constructor
    · cases numeral.fraction with
      | none => rfl
      | point _ => cases continues '.' (by simp)
    · cases numeral.exponent with
      | none => rfl
      | @marked mark _ _ marks _ _ =>
          have mark_continues := continues mark (by simp)
          rcases marks with rfl | rfl
          · cases mark_continues
          · cases mark_continues
  · rintro ⟨rfl, rfl⟩
    rw [numeral.text_eq, List.append_nil, List.append_nil]
    exact numeral.whole

/-! ## Longest numbers -/

/-- The number that a text begins with is one. -/
theorem isNumber_numberOf {text : Text} (digit : startsDigit text = true) :
    IsNumber (numberOf text) := by
  refine ⟨_, _, _, ?_, Run.take_runLength digit,
    Fraction.take_fractionLength (text.drop (runLength text)),
    Exponent.take_exponentLength
      (text.drop (runLength text + fractionLength (text.drop (runLength text))))⟩
  rw [numberOf, numberLength, List.take_add, List.take_add, List.append_assoc]

/-- No number at the beginning of a text is longer than the one that is taken.  Its parts
are where the reader looks for them: a mark ends the run in front of it. -/
theorem Numeral.length_le_numberLength {text whole fraction exponent : Text}
    (numeral : Numeral Run text whole fraction exponent) (after : Text) :
    text.length ≤ numberLength (text ++ after) := by
  have whole_run := numeral.whole
  rw [numeral.text_eq, List.append_assoc, List.append_assoc]
  simp only [numberLength, whole_run.runLength_append, List.length_append]
  have behind : ∀ rest : Text, (whole ++ rest).drop whole.length = rest :=
    fun _ => List.drop_left
  cases numeral.exponent with
  | none =>
      cases numeral.fraction with
      | none =>
          simp only [List.length_nil]
          omega
      | @point digits run =>
          have stops : runLength ('.' :: digits ++ ([] ++ after)) = 0 := rfl
          rw [stops, Nat.add_zero, behind, List.nil_append, fractionLength_point run]
          simp only [List.length_cons, List.length_nil]
          omega
  | @marked mark sign digits marks signed run =>
      have stops : runLength (mark :: (sign ++ digits) ++ after) = 0 := by
        rcases marks with rfl | rfl
        · rfl
        · rfl
      have exponent_eq := exponentLength_marked marks signed run after
      cases numeral.fraction with
      | none =>
          have pointless : fractionLength (mark :: (sign ++ digits) ++ after) = 0 := by
            apply fractionLength_of_not_opens
            rintro ⟨point, _⟩
            rcases marks with rfl | rfl
            · cases point
            · cases point
          rw [List.nil_append, stops, Nat.add_zero, behind, pointless, Nat.add_zero, behind,
            exponent_eq]
          simp only [List.length_nil]
          omega
      | @point decimals run' =>
          have ends : runLength ('.' :: decimals ++ (mark :: (sign ++ digits) ++ after)) = 0 := rfl
          have drops : (whole ++ ('.' :: decimals ++ (mark :: (sign ++ digits) ++ after))).drop
              (whole.length + (decimals.length + 1)) = mark :: (sign ++ digits) ++ after := by
            rw [← List.drop_drop, behind]
            exact List.drop_left
          rw [ends, Nat.add_zero, behind, fractionLength_point run', stops, Nat.add_zero, drops,
            exponent_eq]
          simp only [List.length_cons]
          omega

/-- The text is the longest of a form at the beginning of another one. -/
structure Longest (form : Text → Prop) (text found : Text) : Prop where
  formed : form found
  begins : found <+: text
  longest : ∀ other, form other → other <+: text → other <+: found

/-- Numbers are scanned by longest match. -/
theorem longest_numberOf {text : Text} (digit : startsDigit text = true) :
    Longest IsNumber text (numberOf text) := by
  have begins : numberOf text <+: text := List.take_prefix _ _
  refine ⟨isNumber_numberOf digit, begins, ?_⟩
  rintro other ⟨whole, fraction, exponent, numeral⟩ ⟨after, rfl⟩
  apply List.prefix_of_prefix_length_le (List.prefix_append other after) begins
  rw [numberOf, List.length_take, Nat.min_eq_left (numberLength_le _)]
  exact numeral.length_le_numberLength after

/-- The text of a number token is a number. -/
theorem Form.isNumber {written after : Text} {lexeme : Lexeme} (form : Form written lexeme after)
    (kind : lexeme.kind = .number) : IsNumber lexeme.value := by
  cases form with
  | number digit whole =>
      have number_eq : numberOf (written ++ after) = written := by
        rw [numberOf, whole, List.take_left]
      have starts : startsDigit (written ++ after) = true := by
        rw [startsDigit_append, digit]
        rintro rfl
        cases digit
      rw [← number_eq]
      exact isNumber_numberOf starts
  | pair pair => rcases pair?_cases pair with ⟨_, _, rfl⟩ | ⟨_, rfl⟩ <;> cases kind
  | single single _ =>
      rcases single?_cases single with ⟨_, mark, rfl⟩ | ⟨_, rfl⟩
      · unfold markKind? at mark
        split at mark <;> cases mark <;> cases kind
      · cases kind
  | _ => cases kind

end GuardLang.Lexeme

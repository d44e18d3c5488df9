import GuardLang.Proofs.Text.Boundary

/-!
# Where numbers end

The three parts of a number are measured on the whole text ahead, looking up to
three characters beyond what they take.  Each measure stays the same when the
text is cut behind the number, and so does the length of the number.
-/

namespace GuardLang.Lexeme

open Text

/-! ## Runs of digits -/

theorem runLength_cons (c : Char) (text : Text) :
    runLength (c :: text) = if continuesRun c then runLength text + 1 else 0 := by
  unfold runLength
  rw [List.takeWhile_cons]
  split <;> simp

theorem runLength_eq_zero_iff {text : Text} :
    runLength text = 0 ↔ ∀ c ∈ text.head?, continuesRun c = false := by
  cases text with
  | nil => simp [runLength]
  | cons c rest => simp [runLength_cons]

/-- A run that ends inside a text ends there whatever the text is cut to. -/
theorem runLength_clipped {text after other : Text} (clipped : Clipped after other)
    (inside : runLength (text ++ after) ≤ text.length) :
    runLength (text ++ other) = runLength (text ++ after) := by
  induction text with
  | nil =>
      have none : runLength after = 0 := Nat.le_zero.1 inside
      have stops := clipped.head?_of_forall
        (fun _ => continuesRun_eq_false_of_separates) (runLength_eq_zero_iff.1 none)
      exact (runLength_eq_zero_iff.2 stops).trans none.symm
  | cons c text ih =>
      simp only [List.cons_append, runLength_cons, List.length_cons] at inside ⊢
      split at inside
      · rw [ih (by omega)]
      · simp_all

/-- A run that has a digit to begin with takes it. -/
theorem runLength_pos_of_startsDigit {text : Text} (digit : startsDigit text = true) :
    0 < runLength text := by
  cases text with
  | nil => simp [startsDigit] at digit
  | cons c rest =>
      have first : c.isDigit = true := by simpa [startsDigit] using digit
      simp [runLength_cons, continuesRun, first]

theorem startsDigit_eq_false_iff {text : Text} :
    startsDigit text = false ↔ ∀ c ∈ text.head?, c.isDigit = false := by
  cases text with
  | nil => simp [startsDigit]
  | cons c rest => simp [startsDigit]

/-- A text that is cut begins with a digit only if it did before. -/
theorem startsDigit_of_clipped {after other : Text} (clipped : Clipped after other)
    (digit : startsDigit other = true) : startsDigit after = true := by
  cases first : startsDigit after with
  | true => rfl
  | false =>
      have still : startsDigit other = false := by
        refine startsDigit_eq_false_iff.2
          (clipped.head?_of_forall (fun c ends => ?_) (startsDigit_eq_false_iff.1 first))
        exact (Bool.or_eq_false_iff.1 (continuesRun_eq_false_of_separates ends)).1
      rw [digit] at still
      cases still

theorem startsDigit_append {text : Text} (nonempty : text ≠ []) (after : Text) :
    startsDigit (text ++ after) = startsDigit text := by
  cases text with
  | nil => exact absurd rfl nonempty
  | cons c text => rfl

/-! ## Fractions -/

/-- Whether a fraction begins here. -/
def opensFraction (text : Text) : Prop :=
  text.head? = some '.' ∧ startsDigit (text.drop 1) = true

theorem fractionLength_of_opens {text : Text} (opens : opensFraction text) :
    fractionLength text = runLength (text.drop 1) + 1 := by
  rcases text with _ | ⟨c, rest⟩
  · cases opens.1
  · have point : c = '.' := Option.some.inj opens.1
    have digit : startsDigit rest = true := opens.2
    simp [fractionLength, point, digit]

theorem fractionLength_of_not_opens {text : Text} (closed : ¬ opensFraction text) :
    fractionLength text = 0 := by
  rcases text with _ | ⟨c, rest⟩
  · rfl
  · have blocked : ¬ (c = '.' ∧ startsDigit rest = true) := by
      rintro ⟨rfl, digit⟩
      exact closed ⟨rfl, digit⟩
    simp only [fractionLength, blocked, if_false]

/-- A cut opens no fraction. -/
theorem opensFraction_of_clipped {after other : Text} (clipped : Clipped after other)
    (opens : opensFraction other) : opensFraction after := by
  cases clipped with
  | cut bounds =>
      exact absurd rfl (ne_of_separates (bounds '.' opens.1) (by decide))
  | keep behind => exact ⟨opens.1, startsDigit_of_clipped behind opens.2⟩

/-- A fraction that ends inside a text ends there whatever the text is cut to. -/
theorem fractionLength_clipped {text after other : Text} (clipped : Clipped after other)
    (inside : fractionLength (text ++ after) ≤ text.length) :
    fractionLength (text ++ other) = fractionLength (text ++ after) := by
  by_cases opens : opensFraction (text ++ after)
  · rw [fractionLength_of_opens opens] at inside ⊢
    have digits := runLength_pos_of_startsDigit opens.2
    rcases text with _ | ⟨c, text⟩
    · simp at inside
    · simp only [List.cons_append, List.drop_one, List.tail_cons, List.length_cons] at *
      have nonempty : text ≠ [] := by
        rintro rfl
        simp only [List.length_nil] at inside
        omega
      have still : opensFraction (c :: (text ++ other)) := by
        refine ⟨opens.1, ?_⟩
        have digit := opens.2
        simp only [List.drop_one, List.tail_cons] at digit ⊢
        rwa [startsDigit_append nonempty] at digit ⊢
      rw [fractionLength_of_opens still]
      simp only [List.drop_one, List.tail_cons]
      rw [runLength_clipped clipped (by omega)]
  · have still : ¬ opensFraction (text ++ other) :=
      fun opened => opens (opensFraction_of_clipped (clipped.append text) opened)
    rw [fractionLength_of_not_opens opens, fractionLength_of_not_opens still]

/-! ## Exponents -/

/-- Whether an exponent begins here. -/
def opensExponent (text : Text) : Prop :=
  (text.head? = some 'e' ∨ text.head? = some 'E') ∧
    startsDigit ((text.drop 1).drop (signLength (text.drop 1))) = true

theorem exponentLength_of_opens {text : Text} (opens : opensExponent text) :
    exponentLength text =
      runLength ((text.drop 1).drop (signLength (text.drop 1))) + signLength (text.drop 1) + 1 := by
  rcases text with _ | ⟨c, rest⟩
  · rcases opens.1 with mark | mark <;> cases mark
  · have mark : c = 'e' ∨ c = 'E' := by simpa using opens.1
    have digit : startsDigit (rest.drop (signLength rest)) = true := opens.2
    simp [exponentLength, mark, digit]

theorem exponentLength_of_not_opens {text : Text} (closed : ¬ opensExponent text) :
    exponentLength text = 0 := by
  rcases text with _ | ⟨c, rest⟩
  · rfl
  · have blocked : ¬ ((c = 'e' ∨ c = 'E') ∧
        startsDigit (rest.drop (signLength rest)) = true) := by
      rintro ⟨mark, digit⟩
      exact closed ⟨by simpa using mark, digit⟩
    simp only [exponentLength, blocked, if_false]

theorem signLength_cons (c : Char) (text : Text) :
    signLength (c :: text) = if c = '+' ∨ c = '-' then 1 else 0 := by
  simp [signLength]

/-- A cut puts no digits, with a sign or without, at the beginning of a text. -/
theorem startsDigit_drop_signLength_of_clipped {after other : Text}
    (clipped : Clipped after other)
    (digit : startsDigit (other.drop (signLength other)) = true) :
    startsDigit (after.drop (signLength after)) = true := by
  cases clipped with
  | cut bounds =>
      cases other with
      | nil => cases digit
      | cons c other =>
          have ends := bounds_cons_iff.1 bounds
          have unsigned : ¬ (c = '+' ∨ c = '-') := by
            rintro (sign | sign)
            · exact ne_of_separates ends (by decide) sign
            · exact ne_of_separates ends (by decide) sign
          have first : c.isDigit = true := by
            simpa [signLength_cons, unsigned, startsDigit] using digit
          have run := continuesRun_eq_false_of_separates ends
          simp [continuesRun, first] at run
  | @keep c after other behind =>
      rw [signLength_cons] at digit ⊢
      split at digit
      · rename_i sign
        rw [if_pos sign]
        exact startsDigit_of_clipped behind digit
      · rename_i unsigned
        rw [if_neg unsigned]
        exact digit

/-- A cut opens no exponent. -/
theorem opensExponent_of_clipped {after other : Text} (clipped : Clipped after other)
    (opens : opensExponent other) : opensExponent after := by
  rcases opens with ⟨mark, digit⟩
  cases clipped with
  | cut bounds =>
      rcases mark with mark | mark
      · exact absurd rfl (ne_of_separates (bounds 'e' mark) (by decide))
      · exact absurd rfl (ne_of_separates (bounds 'E' mark) (by decide))
  | keep behind => exact ⟨mark, startsDigit_drop_signLength_of_clipped behind digit⟩

/-- The sign and the digits of an exponent that ends inside a text stay what they
are whatever the text is cut to. -/
theorem signedDigits_clipped {text after other : Text} (clipped : Clipped after other)
    (digit : startsDigit ((text ++ after).drop (signLength (text ++ after))) = true)
    (inside : runLength ((text ++ after).drop (signLength (text ++ after))) +
      signLength (text ++ after) ≤ text.length) :
    signLength (text ++ other) = signLength (text ++ after) ∧
      startsDigit ((text ++ other).drop (signLength (text ++ other))) = true ∧
      runLength ((text ++ other).drop (signLength (text ++ other))) =
        runLength ((text ++ after).drop (signLength (text ++ after))) := by
  have digits := runLength_pos_of_startsDigit digit
  cases text with
  | nil =>
      simp only [List.length_nil] at inside
      omega
  | cons c text =>
      simp only [List.cons_append, signLength_cons] at *
      refine ⟨trivial, ?_⟩
      split at digit
      · rename_i sign
        simp only [sign, if_true, List.drop_one, List.tail_cons, List.length_cons] at *
        have nonempty : text ≠ [] := by
          rintro rfl
          simp only [List.length_nil] at inside
          omega
        constructor
        · rwa [startsDigit_append nonempty] at digit ⊢
        · exact runLength_clipped clipped (by omega)
      · rename_i unsigned
        simp only [unsigned, if_false, List.drop_zero, List.length_cons] at *
        exact ⟨digit, @runLength_clipped (c :: text) after other clipped inside⟩

/-- An exponent that ends inside a text ends there whatever the text is cut to. -/
theorem exponentLength_clipped {text after other : Text} (clipped : Clipped after other)
    (inside : exponentLength (text ++ after) ≤ text.length) :
    exponentLength (text ++ other) = exponentLength (text ++ after) := by
  by_cases opens : opensExponent (text ++ after)
  · rw [exponentLength_of_opens opens] at inside ⊢
    cases text with
    | nil => simp at inside
    | cons mark text =>
        simp only [List.cons_append, List.drop_one, List.tail_cons, List.length_cons] at inside ⊢
        rcases signedDigits_clipped clipped opens.2 (Nat.le_of_succ_le_succ inside) with
          ⟨sign_eq, digit, run_eq⟩
        have still : opensExponent (mark :: (text ++ other)) := ⟨opens.1, digit⟩
        rw [exponentLength_of_opens still]
        simp only [List.drop_one, List.tail_cons]
        rw [run_eq, sign_eq]
  · have still : ¬ opensExponent (text ++ other) :=
      fun opened => opens (opensExponent_of_clipped (clipped.append text) opened)
    rw [exponentLength_of_not_opens opens, exponentLength_of_not_opens still]

/-! ## Whole numbers -/

theorem runLength_le (text : Text) : runLength text ≤ text.length :=
  (List.takeWhile_prefix continuesRun).length_le

theorem fractionLength_le (text : Text) : fractionLength text ≤ text.length := by
  by_cases opens : opensFraction text
  · rw [fractionLength_of_opens opens]
    have digits := runLength_pos_of_startsDigit opens.2
    have run_le := runLength_le (text.drop 1)
    rw [List.length_drop] at run_le
    omega
  · rw [fractionLength_of_not_opens opens]
    exact Nat.zero_le _

theorem exponentLength_le (text : Text) : exponentLength text ≤ text.length := by
  by_cases opens : opensExponent text
  · rw [exponentLength_of_opens opens]
    have digits := runLength_pos_of_startsDigit opens.2
    have run_le := runLength_le ((text.drop 1).drop (signLength (text.drop 1)))
    rw [List.length_drop, List.length_drop] at run_le
    omega
  · rw [exponentLength_of_not_opens opens]
    exact Nat.zero_le _

/-- A number lies inside the text it begins. -/
theorem numberLength_le (text : Text) : numberLength text ≤ text.length := by
  have whole := runLength_le text
  have fraction := fractionLength_le (text.drop (runLength text))
  have exponent := exponentLength_le
    (text.drop (runLength text + fractionLength (text.drop (runLength text))))
  rw [List.length_drop] at fraction exponent
  simp only [numberLength]
  omega

/-- A number ends where it ended whatever the text behind it is cut to. -/
theorem numberLength_clipped {number after other : Text} (clipped : Clipped after other)
    (whole : numberLength (number ++ after) = number.length) :
    numberLength (number ++ other) = number.length := by
  have parts := whole
  simp only [numberLength] at parts ⊢
  generalize run_eq : runLength (number ++ after) = run at parts
  have run_le : run ≤ number.length := by omega
  rw [runLength_clipped clipped (by omega), run_eq]
  rw [List.drop_append_of_le_length run_le] at parts ⊢
  generalize fraction_eq : fractionLength (number.drop run ++ after) = fraction at parts
  have fraction_le : run + fraction ≤ number.length := by omega
  rw [fractionLength_clipped clipped (by rw [List.length_drop]; omega), fraction_eq]
  rw [List.drop_append_of_le_length fraction_le] at parts ⊢
  rw [exponentLength_clipped clipped (by rw [List.length_drop]; omega)]
  exact parts

end GuardLang.Lexeme

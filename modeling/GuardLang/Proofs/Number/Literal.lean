import GuardLang.Proofs.Lexeme.Numeral
import GuardLang.Proofs.Number.Decimal
import Mathlib.Data.List.Induction

/-!
# What literals are read as

A literal is handed to its type without underscores, with a minus sign in front or
without one.  What is handed over has the form of a number with runs of digits only.

An integer type reads such a text exactly if it is one run of digits, not too long,
whose value the type holds (`IntegerType.read_literal_iff`).  A floating point type
reads all of them, unless the number is too large (`FloatType.read_literal`).
-/

namespace GuardLang

open Lexeme

/-! ## Digits -/

namespace Text

/-- One digit or more, and nothing else. -/
def Digits (text : Text) : Prop := text ≠ [] ∧ text.Decimal

/-- The number that decimal digits stand for: each counts ten times as much as the one
behind it, and the last one counts once. -/
def decimalValue (digits : Text) : Nat :=
  Nat.ofDigits 10 (digits.reverse.map fun c => c.toNat - '0'.toNat)

/-- Digits that are read from the left make up the number that they stand for. -/
theorem ofDigitChars_eq_decimalValue (digits : Text) :
    Nat.ofDigitChars 10 digits 0 = digits.decimalValue := by
  induction digits using List.reverseRecOn with
  | nil => rfl
  | append_singleton digits c ih =>
      rw [Nat.ofDigitChars_append, ih, decimalValue, decimalValue, List.reverse_append,
        List.reverse_singleton, List.singleton_append, List.map_cons, Nat.ofDigits_cons,
        Nat.add_comm]
      rfl

end Text

/-! ## Literals without underscores -/

namespace Lexeme

open Number Text

/-- The digits of a run are what is left of it without underscores. -/
theorem Run.withoutUnderscores_eq {text : Text} (run : Run text) :
    withoutUnderscores text = text.filter Char.isDigit := by
  apply List.filter_congr
  intro c member
  rcases continuesRun_iff.1 (run.continues c member) with digit | rfl
  · rw [digit]
    simpa using (plain_of_isDigit digit).2.2.1
  · rfl

theorem Run.digits_withoutUnderscores {text : Text} (run : Run text) :
    Digits (withoutUnderscores text) := by
  rw [run.withoutUnderscores_eq]
  constructor
  · cases run with
    | digits digit _ => simp [digit]
  · intro c member
    exact (List.mem_filter.1 member).2

/-- A number without underscores has the same parts. -/
theorem Numeral.withoutUnderscores {text whole fraction exponent : Text}
    (numeral : Numeral Run text whole fraction exponent) :
    Numeral Digits (withoutUnderscores text) (withoutUnderscores whole)
      (withoutUnderscores fraction) (withoutUnderscores exponent) := by
  constructor
  · rw [numeral.text_eq]
    simp only [Number.withoutUnderscores, List.filter_append]
  · exact numeral.whole.digits_withoutUnderscores
  · cases numeral.fraction with
    | none => exact .none
    | point run => exact .point run.digits_withoutUnderscores
  · cases numeral.exponent with
    | none => exact .none
    | @marked mark sign digits marks signed run =>
        have kept : Number.withoutUnderscores (mark :: (sign ++ digits)) =
            mark :: (sign ++ Number.withoutUnderscores digits) := by
          simp only [List.mem_cons, List.not_mem_nil, or_false] at signed
          rcases marks with rfl | rfl <;> rcases signed with rfl | rfl | rfl <;> rfl
        rw [kept]
        exact .marked marks signed run.digits_withoutUnderscores

/-- Without underscores a fraction is left out only if it was. -/
theorem Fraction.withoutUnderscores_eq_nil_iff {fraction : Text}
    (isFraction : Fraction Run fraction) :
    Number.withoutUnderscores fraction = [] ↔ fraction = [] := by
  cases isFraction with
  | none => simp [Number.withoutUnderscores]
  | point _ => simp [Number.withoutUnderscores]

/-- Without underscores an exponent is left out only if it was. -/
theorem Exponent.withoutUnderscores_eq_nil_iff {exponent : Text}
    (isExponent : Exponent Run exponent) :
    Number.withoutUnderscores exponent = [] ↔ exponent = [] := by
  cases isExponent with
  | none => simp [Number.withoutUnderscores]
  | marked marks _ _ =>
      rcases marks with rfl | rfl <;> simp [Number.withoutUnderscores]

/-! ## The characters of a number -/

namespace Numeral

variable {body whole fraction exponent : Text}

/-- A number consists of digits, signs and marks. -/
theorem mem_cases (numeral : Numeral Digits body whole fraction exponent) :
    ∀ c ∈ body, c.isDigit = true ∨ c ∈ ['.', 'e', 'E', '+', '-'] := by
  have digits : ∀ {text : Text}, Digits text → ∀ c ∈ text,
      c.isDigit = true ∨ c ∈ ['.', 'e', 'E', '+', '-'] :=
    fun run c member => .inl (run.2 c member)
  intro c member
  rw [numeral.text_eq, List.mem_append, List.mem_append] at member
  rcases member with member | member | member
  · exact digits numeral.whole c member
  · cases numeral.fraction with
    | none => cases member
    | point run =>
        rcases List.mem_cons.1 member with rfl | member
        · simp
        · exact digits run c member
  · cases numeral.exponent with
    | none => cases member
    | @marked mark sign _ marks signed run =>
        rcases List.mem_cons.1 member with rfl | member
        · rcases marks with rfl | rfl <;> simp
        rcases List.mem_append.1 member with member | member
        · simp only [List.mem_cons, List.not_mem_nil, or_false] at signed
          rcases signed with rfl | rfl | rfl <;> simp_all
        · exact digits run c member

/-- A number has neither padding nor underscores. -/
theorem bare (numeral : Numeral Digits body whole fraction exponent) :
    ∀ c ∈ body, isPadding c = false ∧ c ≠ '_' := by
  have marks : ['.', 'e', 'E', '+', '-'].all (fun c => !isPadding c && c != '_') = true := by
    decide
  intro c member
  rcases numeral.mem_cases c member with digit | mark
  · exact ⟨(plain_of_isDigit digit).2.1, (plain_of_isDigit digit).2.2.1⟩
  · simpa using List.all_eq_true.1 marks c mark

/-- What stands behind the whole part does not go on with it. -/
theorem stops (numeral : Numeral Digits body whole fraction exponent) :
    ∀ c ∈ (fraction ++ exponent).head?, (Number.isDigit c || c == '_') = false := by
  intro c head
  cases numeral.fraction with
  | point _ =>
      cases head
      rfl
  | none =>
      cases numeral.exponent with
      | none => cases head
      | marked marks _ _ =>
          cases head
          rcases marks with rfl | rfl <;> rfl

end Numeral

end Lexeme

/-! ## Signs -/

namespace Number

/-- A minus sign, or none. -/
def signText (negative : Bool) : Text := if negative then ['-'] else []

/-- The sign in front of digits is split off. -/
theorem splitSign_of_digits {digits : Text} (isDigits : digits.Digits) (after : Text) :
    splitSign (digits ++ after) = (false, digits ++ after) := by
  rcases List.exists_cons_of_ne_nil isDigits.1 with ⟨first, rest, rfl⟩
  have digit := plain_of_isDigit (isDigits.2 first (by simp))
  unfold splitSign
  split
  · rename_i same
    exact absurd (List.cons.inj same).1 digit.2.2.2.1
  · rename_i same
    exact absurd (List.cons.inj same).1 digit.2.2.2.2
  · rfl

variable {body whole fraction exponent : Text}

theorem splitSign_signText (numeral : Numeral Text.Digits body whole fraction exponent)
    (negative : Bool) : splitSign (signText negative ++ body) = (negative, body) := by
  cases negative with
  | true => rfl
  | false =>
      rw [numeral.text_eq]
      exact splitSign_of_digits numeral.whole _

/-- A number with a sign has neither padding nor underscores. -/
theorem bare_signText (numeral : Numeral Text.Digits body whole fraction exponent)
    (negative : Bool) : ∀ c ∈ signText negative ++ body, isPadding c = false ∧ c ≠ '_' := by
  intro c member
  rcases List.mem_append.1 member with member | member
  · cases negative with
    | true =>
        rcases List.mem_singleton.1 member with rfl
        decide
    | false => cases member
  · exact numeral.bare c member

/-! ## Integers -/

/-- A number is an integer if it is one run of digits.  Too many digits in front are
refused whatever stands behind them. -/
theorem readInteger_numeral (numeral : Numeral Text.Digits body whole fraction exponent)
    (negative : Bool) :
    readInteger (signText negative ++ body) =
      if 4300 < whole.length then .error (.tooManyDigits whole.length)
      else if fraction ++ exponent ≠ [] then .error (.notInteger (signText negative ++ body))
      else .ok (if negative then -(whole.decimalValue : Int) else whole.decimalValue) := by
  have signed := splitSign_signText numeral negative
  nth_rewrite 2 [numeral.text_eq] at signed
  have read := readInteger_of_stops numeral.whole.2 numeral.whole.1 numeral.stops
    (fun c member => (bare_signText numeral negative c member).1) signed
  rw [Text.ofDigitChars_eq_decimalValue] at read
  exact read

/-! ## Doubles -/

/-- The power of ten that an exponent stands for. -/
def exponentValue (exponent : Text) : Int :=
  if '-' ∈ exponent then -(Text.decimalValue (exponent.filter Char.isDigit) : Int)
  else Text.decimalValue (exponent.filter Char.isDigit)

/-- Digits are kept, and all of them count. -/
theorem ofDigits_of_digits {digits : Text} (decimal : digits.Decimal) :
    digits.filter Char.isDigit = digits ∧ ofDigits digits = digits.decimalValue :=
  ⟨List.filter_eq_self.2 decimal, by
    rw [ofDigits_of_decimal decimal, Text.ofDigitChars_eq_decimalValue]⟩

/-- An exponent is read as the power that it stands for. -/
theorem readExponent_eq (isExponent : Exponent Text.Digits exponent) :
    readExponent exponent = some (exponentValue exponent) := by
  cases isExponent with
  | none => rfl
  | @marked mark sign digits marks signed isDigits =>
      have split : splitSign (sign ++ digits) = (decide (sign = ['-']), digits) := by
        simp only [List.mem_cons, List.not_mem_nil, or_false] at signed
        rcases signed with rfl | rfl | rfl
        · have plain := splitSign_of_digits isDigits []
          rwa [List.append_nil] at plain
        · rfl
        · rfl
      have all : digits.all isDigit = true := by
        rw [List.all_eq_true]
        exact fun c member => (plain_of_isDigit (isDigits.2 c member)).1
      have some : digits.isEmpty = false := by simpa using isDigits.1
      have kept := ofDigits_of_digits isDigits.2
      have value_eq : (mark :: (sign ++ digits)).filter Char.isDigit = digits := by
        simp only [List.mem_cons, List.not_mem_nil, or_false] at signed
        rcases marks with rfl | rfl <;> rcases signed with rfl | rfl | rfl <;> simpa using kept.1
      have minus : '-' ∈ mark :: (sign ++ digits) ↔ sign = ['-'] := by
        have absent : '-' ∉ digits :=
          fun member => (plain_of_isDigit (isDigits.2 _ member)).2.2.2.1 rfl
        simp only [List.mem_cons, List.not_mem_nil, or_false] at signed
        rcases marks with rfl | rfl <;> rcases signed with rfl | rfl | rfl <;> simp [absent]
      simp only [readExponent, split, marks, some, all, Bool.not_false, and_self, if_true,
        exponentValue, value_eq, minus, kept.2, decide_eq_true_eq]

/-- Digits are taken up to the first character that is none. -/
theorem dropWhile_append_of_stops {digits after : Text} (isDigits : digits.Digits)
    (stops : ∀ c ∈ after.head?, isDigit c = false) :
    (digits ++ after).takeWhile isDigit = digits ∧ (digits ++ after).dropWhile isDigit = after := by
  have taken : (digits ++ after).takeWhile isDigit = digits :=
    takeWhile_append_of_stops (fun c member => (plain_of_isDigit (isDigits.2 c member)).1) stops
  have whole := @List.takeWhile_append_dropWhile _ isDigit (digits ++ after)
  rw [taken] at whole
  exact ⟨taken, List.append_cancel_left whole⟩

/-- An exponent begins neither with a digit nor with a point. -/
theorem head?_of_exponent (isExponent : Exponent Text.Digits exponent) :
    (∀ c ∈ exponent.head?, isDigit c = false) ∧ exponent.head? ≠ some '.' := by
  cases isExponent with
  | none => simp
  | marked marks _ _ =>
      rcases marks with rfl | rfl
      · simp only [List.head?_cons, Option.mem_some_iff, forall_eq']
        decide
      · simp only [List.head?_cons, Option.mem_some_iff, forall_eq']
        decide

/-- A number is read as its digits with a power of ten. -/
theorem readFinite_eq (numeral : Numeral Text.Digits body whole fraction exponent)
    (negative : Bool) :
    readFinite negative body = some (.ofDecimal negative
      (Text.decimalValue ((whole ++ fraction).filter Char.isDigit))
      (exponentValue exponent - (fraction.filter Char.isDigit).length)) := by
  have stops : ∀ c ∈ (fraction ++ exponent).head?, isDigit c = false :=
    fun c head => (Bool.or_eq_false_iff.1 (numeral.stops c head)).1
  have wholly := dropWhile_append_of_stops numeral.whole stops
  rw [← numeral.text_eq] at wholly
  have nonempty : whole.isEmpty = false := by simpa using numeral.whole.1
  have ends := head?_of_exponent numeral.exponent
  have read := readExponent_eq numeral.exponent
  cases numeral.fraction with
  | none =>
      rw [List.nil_append] at wholly
      have kept := ofDigits_of_digits numeral.whole.2
      simp only [readFinite, wholly.1, wholly.2, ends.2, if_false, nonempty, Bool.false_and, read,
        List.append_nil, kept.1, kept.2, List.filter_nil]
      rfl
  | @point decimals isDigits =>
      have behind := dropWhile_append_of_stops isDigits ends.1
      have decimal : (whole ++ decimals).Decimal := by
        intro c member
        exact (List.mem_append.1 member).elim (numeral.whole.2 c) (isDigits.2 c)
      have kept := ofDigits_of_digits decimal
      have kept_decimals := ofDigits_of_digits isDigits.2
      have pointless : (whole ++ '.' :: decimals).filter Char.isDigit = whole ++ decimals := by
        rw [← kept.1, List.filter_append, List.filter_append]
        simp
      rw [List.cons_append] at wholly
      simp only [readFinite, wholly.1, wholly.2, List.head?_cons, if_true, List.drop_one,
        List.tail_cons, behind.1, behind.2, nonempty, Bool.false_and, read, pointless, kept.2]
      simp [kept_decimals.1]

/-- A number is none of the words for infinity and for no number. -/
theorem readMagnitude_eq (numeral : Numeral Text.Digits body whole fraction exponent)
    (negative : Bool) : readMagnitude negative body = readFinite negative body := by
  have first : ∃ c rest, body = c :: rest ∧ c.isDigit = true := by
    rcases List.exists_cons_of_ne_nil numeral.whole.1 with ⟨c, rest, rfl⟩
    exact ⟨c, _, numeral.text_eq, numeral.whole.2 c (by simp)⟩
  rcases first with ⟨c, rest, rfl, digit⟩
  have lower : c.toLower ≠ 'i' ∧ c.toLower ≠ 'n' :=
    forall_isDigit (fun c => c.toLower ≠ 'i' ∧ c.toLower ≠ 'n') (by decide) digit
  have apart : ∀ {word : String} {d : Char} {more : Text}, word.toList = d :: more →
      c.toLower ≠ d → String.ofList ((c :: rest).map Char.toLower) ≠ word := by
    intro word d more letters other same
    rw [← same, String.toList_ofList, List.map_cons] at letters
    exact other (List.cons.inj letters).1
  have inf : String.ofList ((c :: rest).map Char.toLower) ≠ "inf" := apart rfl lower.1
  have infinity : String.ofList ((c :: rest).map Char.toLower) ≠ "infinity" := apart rfl lower.1
  have nan : String.ofList ((c :: rest).map Char.toLower) ≠ "nan" := apart rfl lower.2
  simp only [readMagnitude, inf, infinity, nan, or_self, if_false]

/-- A number is never refused as a double. -/
theorem readDouble_eq (numeral : Numeral Text.Digits body whole fraction exponent)
    (negative : Bool) :
    readDouble (signText negative ++ body) = .ok (.ofDecimal negative
      (Text.decimalValue ((whole ++ fraction).filter Char.isDigit))
      (exponentValue exponent - (fraction.filter Char.isDigit).length)) := by
  have bare := bare_signText numeral negative
  have underscores := fun c member => (bare c member).2
  rw [readDouble, withoutUnderscores_of_forall underscores,
    trim_of_forall fun c member => (bare c member).1, splitSign_signText numeral negative]
  simp only [underscoresFit_of_forall underscores, if_true, readMagnitude_eq numeral,
    readFinite_eq numeral]

end Number

/-! ## Types -/

/-- A number is refused because its text has not the form that is called for. -/
def NumberFault.IllFormed : NumberFault → Prop
  | notInteger _ | notDecimal _ => True
  | _ => False

namespace IntegerType

variable {type : IntegerType} {negative : Bool} {value : Int}

/-- An integer is refused only if it lies outside the limits of the type. -/
theorem read_cases (type : IntegerType) {text : Text}
    (integer : Number.readInteger text = .ok value) :
    (type.minimum ≤ value ∧ value ≤ type.maximum ∧ type.read text = .ok value) ∨
      (¬ (type.minimum ≤ value ∧ value ≤ type.maximum) ∧
        ∃ fault, type.read text = .error fault ∧ ¬ fault.IllFormed) := by
  by_cases below : value < type.minimum
  · right
    refine ⟨fun inRange => Int.not_lt.2 inRange.1 below, .belowMinimum value, ?_, id⟩
    simp only [IntegerType.read, integer, bind, Except.bind, below, if_true]
    rfl
  by_cases above : type.maximum < value
  · right
    refine ⟨fun inRange => Int.not_lt.2 inRange.2 above, .aboveMaximum value, ?_, id⟩
    simp only [IntegerType.read, integer, bind, Except.bind, below, if_false, above, if_true]
    rfl
  · left
    have inRange := And.intro (Int.not_lt.1 below) (Int.not_lt.1 above)
    exact ⟨inRange.1, inRange.2, read_of_readInteger inRange integer⟩

theorem read_of_error {text : Text} {fault : NumberFault}
    (refused : Number.readInteger text = .error fault) : type.read text = .error fault := by
  rw [IntegerType.read, refused]
  rfl

/-- The literal, alone or behind a minus sign, denotes a number of the type: it has neither
a fraction nor an exponent and at most 4300 digits, and the type holds their value. -/
structure Denotes (type : IntegerType) (negative : Bool) (literal : Text) (value : Int) :
    Prop where
  run : Run literal
  few : (literal.filter Char.isDigit).length ≤ 4300
  value_eq : value = if negative then -(Text.decimalValue (literal.filter Char.isDigit) : Int)
    else Text.decimalValue (literal.filter Char.isDigit)
  least : type.minimum ≤ value
  greatest : value ≤ type.maximum

/-- An integer of the type is denoted by the digits of its magnitude, behind a minus sign
if it is negative. -/
theorem denotes_toDigits (inRange : type.minimum ≤ value ∧ value ≤ type.maximum) :
    type.Denotes (decide (value < 0)) (Nat.toDigits 10 value.natAbs) value := by
  have decimal := decimal_toDigits value.natAbs
  have kept : (Nat.toDigits 10 value.natAbs).filter Char.isDigit = Nat.toDigits 10 value.natAbs :=
    List.filter_eq_self.2 decimal
  refine ⟨?_, ?_, ?_, inRange.1, inRange.2⟩
  · rcases List.exists_cons_of_ne_nil (@Nat.toDigits_ne_nil value.natAbs 10) with
      ⟨first, rest, split⟩
    rw [split] at decimal ⊢
    exact .digits (decimal first List.mem_cons_self)
      fun c member => .inl (decimal c (List.mem_cons_of_mem _ member))
  · rw [kept]
    exact length_toDigits_le inRange
  · rw [kept, ← Text.ofDigitChars_eq_decimalValue, Nat.ofDigitChars_ten_toDigits]
    by_cases negative : value < 0
    · simp only [negative, decide_true, if_true]
      omega
    · simp only [negative, decide_false, Bool.false_eq_true, if_false]
      omega

theorem read_eq_ok_iff {text : Text} :
    type.read text = .ok value ↔
      Number.readInteger text = .ok value ∧ type.minimum ≤ value ∧ value ≤ type.maximum := by
  cases integer : Number.readInteger text with
  | error fault =>
      rw [read_of_error integer]
      simp
  | ok number =>
      rcases type.read_cases integer with ⟨least, greatest, read⟩ | ⟨outside, fault, read, _⟩
      · rw [read]
        constructor
        · rintro ⟨⟩
          exact ⟨rfl, least, greatest⟩
        · exact And.left
      · rw [read]
        constructor
        · rintro ⟨⟩
        · rintro ⟨⟨⟩, inRange⟩
          exact absurd inRange outside

/-- A literal is read as the number that it denotes. -/
theorem read_literal_iff {literal : Text} (isNumber : IsNumber literal) :
    type.read (Number.signText negative ++ Number.withoutUnderscores literal) = .ok value ↔
      type.Denotes negative literal value := by
  rcases isNumber with ⟨whole, fraction, exponent, numeral⟩
  rw [read_eq_ok_iff, Number.readInteger_numeral numeral.withoutUnderscores negative]
  by_cases run : Run literal
  · rcases numeral.run_iff.1 run with ⟨rfl, rfl⟩
    have whole_eq : whole = literal := by simp [numeral.text_eq]
    have behind : ¬ (Number.withoutUnderscores [] ++ Number.withoutUnderscores [] ≠ ([] : Text)) :=
      not_not.2 rfl
    rw [whole_eq, run.withoutUnderscores_eq, if_neg behind]
    constructor
    · rintro ⟨read, least, greatest⟩
      split at read
      · cases read
      · rename_i few
        exact ⟨run, Nat.not_lt.1 few, (Except.ok.inj read).symm, least, greatest⟩
    · intro denotes
      rw [if_neg (Nat.not_lt.2 denotes.few), denotes.value_eq]
      exact ⟨rfl, denotes.value_eq ▸ denotes.least, denotes.value_eq ▸ denotes.greatest⟩
  · have behind : Number.withoutUnderscores fraction ++ Number.withoutUnderscores exponent ≠ [] := by
      rw [ne_eq, List.append_eq_nil_iff, numeral.fraction.withoutUnderscores_eq_nil_iff,
        numeral.exponent.withoutUnderscores_eq_nil_iff, ← numeral.run_iff]
      exact run
    rw [if_pos behind]
    constructor
    · rintro ⟨read, _⟩
      split at read <;> cases read
    · intro denotes
      exact absurd denotes.run run

/-- A number whose whole part has at most 4300 digits is refused for its form exactly if a
fraction or an exponent is there. -/
theorem illFormed_iff (type : IntegerType) {body whole fraction exponent : Text}
    (numeral : Numeral Text.Digits body whole fraction exponent) (negative : Bool)
    (few : whole.length ≤ 4300) :
    (∃ fault, type.read (Number.signText negative ++ body) = .error fault ∧ fault.IllFormed) ↔
      fraction ≠ [] ∨ exponent ≠ [] := by
  have integer := Number.readInteger_numeral numeral negative
  rw [if_neg (Nat.not_lt.2 few)] at integer
  by_cases plain : fraction ++ exponent = []
  · rw [if_neg (not_not.2 plain)] at integer
    constructor
    · rintro ⟨fault, refused, illFormed⟩
      rcases type.read_cases integer with ⟨_, _, read⟩ | ⟨_, other, read, formed⟩
      · cases refused.symm.trans read
      · cases refused.symm.trans read
        exact absurd illFormed formed
    · intro present
      rcases List.append_eq_nil_iff.1 plain with ⟨rfl, rfl⟩
      simp at present
  · rw [if_pos plain] at integer
    constructor
    · intro _
      rwa [List.append_eq_nil_iff, not_and_or] at plain
    · intro _
      exact ⟨_, read_of_error integer, trivial⟩

/-- A number whose whole part has more than 4300 digits is refused for that. -/
theorem read_of_many (type : IntegerType) {body whole fraction exponent : Text}
    (numeral : Numeral Text.Digits body whole fraction exponent) (negative : Bool)
    (many : 4300 < whole.length) :
    type.read (Number.signText negative ++ body) = .error (.tooManyDigits whole.length) := by
  have integer := Number.readInteger_numeral numeral negative
  rw [if_pos many] at integer
  exact read_of_error integer

end IntegerType

namespace FloatType

/-- A number is refused only because it is too large. -/
theorem read_literal (type : FloatType) {body whole fraction exponent : Text}
    (numeral : Numeral Text.Digits body whole fraction exponent) (negative : Bool)
    {fault : NumberFault} (refused : type.read (Number.signText negative ++ body) = .error fault) :
    fault = .overflow (Number.signText negative ++ body) := by
  simp only [FloatType.read, Number.readDouble_eq numeral, bind, Except.bind] at refused
  split at refused
  · cases refused
    rfl
  · cases refused

end FloatType

end GuardLang

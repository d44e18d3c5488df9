import GuardLang.Guard.Range
import GuardLang.Number.Type
import GuardLang.Proofs.Lexeme.Form
import Mathlib.Data.Nat.Digits.Defs

/-!
# Numbers in decimal

A run of the ten decimal digits is a number literal, whatever separator stands
behind it, and is read as the number whose digits it holds.  An integer is written
as the digits of its magnitude, with a minus sign in front if it is negative, and no
number of an integer type has more digits than can be read.

Main statements: `Number.readInteger_of_stops` and `Lexeme.Form.decimal`.
-/

namespace GuardLang

/-- A text of decimal digits only. -/
def Text.Decimal (text : Text) : Prop := ∀ c ∈ text, c.isDigit = true

theorem decimal_toDigits (n : Nat) : Text.Decimal (Nat.toDigits 10 n) := by
  intro c member
  exact Nat.isDigit_of_mem_toDigits (by decide) (by decide) member

/-! ## Digits as characters -/

/-- A decimal digit stands for its distance from zero. -/
theorem Text.digitValue?_of_isDigit {c : Char} (digit : c.isDigit = true) :
    digitValue? c = some (c.toNat - 48) :=
  Lexeme.forall_isDigit (fun c => digitValue? c = some (c.toNat - 48)) (by decide +kernel) digit

namespace Number

/-- A decimal digit is a digit, and neither padding nor a sign nor an underscore. -/
theorem plain_of_isDigit {c : Char} (digit : c.isDigit = true) :
    isDigit c = true ∧ isPadding c = false ∧ c ≠ '_' ∧ c ≠ '-' ∧ c ≠ '+' :=
  Lexeme.forall_isDigit
    (fun c => isDigit c = true ∧ isPadding c = false ∧ c ≠ '_' ∧ c ≠ '-' ∧ c ≠ '+')
    (by decide +kernel) digit

/-! ## Reading digits -/

/-- A text without padding is left as it is. -/
theorem trim_of_forall {text : Text} (bare : ∀ c ∈ text, isPadding c = false) :
    trim text = text := by
  have kept : ∀ {text : Text}, (∀ c ∈ text, isPadding c = false) →
      text.dropWhile isPadding = text := by
    intro text bare
    cases text with
    | nil => rfl
    | cons c rest => rw [List.dropWhile_cons_of_neg (by simp [bare c])]
  rw [trim, kept bare, kept (by simpa using bare), List.reverse_reverse]

variable {digits : Text}

/-- A text without underscores is left as it is. -/
theorem withoutUnderscores_of_forall {text : Text} (bare : ∀ c ∈ text, c ≠ '_') :
    withoutUnderscores text = text := by
  apply List.filter_eq_self.2
  intro c member
  simpa using bare c member

theorem underscoresFit_of_forall {text : Text} (bare : ∀ c ∈ text, c ≠ '_') (digit : Bool) :
    underscoresFit digit text = true := by
  induction text generalizing digit with
  | nil => rfl
  | cons c rest ih =>
      rw [underscoresFit, if_neg (bare c (by simp))]
      exact ih (fun d member => bare d (List.mem_cons_of_mem _ member)) _

theorem ne_underscore_of_decimal (decimal : digits.Decimal) : ∀ c ∈ digits, c ≠ '_' :=
  fun c member => (plain_of_isDigit (decimal c member)).2.2.1

theorem withoutUnderscores_of_decimal (decimal : digits.Decimal) :
    withoutUnderscores digits = digits :=
  withoutUnderscores_of_forall (ne_underscore_of_decimal decimal)

/-- Digits are read as the number that they make up. -/
theorem ofDigits_of_decimal (decimal : digits.Decimal) :
    ofDigits digits = Nat.ofDigitChars 10 digits 0 := by
  have folded : ∀ (digits : Text) (init : Nat), digits.Decimal →
      (digits.filterMap Text.digitValue?).foldl (fun n d => 10 * n + d) init =
        Nat.ofDigitChars 10 digits init := by
    intro digits
    induction digits with
    | nil => simp
    | cons c rest ih =>
        intro init decimal
        rw [List.filterMap_cons_some (Text.digitValue?_of_isDigit (decimal c (by simp))),
          List.foldl_cons, ih _ fun d member => decimal d (List.mem_cons_of_mem _ member)]
        rfl
  exact folded digits 0 decimal

/-- Digits with a sign in front of them or without one, and whatever stands behind them.
Too many digits are refused before the rest is looked at. -/
theorem readInteger_of_stops {text tail : Text} {negative : Bool} (decimal : digits.Decimal)
    (nonempty : digits ≠ []) (stops : ∀ c ∈ tail.head?, (isDigit c || c == '_') = false)
    (bare : ∀ c ∈ text, isPadding c = false) (signed : splitSign text = (negative, digits ++ tail)) :
    readInteger text =
      if NumberFault.maxDigits < digits.length then .error (.tooManyDigits digits.length)
      else if tail ≠ [] then .error (.notInteger text)
      else .ok (if negative then -(Nat.ofDigitChars 10 digits 0 : Int)
        else Nat.ofDigitChars 10 digits 0) := by
  have passes : ∀ c ∈ digits, (isDigit c || c == '_') = true := by
    intro c member
    rw [(plain_of_isDigit (decimal c member)).1, Bool.true_or]
  have behind : digits.length < (digits ++ tail).length ↔ tail ≠ [] := by
    rw [List.length_append, ← List.length_pos_iff]
    omega
  rw [readInteger, trim_of_forall bare, signed]
  simp only [Lexeme.takeWhile_append_of_stops passes stops, withoutUnderscores_of_decimal decimal,
    underscoresFit_of_forall (ne_underscore_of_decimal decimal), ofDigits_of_decimal decimal, behind]
  rw [if_neg (by simp [nonempty])]

end Number

/-! ## Integers -/

/-- An integer in decimal: a minus sign if it is negative, and the digits of its
magnitude. -/
theorem toList_written (value : Int) :
    (Quantity.written value).toList =
      if value < 0 then '-' :: Nat.toDigits 10 value.natAbs else Nat.toDigits 10 value.natAbs := by
  change (toString value).toList = _
  rw [Int.toString_eq_repr, Int.repr_eq_if]
  split
  · rename_i nonneg
    have magnitude : value.toNat = value.natAbs := by omega
    rw [if_neg (Int.not_lt.2 nonneg), Nat.toList_repr, magnitude]
  · rename_i negative
    have magnitude : (-value).toNat = value.natAbs := by omega
    rw [if_pos (Int.not_le.1 negative), String.toList_append, Nat.toList_repr, magnitude]
    rfl

namespace IntegerType

variable {type : IntegerType} {value : Int}

/-- No number of an integer type has more digits than can be read. -/
theorem length_toDigits_le (inRange : type.minimum ≤ value ∧ value ≤ type.maximum) :
    (Nat.toDigits 10 value.natAbs).length ≤ NumberFault.maxDigits := by
  have least : -(10 ^ 40 : Int) < type.minimum := by cases type <;> decide
  have greatest : type.maximum < (10 ^ 40 : Int) := by cases type <;> decide
  have few : (Nat.toDigits 10 value.natAbs).length ≤ 40 :=
    Nat.toDigits_length 10 _ 40 (by decide) (by omega)
  exact Nat.le_trans few (by decide)

theorem read_of_readInteger {text : Text}
    (inRange : type.minimum ≤ value ∧ value ≤ type.maximum)
    (read : Number.readInteger text = .ok value) : type.read text = .ok value := by
  rw [IntegerType.read, read]
  simp only [bind, Except.bind, if_neg (Int.not_lt.2 inRange.1), if_neg (Int.not_lt.2 inRange.2)]
  rfl

end IntegerType

/-! ## Literals -/

/-- A run of digits is a number literal in front of every separator. -/
theorem Lexeme.Form.decimal {digits after : Text} (decimal : digits.Decimal)
    (nonempty : digits ≠ []) (bounds : after.Bounds) :
    Form digits ⟨.number, digits⟩ after := by
  have run : runLength digits = digits.length := by
    have passes : ∀ c ∈ digits, continuesRun c = true := by
      intro c member
      rw [continuesRun, decimal c member, Bool.true_or]
    have whole := @takeWhile_append_of_stops continuesRun digits [] passes (by simp)
    rw [List.append_nil] at whole
    rw [runLength, whole]
  have alone : numberLength (digits ++ []) = digits.length := by
    simp [numberLength, run, fractionLength, exponentLength]
  apply Form.number
  · cases digits with
    | nil => exact absurd rfl nonempty
    | cons c rest => simpa [startsDigit] using decimal c (by simp)
  · exact numberLength_clipped (.cut bounds) alone

end GuardLang

import GuardLang.Proofs.Number.Literal
import Mathlib.Algebra.Order.Field.Basic
import Mathlib.Data.Rat.Cast.Order
import Mathlib.Tactic.Linarith
import Mathlib.Tactic.FieldSimp
import Mathlib.Tactic.LinearCombination
import Mathlib.Tactic.Positivity
import Mathlib.Tactic.Ring
import Mathlib.Tactic.NormNum

/-!
# Which doubles literals denote

The doubles are the counts of units with at most 53 binary places and zeros behind
them.  A number is rounded to the one that is nearest to it, and half-way between two
of them to the even one; this determines it (`Nearest.eq`).

The reader divides with a remainder and leaves out exponents that are too great to be
computed with.  What it arrives at is nearest all the same
(`exists_nearest_ofDecimal`), so a literal is read as the double that is nearest to the
number it stands for, if the type is wide enough for it
(`FloatType.read_literal_iff`).
-/

namespace GuardLang

namespace Binary64

/-! ## Nearest counts -/

/-- A count of units that a double can hold: at most 53 binary places and zeros behind
them. -/
def Representable (units : Nat) : Prop :=
  ∃ significand exponent, significand < 2 ^ 53 ∧ units = significand * 2 ^ exponent

/-- No count that a double can hold is nearer to a number of units.  Of two that are equally
near, the even one is taken, which is a multiple of twice the distance between them. -/
structure Nearest (number : ℚ) (units : Nat) : Prop where
  representable : Representable units
  nearest : ∀ other, Representable other → |number - units| ≤ |number - other|
  even : ∀ other, Representable other → other ≠ units → |number - units| = |number - other| →
    2 * ((units : ℤ) - other).natAbs ∣ units

/-- Only one count is nearest: of two, each would be a multiple of twice their distance. -/
theorem Nearest.eq {number : ℚ} {units other : Nat} (nearest : Nearest number units)
    (nearest' : Nearest number other) : units = other := by
  by_contra differ
  have near := le_antisymm (nearest.nearest other nearest'.representable)
    (nearest'.nearest units nearest.representable)
  have left := nearest.even other nearest'.representable (Ne.symm differ) near
  have right := nearest'.even units nearest.representable differ near.symm
  rw [← Int.natAbs_neg, Int.neg_sub] at right
  have both := Int.dvd_sub (Int.natCast_dvd_natCast.2 left) (Int.natCast_dvd_natCast.2 right)
  have positive : 0 < ((units : ℤ) - other).natAbs := Int.natAbs_pos.2 (by omega)
  have small := Nat.le_of_dvd positive (Int.natCast_dvd.1 both)
  omega

/-! ## Rounding to a step -/

/-- The error of a number that is rounded to the nearest step is at most half a step, and
half a step only towards an even count. -/
def Rounds (number : ℚ) (step count : Nat) : Prop :=
  |number - count * step| < step / 2 ∨ |number - count * step| = step / 2 ∧ Even count

/-- The integer nearest to a quotient, with the remainder that tells on which side it lies. -/
theorem nearest_cases (numerator denominator : Nat) :
    (nearest numerator denominator = numerator / denominator ∧
        (2 * (numerator % denominator) < denominator ∨
          2 * (numerator % denominator) = denominator ∧ Even (nearest numerator denominator))) ∨
      (nearest numerator denominator = numerator / denominator + 1 ∧
        (denominator < 2 * (numerator % denominator) ∨
          2 * (numerator % denominator) = denominator ∧ Even (nearest numerator denominator))) := by
  simp only [nearest, Nat.even_iff]
  split
  · exact .inl ⟨rfl, .inl ‹_›⟩
  · split
    · exact .inr ⟨rfl, .inl ‹_›⟩
    · omega

/-- The distance from what a quotient is rounded to, in parts of the denominator. -/
theorem natAbs_sub_nearest (numerator : Nat) {denominator : Nat} (positive : 0 < denominator) :
    2 * ((numerator : ℤ) - nearest numerator denominator * denominator).natAbs < denominator ∨
      2 * ((numerator : ℤ) - nearest numerator denominator * denominator).natAbs = denominator ∧
        Even (nearest numerator denominator) := by
  have split : (denominator * (numerator / denominator : Nat) : ℤ) +
      (numerator % denominator : Nat) = numerator := by
    exact_mod_cast Nat.div_add_mod numerator denominator
  have below := Nat.mod_lt numerator positive
  have cases := nearest_cases numerator denominator
  generalize nearest numerator denominator = count at cases ⊢
  generalize numerator % denominator = rest at cases split below
  generalize numerator / denominator = quotient at cases split
  rcases cases with ⟨rfl, side⟩ | ⟨rfl, side⟩
  · have error : (numerator : ℤ) - count * denominator = rest := by linear_combination -split
    rwa [error, Int.natAbs_natCast]
  · have error : (numerator : ℤ) - (quotient + 1 : Nat) * denominator = rest - denominator := by
      push_cast
      linear_combination -split
    have distance : ((rest : ℤ) - denominator).natAbs = denominator - rest := by omega
    rw [error, distance]
    rcases side with more | ⟨tie, even⟩
    · exact .inl (by omega)
    · exact .inr ⟨by omega, even⟩

/-- A quotient is rounded to the nearest multiple of a step. -/
theorem rounds_nearest (numerator : Nat) {denominator step : Nat} (positive : 0 < denominator)
    (step_pos : 0 < step) :
    Rounds (numerator / denominator) step (nearest numerator (denominator * step)) := by
  have denominator_pos : (0 : ℚ) < denominator := Nat.cast_pos.2 positive
  -- The error is counted in parts of the denominator.
  have error : ∀ count : Nat, |(numerator : ℚ) / denominator - count * step| =
      ((numerator : ℤ) - count * (denominator * step : Nat)).natAbs / denominator := by
    intro count
    rw [Nat.cast_natAbs, ← abs_of_pos denominator_pos, Int.cast_abs, ← abs_div,
      abs_of_pos denominator_pos]
    push_cast
    congr 1
    field_simp
  have half : (step : ℚ) / 2 = ((denominator * step : Nat) : ℚ) / 2 / denominator := by
    push_cast
    field_simp
  have distance := natAbs_sub_nearest numerator (Nat.mul_pos positive step_pos)
  rw [Rounds, error, half, div_lt_div_iff_of_pos_right denominator_pos,
    div_left_inj' denominator_pos.ne', lt_div_iff₀ two_pos, eq_div_iff two_ne_zero, mul_comm _ 2]
  exact_mod_cast distance

section

variable {number : ℚ} {step count : Nat}

theorem Rounds.error_le (rounds : Rounds number step count) :
    |number - count * step| ≤ step / 2 := by
  rcases rounds with less | ⟨tie, _⟩
  · exact less.le
  · exact tie.le

/-- Two multiples of a step are as far apart as they differ in count. -/
theorem natAbs_mul_le (number : ℚ) (step count other : Nat) :
    (((count : ℤ) - other).natAbs : ℚ) * step ≤
      |number - count * step| + |number - other * step| := by
  have distance : (((count : ℤ) - other).natAbs : ℚ) = |(count : ℚ) - other| := by
    rw [Nat.cast_natAbs, Int.cast_abs, Int.cast_sub, Int.cast_natCast, Int.cast_natCast]
  have triangle := abs_sub_le (count * step : ℚ) number (other * step)
  rw [← sub_mul, abs_mul, Nat.abs_cast, ← distance, abs_sub_comm (_ * _) number] at triangle
  exact triangle

/-- A number is rounded to the nearest multiple of the step; of two that are equally near,
the even one is taken, and the other one lies one step away. -/
theorem Rounds.nearest_multiple (rounds : Rounds number step count) (step_pos : 0 < step)
    {other : Nat} (differ : other ≠ count) :
    |number - count * step| ≤ |number - other * step| ∧
      (|number - count * step| = |number - other * step| →
        ((count : ℤ) - other).natAbs = 1 ∧ Even count) := by
  have apart := natAbs_mul_le number step count other
  have positive : (0 : ℚ) < step := Nat.cast_pos.2 step_pos
  have differs : 1 ≤ ((count : ℤ) - other).natAbs := by omega
  have one_le : (1 : ℚ) ≤ ((count : ℤ) - other).natAbs := Nat.one_le_cast.2 differs
  have far : (step : ℚ) ≤ |number - count * step| + |number - other * step| :=
    (le_mul_of_one_le_left positive.le one_le).trans apart
  have error := rounds.error_le
  refine ⟨by linarith, fun tie => ?_⟩
  rcases rounds with less | ⟨half, even⟩
  · linarith
  · refine ⟨?_, even⟩
    have near : (((count : ℤ) - other).natAbs : ℚ) * step ≤ 1 * step := by linarith
    have bound : ((count : ℤ) - other).natAbs ≤ 1 := by
      exact_mod_cast le_of_mul_le_mul_right near positive
    omega

end

/-! ## Rounding to 53 binary places -/

section

variable {number : ℚ} {places count : Nat}

/-- A multiple of a step of so many binary places that is rounded to is representable, also
if it has one place more. -/
theorem Rounds.representable (rounds : Rounds number (2 ^ places) count)
    (below : number < (2 ^ 53 : Nat) * (2 ^ places : Nat)) : Representable (count * 2 ^ places) := by
  have step_pos : (0 : ℚ) < (2 ^ places : Nat) := Nat.cast_pos.2 (Nat.two_pow_pos places)
  have error := (abs_le.1 rounds.error_le).1
  have reaches : (count : ℚ) * (2 ^ places : Nat) < (2 ^ 53 + 1 : Nat) * (2 ^ places : Nat) := by
    rw [Nat.cast_succ]
    linarith
  have few : count < 2 ^ 53 + 1 := by
    exact_mod_cast lt_of_mul_lt_mul_right reaches step_pos.le
  rcases Nat.lt_succ_iff_lt_or_eq.1 few with fits | rfl
  · exact ⟨count, places, fits, rfl⟩
  · exact ⟨2 ^ 52, places + 1, by norm_num, by ring⟩

/-- What has binary places behind the step is farther away. -/
theorem Rounds.lt_of_finer (rounds : Rounds number (2 ^ places) count)
    (above : ((2 ^ 52 : Nat) : ℚ) * (2 ^ places : Nat) ≤ number) {other : Nat}
    (finer : other < 2 ^ 52 * 2 ^ places) :
    |number - count * (2 ^ places : Nat)| < |number - other| := by
  have step_pos := Nat.two_pow_pos places
  have less : (other : ℚ) < (2 ^ 52 : Nat) * (2 ^ places : Nat) := by exact_mod_cast finer
  have error : |number - count * (2 ^ places : Nat)| ≤
      number - (2 ^ 52 : Nat) * (2 ^ places : Nat) := by
    rw [← abs_of_nonneg (sub_nonneg.2 above)]
    by_cases same : 2 ^ 52 = count
    · rw [same]
    · exact (rounds.nearest_multiple step_pos same).1
  rw [abs_of_pos (sub_pos.2 (less.trans_le above))]
  linarith

/-- To round to the nearest step is to round to the nearest representable count, if the step
is that of the last of 53 binary places. -/
theorem Rounds.nearest (rounds : Rounds number (2 ^ places) count)
    (below : number < (2 ^ 53 : Nat) * (2 ^ places : Nat))
    (above : places = 0 ∨ ((2 ^ 52 : Nat) : ℚ) * (2 ^ places : Nat) ≤ number) :
    Nearest number (count * 2 ^ places) := by
  have cases : ∀ other, Representable other →
      (∃ multiple, other = multiple * 2 ^ places) ∨
        |number - (count * 2 ^ places : Nat)| < |number - other| := by
    rintro _ ⟨significand, exponent, fits, rfl⟩
    rcases Nat.lt_or_ge exponent places with finer | coarser
    · right
      rw [Nat.cast_mul]
      refine rounds.lt_of_finer (above.resolve_left (by omega)) ?_
      calc
        significand * 2 ^ exponent < 2 ^ 53 * 2 ^ exponent :=
          Nat.mul_lt_mul_of_pos_right fits (Nat.two_pow_pos exponent)
        _ = 2 ^ 52 * 2 ^ (exponent + 1) := by ring
        _ ≤ 2 ^ 52 * 2 ^ places := Nat.mul_le_mul_left _ (Nat.pow_le_pow_right (by decide) finer)
    · left
      exact ⟨significand * 2 ^ (exponent - places), by
        rw [Nat.mul_assoc, ← Nat.pow_add, Nat.sub_add_cancel coarser]⟩
  have step_pos := Nat.two_pow_pos places
  refine ⟨rounds.representable below, ?_, ?_⟩
  · intro other representable
    rcases cases other representable with ⟨multiple, rfl⟩ | farther
    · by_cases same : multiple = count
      · rw [same]
      · rw [Nat.cast_mul, Nat.cast_mul]
        exact (rounds.nearest_multiple step_pos same).1
    · exact farther.le
  · intro other representable differ tie
    rcases cases other representable with ⟨multiple, rfl⟩ | farther
    · have apart : multiple ≠ count := fun same => differ (by rw [same])
      rw [Nat.cast_mul, Nat.cast_mul] at tie
      rcases (rounds.nearest_multiple step_pos apart).2 tie with ⟨next, even⟩
      rw [Nat.cast_mul, Nat.cast_mul, ← Int.sub_mul, Int.natAbs_mul, next, Int.natAbs_natCast,
        Nat.one_mul]
      exact Nat.mul_dvd_mul_right even.two_dvd _
    · exact absurd tie farther.ne

end

/-! ## Ratios and decimals -/

/-- The binary places that the last of 53 stands at are enough for a count. -/
theorem lt_of_excess (units : Nat) : units < 2 ^ 53 * 2 ^ excess units := by
  rw [← Nat.pow_add]
  exact Nat.lt_of_lt_of_le Nat.lt_log2_self
    (Nat.pow_le_pow_right (by decide) (by unfold excess; omega))

/-- A count that has more than 53 binary places has no fewer. -/
theorem le_of_excess {units : Nat} (more : excess units ≠ 0) :
    2 ^ 52 * 2 ^ excess units ≤ units := by
  have places : 52 + excess units = units.log2 := by
    unfold excess at more ⊢
    omega
  rw [← Nat.pow_add, places]
  refine Nat.log2_self_le ?_
  rintro rfl
  exact more rfl

/-- A quotient is rounded to the nearest double, or to infinity if this lies beyond them. -/
theorem exists_nearest_ofRatio (negative : Bool) (numerator : Nat) {denominator : Nat}
    (positive : 0 < denominator) :
    ∃ units, Nearest (numerator / denominator) units ∧
      ofRatio negative numerator denominator =
        if units < bound then finite negative units else infinite negative := by
  have denominator_pos : (0 : ℚ) < denominator := Nat.cast_pos.2 positive
  have floor_le : ((numerator / denominator : Nat) : ℚ) ≤ numerator / denominator := by
    rw [le_div_iff₀ denominator_pos]
    exact_mod_cast Nat.div_mul_le_self numerator denominator
  have lt_floor : (numerator / denominator : ℚ) < (numerator / denominator + 1 : Nat) := by
    rw [div_lt_iff₀ denominator_pos, mul_comm]
    exact_mod_cast Nat.lt_mul_div_succ numerator positive
  have rounds := rounds_nearest numerator positive
    (Nat.two_pow_pos (excess (numerator / denominator)))
  refine ⟨_, rounds.nearest ?_ ?_, by simp only [ofRatio, Nat.pow_eq]⟩
  · refine lt_floor.trans_le ?_
    exact_mod_cast lt_of_excess (numerator / denominator)
  · rw [or_iff_not_imp_left]
    intro more
    refine le_trans ?_ floor_le
    exact_mod_cast le_of_excess more

/-- What is nearest to a number is not on the other side of a representable count. -/
theorem Nearest.le_of_le {number : ℚ} {units other : Nat} (nearest : Nearest number units)
    (representable : Representable other) (reaches : (other : ℚ) ≤ number) : other ≤ units := by
  have near := nearest.nearest other representable
  by_contra below
  have less : (units : ℚ) < other := Nat.cast_lt.2 (Nat.not_le.1 below)
  rw [abs_of_nonneg (sub_nonneg.2 reaches), abs_of_pos (sub_pos.2 (less.trans_le reaches))] at near
  linarith

/-- What is less than half a unit is nearest to zero. -/
theorem nearest_zero {number : ℚ} (nonneg : 0 ≤ number) (less : number < 1 / 2) :
    Nearest number 0 := by
  have farther : ∀ other : Nat, other ≠ 0 → |number - (0 : Nat)| < |number - other| := by
    intro other nonzero
    have one_le : (1 : ℚ) ≤ other := Nat.one_le_cast.2 (Nat.pos_of_ne_zero nonzero)
    rw [Nat.cast_zero, sub_zero, abs_of_nonneg nonneg, abs_of_neg (by linarith)]
    linarith
  refine ⟨⟨0, 0, by decide, rfl⟩, ?_, ?_⟩
  · intro other _
    by_cases zero : other = 0
    · rw [zero]
    · exact (farther other zero).le
  · intro other _ nonzero tie
    exact absurd tie (farther other nonzero).ne

/-- Ten has more than three binary places. -/
theorem two_pow_le_ten_pow (n : Nat) : 2 ^ (3 * n) ≤ 10 ^ n := by
  rw [Nat.pow_mul]
  exact Nat.pow_le_pow_left (by decide) n

/-- One is a power of two in units, and so is the end of the doubles.  The exponents are
kept apart from the powers, which are too great to be computed. -/
theorem exists_exponents :
    ∃ unit places, one = 2 ^ unit ∧ unit = 1074 ∧ bound = 2 ^ places ∧ places = 2098 := by
  refine ⟨1074, 2098, ?_, rfl, ?_, rfl⟩
  · unfold one
    generalize 1074 = exponent
    rfl
  · unfold bound
    generalize 2098 = exponent
    rfl

theorem representable_bound : Representable bound := by
  rcases exists_exponents with ⟨_, places, _, _, bound_eq, _⟩
  exact ⟨1, places, by decide, by rw [bound_eq, Nat.one_mul]⟩

/-- A decimal whose exponent is great enough lies beyond the doubles. -/
theorem bound_le_of_exponent {digits : Nat} (nonzero : digits ≠ 0) {exponent : Nat}
    (great : 400 < exponent) : bound ≤ digits * 10 ^ exponent * one := by
  rcases exists_exponents with ⟨unit, places, one_eq, unit_eq, bound_eq, places_eq⟩
  rw [bound_eq, one_eq]
  calc
    2 ^ places ≤ 2 ^ (3 * exponent) * 2 ^ unit := by
      rw [← Nat.pow_add]
      exact Nat.pow_le_pow_right (by decide) (by omega)
    _ ≤ digits * 10 ^ exponent * 2 ^ unit := by
      refine Nat.mul_le_mul_right _ ?_
      exact (two_pow_le_ten_pow exponent).trans
        (Nat.le_mul_of_pos_left _ (Nat.pos_of_ne_zero nonzero))

/-- A decimal whose exponent is small enough is less than half a unit. -/
theorem lt_of_exponent {digits exponent : Nat} (small : digits.log2 + 401 < exponent) :
    digits * one * 2 < 10 ^ exponent := by
  rcases exists_exponents with ⟨unit, _, one_eq, unit_eq, _⟩
  rw [one_eq]
  calc
    digits * 2 ^ unit * 2 < 2 ^ (digits.log2 + 1) * 2 ^ unit * 2 :=
      Nat.mul_lt_mul_of_pos_right
        (Nat.mul_lt_mul_of_pos_right Nat.lt_log2_self (Nat.two_pow_pos unit)) (by decide)
    _ = 2 ^ (digits.log2 + 1 + unit + 1) := by
      rw [← Nat.pow_add, ← Nat.pow_succ]
    _ ≤ 2 ^ (3 * exponent) := Nat.pow_le_pow_right (by decide) (by omega)
    _ ≤ 10 ^ exponent := two_pow_le_ten_pow exponent

/-- A decimal is a quotient of whole numbers. -/
theorem decimal_eq_div (digits : Nat) (exponent : Int) :
    (digits * 10 ^ exponent * one : ℚ) =
      (digits * 10 ^ exponent.toNat * one : Nat) / (10 ^ (-exponent).toNat : Nat) := by
  rcases Int.le_total 0 exponent with nonneg | nonpos
  · have none : (-exponent).toNat = 0 := by omega
    have all : (10 : ℚ) ^ exponent = 10 ^ exponent.toNat := by
      rw [← zpow_natCast, Int.toNat_of_nonneg nonneg]
    rw [none, all]
    push_cast
    rw [div_one]
  · have none : exponent.toNat = 0 := by omega
    have all : (10 : ℚ) ^ exponent = (10 ^ (-exponent).toNat)⁻¹ := by
      rw [← zpow_natCast, Int.toNat_of_nonneg (by omega), zpow_neg, inv_inv]
    rw [none, all]
    push_cast
    rw [mul_one, div_eq_mul_inv, mul_right_comm]

/-- A decimal is rounded to the nearest double, or to infinity if this lies beyond them. -/
theorem exists_nearest_ofDecimal (negative : Bool) (digits : Nat) (exponent : Int) :
    ∃ units, Nearest (digits * 10 ^ exponent * one) units ∧
      ofDecimal negative digits exponent =
        if units < bound then finite negative units else infinite negative := by
  have bound_pos : 0 < bound := by
    rcases exists_exponents with ⟨_, places, _, _, bound_eq, _⟩
    rw [bound_eq]
    exact Nat.two_pow_pos places
  have ten_pos : 0 < 10 ^ (-exponent).toNat := Nat.pow_pos (by decide)
  have rounded := exists_nearest_ofRatio negative (digits * 10 ^ exponent.toNat * one) ten_pos
  rw [← decimal_eq_div] at rounded
  by_cases zero : digits = 0
  · have none : (digits * 10 ^ exponent * one : ℚ) = 0 := by
      rw [zero, Nat.cast_zero, zero_mul, zero_mul]
    refine ⟨0, nearest_zero none.ge (none.trans_lt one_half_pos), ?_⟩
    rw [ofDecimal, if_pos zero, if_pos bound_pos]
  by_cases great : 400 < exponent
  · rcases rounded with ⟨units, nearest, _⟩
    have reaches : ((bound : Nat) : ℚ) ≤ digits * 10 ^ exponent * one := by
      have all : (10 : ℚ) ^ exponent = (10 ^ exponent.toNat : Nat) := by
        rw [Nat.cast_pow, ← zpow_natCast, Int.toNat_of_nonneg (by omega)]
        rfl
      rw [all, ← Nat.cast_mul, ← Nat.cast_mul, Nat.cast_le]
      exact bound_le_of_exponent zero (by omega)
    refine ⟨units, nearest, ?_⟩
    rw [ofDecimal, if_neg zero, if_pos great,
      if_neg (Nat.not_lt.2 (nearest.le_of_le representable_bound reaches))]
  by_cases small : (digits.log2 : Int) + 401 + exponent < 0
  · refine ⟨0, nearest_zero ?_ ?_, ?_⟩
    · rw [decimal_eq_div]
      exact div_nonneg (Nat.cast_nonneg _) (Nat.cast_nonneg _)
    · have none : exponent.toNat = 0 := by omega
      have less : ((digits * one * 2 : Nat) : ℚ) < (10 ^ (-exponent).toNat : Nat) :=
        Nat.cast_lt.2 (lt_of_exponent (by omega))
      rw [Nat.cast_mul, Nat.cast_ofNat] at less
      rw [decimal_eq_div, none, Nat.pow_zero, Nat.mul_one,
        div_lt_div_iff₀ (Nat.cast_pos.2 ten_pos) two_pos, one_mul]
      exact less
    · rw [ofDecimal, if_neg zero, if_neg great, if_pos small, if_pos bound_pos]
  · rcases rounded with ⟨units, nearest, ratio⟩
    refine ⟨units, nearest, ?_⟩
    rw [ofDecimal, if_neg zero, if_neg great, if_neg small]
    exact ratio

end Binary64

/-! ## Literals -/

namespace Number

open Lexeme

variable {literal whole fraction exponent : Text}

/-- The number that the parts of a literal stand for: its digits, those behind the point
counted off from the power of ten. -/
def magnitude (whole fraction exponent : Text) : ℚ :=
  Text.decimalValue ((whole ++ fraction).filter Char.isDigit) *
    10 ^ (exponentValue exponent - (fraction.filter Char.isDigit).length)

/-- A literal without underscores has the same digits. -/
theorem filter_withoutUnderscores (text : Text) :
    (withoutUnderscores text).filter Char.isDigit = text.filter Char.isDigit := by
  rw [withoutUnderscores, List.filter_filter]
  apply List.filter_congr
  intro c _
  by_cases underscore : c = '_'
  · rw [underscore]
    rfl
  · simp [underscore]

/-- A literal without underscores stands for the same number. -/
theorem magnitude_withoutUnderscores (whole fraction exponent : Text) :
    magnitude (withoutUnderscores whole) (withoutUnderscores fraction)
      (withoutUnderscores exponent) = magnitude whole fraction exponent := by
  have signed : '-' ∈ withoutUnderscores exponent ↔ '-' ∈ exponent := by
    simp [withoutUnderscores]
  simp only [magnitude, exponentValue, List.filter_append, filter_withoutUnderscores, signed]

/-- A literal is read as the double nearest to the number that it stands for, or as
infinity. -/
theorem exists_nearest_readDouble (numeral : Numeral Run literal whole fraction exponent)
    (negative : Bool) :
    ∃ units, Binary64.Nearest (magnitude whole fraction exponent * Binary64.one) units ∧
      readDouble (signText negative ++ withoutUnderscores literal) =
        .ok (if units < Binary64.bound then .finite negative units else .infinite negative) := by
  rw [← magnitude_withoutUnderscores whole fraction exponent,
    readDouble_eq numeral.withoutUnderscores negative]
  rcases Binary64.exists_nearest_ofDecimal negative _ _ with ⟨units, nearest, rounded⟩
  exact ⟨units, nearest, congrArg Except.ok rounded⟩

end Number

namespace FloatType

open Lexeme

/-- The literal, alone or behind a minus sign, denotes a double of the type: the one
nearest to the number that it stands for, if that is not too large. -/
inductive Denotes (type : FloatType) (negative : Bool) : Text → Binary64 → Prop
  | finite {literal whole fraction exponent : Text} {units : Nat} :
      Numeral Run literal whole fraction exponent →
      Binary64.Nearest (Number.magnitude whole fraction exponent * Binary64.one) units →
      units ≤ type.maximumUnits → Denotes type negative literal (.finite negative units)

/-- The greatest number of a type is a run of binary ones with zeros behind it.  The
exponents are kept apart from the powers, which are too great to be computed. -/
theorem exists_maximumUnits (type : FloatType) : ∃ ones zeros,
    type.maximumUnits = (2 ^ ones - 1) * 2 ^ zeros ∧ ones + zeros ≤ 2098 := by
  cases type with
  | f32 =>
      refine ⟨24, 104 + 1074, ?_, by decide⟩
      unfold maximumUnits
      generalize 104 + 1074 = zeros
      rfl
  | f64 =>
      refine ⟨53, 971 + 1074, ?_, by decide⟩
      unfold maximumUnits
      generalize 971 + 1074 = zeros
      rfl

/-- No type reaches the end of the doubles. -/
theorem maximumUnits_lt_bound (type : FloatType) : type.maximumUnits < Binary64.bound := by
  rcases type.exists_maximumUnits with ⟨ones, zeros, maximum_eq, few⟩
  rcases Binary64.exists_exponents with ⟨_, places, _, _, bound_eq, places_eq⟩
  rw [maximum_eq, bound_eq]
  calc
    (2 ^ ones - 1) * 2 ^ zeros < 2 ^ ones * 2 ^ zeros :=
      Nat.mul_lt_mul_of_pos_right (Nat.sub_lt (Nat.two_pow_pos ones) Nat.one_pos)
        (Nat.two_pow_pos zeros)
    _ = 2 ^ (ones + zeros) := (Nat.pow_add 2 ones zeros).symm
    _ ≤ 2 ^ places := Nat.pow_le_pow_right (by decide) (by omega)

theorem natAbs_signed (negative : Bool) (units : Nat) :
    (Binary64.signed negative units).natAbs = units := by
  cases negative with
  | false => exact Int.natAbs_natCast units
  | true => exact (Int.natAbs_neg units).trans (Int.natAbs_natCast units)

theorem exceeds_finite (negative : Bool) (units bound : Nat) :
    (Binary64.finite negative units).exceeds bound = decide (bound < units) := by
  simp only [Binary64.exceeds, Binary64.level?, natAbs_signed]

theorem exceeds_infinite (negative : Bool) (units : Nat) :
    (Binary64.infinite negative).exceeds units = decide (units < Binary64.bound) := by
  simp only [Binary64.exceeds, Binary64.level?, natAbs_signed]

variable {type : FloatType} {negative : Bool} {value : Binary64}

theorem read_eq_ok_iff {text : Text} {double : Binary64}
    (read : Number.readDouble text = .ok double) :
    type.read text = .ok value ↔ double.exceeds type.maximumUnits = false ∧ double = value := by
  simp only [FloatType.read, read, bind, Except.bind]
  cases double.exceeds type.maximumUnits with
  | true => simp [throw, throwThe, MonadExceptOf.throw]
  | false => simp [pure, Except.pure]

/-- A literal is read as the number that it denotes. -/
theorem read_literal_iff {literal : Text} (isNumber : IsNumber literal) :
    type.read (Number.signText negative ++ Number.withoutUnderscores literal) = .ok value ↔
      type.Denotes negative literal value := by
  have read_iff : ∀ {whole fraction exponent : Text},
      Numeral Run literal whole fraction exponent →
      ∃ units, Binary64.Nearest (Number.magnitude whole fraction exponent * Binary64.one) units ∧
        (type.read (Number.signText negative ++ Number.withoutUnderscores literal) = .ok value ↔
          units ≤ type.maximumUnits ∧ Binary64.finite negative units = value) := by
    intro whole fraction exponent numeral
    rcases Number.exists_nearest_readDouble numeral negative with ⟨units, nearest, read⟩
    refine ⟨units, nearest, ?_⟩
    rw [read_eq_ok_iff read]
    split
    · rw [exceeds_finite, decide_eq_false_iff_not, Nat.not_lt]
    · rename_i beyond
      have above := (maximumUnits_lt_bound type).trans_le (Nat.not_lt.1 beyond)
      simp [exceeds_infinite, maximumUnits_lt_bound, above]
  constructor
  · intro read
    rcases isNumber with ⟨whole, fraction, exponent, numeral⟩
    rcases read_iff numeral with ⟨units, nearest, same⟩
    rcases same.1 read with ⟨within, rfl⟩
    exact .finite numeral nearest within
  · rintro (⟨numeral, nearest, within⟩)
    rcases read_iff numeral with ⟨other, nearest', same⟩
    rw [nearest'.eq nearest] at same
    exact same.2 ⟨within, rfl⟩

end FloatType

end GuardLang

import Mathlib.Algebra.Order.Field.Power
import Mathlib.Data.Rat.Cast.Order
import Mathlib.Tactic.FieldSimp
import Mathlib.Tactic.Linarith
import Mathlib.Tactic.NormNum
import Mathlib.Tactic.Ring
import LanguageClient.Json.Double

/-! The shortest digits of a double, against the interval that rounds to it. Seventeen digits are always
enough: a grid that fine has a point in the interval beside the number. So the digits that are found
denote a size in the interval, and reading them to the nearest double gives the same number. -/
namespace LanguageClient.Json.Double

/-- A size rounds to the absolute value of a number when it lies between the end points of the interval
around it, which belong to the interval where the significand is even. -/
def Rounds (x : Double) (size : ℚ) : Prop :=
  if x.significand % 2 = 0 then
    x.neighbourhood.1 ≤ size * denominator ∧ size * denominator ≤ x.neighbourhood.2.2
  else x.neighbourhood.1 < size * denominator ∧ size * denominator < x.neighbourhood.2.2

private theorem rounds_of_inside {x : Double} {size : ℚ} (above : x.neighbourhood.1 < size * denominator)
    (below : size * denominator < x.neighbourhood.2.2) : x.Rounds size := by
  unfold Rounds
  split
  · exact ⟨above.le, below.le⟩
  · exact ⟨above, below⟩

private theorem fractionField_lt (x : Double) : x.fractionField < 2 ^ 52 := by
  rw [fractionField, UInt64.toNat_and]
  exact Nat.and_lt_two_pow _ (by decide)

private theorem significand_lt (x : Double) : x.significand < 2 ^ 53 := by
  have := x.fractionField_lt
  unfold significand
  split <;> omega

variable {x : Double} (nonzero : x.significand ≠ 0)

include nonzero in
private theorem four_le_value : 4 ≤ x.neighbourhood.2.1 := by
  have some : 0 < x.significand * 2 ^ x.scale := Nat.mul_pos (by omega) (Nat.two_pow_pos _)
  change 4 ≤ 4 * x.significand * 2 ^ x.scale
  rw [Nat.mul_assoc]
  omega

include nonzero in
/-- The number stands inside the interval, and the interval is wider than a seventeenth digit. -/
theorem neighbourhood_wide : x.neighbourhood.1 < x.neighbourhood.2.1 ∧
    x.neighbourhood.2.1 < x.neighbourhood.2.2 ∧
    x.neighbourhood.2.1 + 10 ^ 16 * x.neighbourhood.1 < 10 ^ 16 * x.neighbourhood.2.2 := by
  have small := x.significand_lt
  have unit : 0 < Nat.pow 2 x.scale := Nat.two_pow_pos _
  have below : x.significand * Nat.pow 2 x.scale ≤ 2 ^ 53 * Nat.pow 2 x.scale :=
    Nat.mul_le_mul_right _ (Nat.le_of_lt small)
  have above : Nat.pow 2 x.scale ≤ x.significand * Nat.pow 2 x.scale := Nat.le_mul_of_pos_left _ (by omega)
  simp only [neighbourhood, Nat.mul_assoc]
  split
  · next edge =>
    -- A power of two is the only number with a narrow side.
    have power : x.significand = 2 ^ 52 := by
      simp only [Bool.and_eq_true, decide_eq_true_eq] at edge
      rw [significand, if_neg (by omega), edge.1]
      rfl
    rw [power] at above below ⊢
    omega
  · omega

def step (power : Int) : ℚ := 10 ^ power * denominator

private theorem denominator_pos : (0 : ℚ) < denominator := Nat.cast_pos.2 (by decide +kernel)

private theorem step_pos (power : Int) : 0 < step power := mul_pos (zpow_pos (by norm_num) _) denominator_pos

private theorem mul_step (size : ℚ) (power : Int) :
    size * 10 ^ power * denominator = size * step power := mul_assoc _ _ _

/-- A fraction in units of a power of ten has the step for its denominator, up to a factor. -/
theorem inUnits_spec (power : Int) : ∃ factor : ℚ, 0 < factor ∧ ∀ value,
    ((inUnits value power).1 : ℚ) = value * factor ∧ ((inUnits value power).2 : ℚ) = step power * factor := by
  by_cases sign : 0 ≤ power
  · refine ⟨1, one_pos, fun value => ?_⟩
    obtain ⟨n, rfl⟩ := Int.eq_ofNat_of_zero_le sign
    simp [inUnits, step, mul_comm]
  · obtain ⟨n, rfl⟩ : ∃ n : Nat, power = -n := ⟨(-power).toNat, by omega⟩
    refine ⟨10 ^ n, by positivity, fun value => ?_⟩
    have back : (10 : ℚ) ^ (-(n : Int)) * denominator * 10 ^ n = denominator := by
      rw [zpow_neg, zpow_natCast]
      field_simp
    rw [inUnits, if_neg sign, step, back]
    simp

variable {power : Int}

private theorem inUnits_le_iff {value other d : Nat} :
    (inUnits value power).1 ≤ d * (inUnits other power).2 ↔ (value : ℚ) ≤ d * step power := by
  obtain ⟨factor, positive, scaled⟩ := inUnits_spec power
  rw [← Nat.cast_le (α := ℚ), Nat.cast_mul, (scaled value).1, (scaled other).2, ← mul_assoc,
    mul_le_mul_iff_left₀ positive]

private theorem le_inUnits_iff {value other d : Nat} :
    d * (inUnits other power).2 ≤ (inUnits value power).1 ↔ d * step power ≤ (value : ℚ) := by
  obtain ⟨factor, positive, scaled⟩ := inUnits_spec power
  rw [← Nat.cast_le (α := ℚ), Nat.cast_mul, (scaled value).1, (scaled other).2, ← mul_assoc,
    mul_le_mul_iff_left₀ positive]

private theorem inUnits_pos (value : Nat) (power : Int) : 0 < (inUnits value power).2 := by
  obtain ⟨factor, positive, scaled⟩ := inUnits_spec power
  rw [← Nat.cast_pos (α := ℚ), (scaled value).2]
  exact mul_pos (step_pos power) positive

def down (x : Double) (power : Int) : Nat :=
  (inUnits x.neighbourhood.2.1 power).1 / (inUnits x.neighbourhood.2.1 power).2

private theorem between (x : Double) (power : Int) : x.down power * step power ≤ x.neighbourhood.2.1 ∧
    x.neighbourhood.2.1 < (x.down power + 1 : Nat) * step power := by
  refine ⟨le_inUnits_iff.1 (Nat.div_mul_le_self _ _), not_le.1 fun beyond => ?_⟩
  have within : (x.down power + 1) * (inUnits x.neighbourhood.2.1 power).2 ≤
      (inUnits x.neighbourhood.2.1 power).1 := le_inUnits_iff.2 beyond
  rw [← Nat.le_div_iff_mul_le (inUnits_pos _ power)] at within
  exact Nat.not_succ_le_self _ within

private theorem fits_iff (d : Nat) : x.fits power d = true ↔ x.Rounds (d * 10 ^ power) := by
  rw [Rounds, mul_step]
  simp only [fits]
  split
  · simp only [Bool.and_eq_true, decide_eq_true_eq, inUnits_le_iff, le_inUnits_iff]
  · simp only [Bool.and_eq_true, decide_eq_true_eq, ← not_le, inUnits_le_iff, le_inUnits_iff]

private theorem nearest?_eq_some {d : Nat} (found : nearest? x power = some d) :
    x.Rounds (d * 10 ^ power) ∧ x.down power ≤ d := by
  simp only [← fits_iff, down]
  simp only [nearest?, Bool.and_eq_true] at found
  split at found
  · next both =>
    cases found
    split
    · exact ⟨both.2, Nat.le_succ _⟩
    · exact ⟨both.1, Nat.le_refl _⟩
  · split at found
    · next fits =>
      cases found
      exact ⟨fits, Nat.le_refl _⟩
    · split at found
      · next fits =>
        cases found
        exact ⟨fits, Nat.le_succ _⟩
      · contradiction

private theorem nearest?_eq_none (failed : nearest? x power = none) :
    ¬ x.Rounds (x.down power * 10 ^ power) ∧ ¬ x.Rounds ((x.down power + 1 : Nat) * 10 ^ power) := by
  simp only [← fits_iff, down]
  simp only [nearest?, Bool.and_eq_true] at failed
  split at failed
  · contradiction
  · split at failed
    · contradiction
    · next notDown =>
      split at failed
      · contradiction
      · next notUp => exact ⟨notDown, notUp⟩

include nonzero in
/-- On a grid that is finer than the interval is wide, a neighbour of the number rounds to it. -/
theorem digitsAt?_isSome (fine : 10 ^ 16 * step power ≤ x.neighbourhood.2.1) :
    x.digitsAt? power ≠ none := by
  obtain ⟨below, above⟩ := between x power
  obtain ⟨lower, upper, wide⟩ := neighbourhood_wide nonzero
  have lower : (x.neighbourhood.1 : ℚ) < x.neighbourhood.2.1 := Nat.cast_lt.2 lower
  have upper : (x.neighbourhood.2.1 : ℚ) < x.neighbourhood.2.2 := Nat.cast_lt.2 upper
  have wide : (x.neighbourhood.2.1 + 10 ^ 16 * x.neighbourhood.1 : ℚ) < 10 ^ 16 * x.neighbourhood.2.2 := by
    exact_mod_cast wide
  cases found : nearest? x power with
  | some d =>
    refine fun failed => ?_
    have zero : d = 0 := by simpa [digitsAt?, found] using failed
    have least := (nearest?_eq_some found).2
    rw [zero, Nat.le_zero] at least
    rw [least, zero_add, Nat.cast_one, one_mul] at above
    linarith [step_pos power]
  | none =>
    obtain ⟨notDown, notUp⟩ := nearest?_eq_none found
    -- Both neighbours lie outside, so the step is as wide as the interval.
    have beneath : x.down power * step power ≤ x.neighbourhood.1 := not_lt.1 fun inside =>
      notDown (rounds_of_inside (by rwa [mul_step]) (by rw [mul_step]; exact below.trans_lt upper))
    have beyond : x.neighbourhood.2.2 ≤ (x.down power + 1 : Nat) * step power := not_lt.1 fun inside =>
      notUp (rounds_of_inside (by rw [mul_step]; exact lower.trans above) (by rwa [mul_step]))
    rw [Nat.cast_succ, add_one_mul] at beyond
    linarith

private theorem step_neg_le {value n : Nat} (enough : denominator ≤ value * 10 ^ n) : step (-n) ≤ value := by
  rw [step, zpow_neg, zpow_natCast, inv_mul_le_iff₀ (by positivity), mul_comm]
  exact_mod_cast enough

private theorem denominator_le {value : Nat} (least : 4 ≤ value) : denominator ≤ value * 10 ^ 340 :=
  calc denominator ≤ 4 * 10 ^ 340 := by decide +kernel
    _ ≤ value * 10 ^ 340 := Nat.mul_le_mul_right _ least

/-- The leading digit of a number does not stand for more than the number. -/
theorem step_leadingPower_le {value : Nat} (least : 4 ≤ value) : step (leadingPower value) ≤ value := by
  unfold leadingPower
  split
  · next large =>
    have positive : 0 < denominator := Nat.cast_pos.1 denominator_pos
    have nonzero : 1 ≤ value / denominator := (Nat.one_le_div_iff positive).2 large
    obtain ⟨n, length⟩ := Nat.exists_eq_add_one.2 (Nat.length_toDigits_pos (b := 10) (n := value / denominator))
    have digits : 10 ^ n ≤ value / denominator := by
      cases n with
      | zero => exact nonzero
      | succ n =>
        have long := Nat.length_toDigits_le_iff (b := 10) (n := value / denominator) (by decide) (Nat.succ_pos n)
        omega
    rw [length, Nat.cast_succ, add_sub_cancel_right, step, zpow_natCast]
    exact_mod_cast (Nat.le_div_iff_mul_le positive).1 digits
  · split
    · next j found =>
      have enough := List.find?_some found
      rw [decide_eq_true_eq, Nat.pow_eq] at enough
      exact_mod_cast step_neg_le enough
    · exact_mod_cast step_neg_le (denominator_le least)

private theorem digitsAt?_rounds {d : Nat} {last : Int} (found : x.digitsAt? power = some (d, last)) :
    d ≠ 0 ∧ x.Rounds (d * 10 ^ last) := by
  obtain ⟨digits, nearest, kept⟩ := Option.bind_eq_some_iff.1 found
  split at kept
  · contradiction
  · next some =>
    cases kept
    exact ⟨some, (nearest?_eq_some nearest).1⟩

include nonzero in
/-- The shortest digits of a number other than zero denote a size that rounds to it. Among the grids that
are tried, that of the seventeenth digit is fine enough. -/
theorem shortest_rounds : x.shortest.1 ≠ 0 ∧ x.Rounds (x.shortest.1 * 10 ^ x.shortest.2) := by
  have fine : 10 ^ 16 * step (leadingPower x.neighbourhood.2.1 - 16) ≤ x.neighbourhood.2.1 :=
    calc 10 ^ 16 * step (leadingPower x.neighbourhood.2.1 - 16)
      _ = step (leadingPower x.neighbourhood.2.1) := by
        rw [step, step, zpow_sub₀ (by norm_num)]
        norm_num
        ring
      _ ≤ x.neighbourhood.2.1 := step_leadingPower_le (four_le_value nonzero)
  unfold shortest
  dsimp only
  cases found : (List.range 17).findSome? fun n =>
      x.digitsAt? (leadingPower x.neighbourhood.2.1 - Int.ofNat n) with
  | some digits =>
    obtain ⟨n, -, given⟩ := List.exists_of_findSome?_eq_some found
    exact digitsAt?_rounds given
  | none =>
    exact absurd (List.findSome?_eq_none_iff.1 found 16 (by decide)) (digitsAt?_isSome nonzero fine)

end LanguageClient.Json.Double

import Mathlib.Algebra.Order.Field.Power
import Mathlib.Data.Rat.Cast.Order
import Mathlib.Tactic.FieldSimp
import Mathlib.Tactic.Linarith
import Mathlib.Tactic.Positivity
import Mathlib.Tactic.Ring
import Triage.Number.Binary64

/-!
# Bounds of rounded numbers

Rounding does not cross an integer, and on a grid it does not cross a multiple of the
grid's step.  A power of two lies on the grids of all smaller numbers, so rounding keeps
the order of numbers although the grid changes with them.  A number is moved by at most
half a step, and whole numbers of 53 bits are not moved at all.
-/

namespace Triage.Number

variable {x y : Rat}

/-! ## Nearest integers -/

/-- The nearest integer is the next one only above an integer. -/
theorem roundHalfEven_cases (x : Rat) :
    roundHalfEven x = x.floor ∨ (x.floor : Rat) < x ∧ roundHalfEven x = x.floor + 1 := by
  simp only [roundHalfEven]
  split
  · exact .inl rfl
  · rename_i half_le
    have above : (x.floor : Rat) < x := by linarith
    split
    · exact .inr ⟨above, rfl⟩
    · split
      · exact .inl rfl
      · exact .inr ⟨above, rfl⟩

theorem floor_le_roundHalfEven (x : Rat) : x.floor ≤ roundHalfEven x := by
  rcases roundHalfEven_cases x with atFloor | ⟨-, next⟩ <;> omega

theorem roundHalfEven_mono (le : x ≤ y) : roundHalfEven x ≤ roundHalfEven y := by
  have floor_le : x.floor ≤ y.floor := Rat.floor_monotone le
  rcases floor_le.eq_or_lt with same | below
  · -- Above one floor the two tests of the smaller number imply those of the larger one.
    simp only [roundHalfEven, same]
    have rest_le : x - y.floor ≤ y - y.floor := sub_le_sub_right le _
    split_ifs <;> first | omega | linarith
  · have next_le : roundHalfEven x ≤ x.floor + 1 := by
      rcases roundHalfEven_cases x with atFloor | ⟨-, next⟩ <;> omega
    exact (next_le.trans below).trans (floor_le_roundHalfEven y)

@[simp]
theorem roundHalfEven_intCast (number : Int) : roundHalfEven number = number := by
  simp [roundHalfEven, Rat.floor_intCast]

/-- The nearest integer is at most a half away. -/
theorem abs_roundHalfEven_sub_le (x : Rat) : |(roundHalfEven x : Rat) - x| ≤ 1 / 2 := by
  have floor_le := Rat.floor_le x
  have lt_next := Rat.lt_floor_add_one x
  push_cast at lt_next
  rw [abs_le]
  simp only [roundHalfEven]
  split_ifs <;> push_cast <;> constructor <;> linarith

/-! ## Grids -/

theorem roundToGrid_mono (exponent : Int) (le : x ≤ y) :
    roundToGrid exponent x ≤ roundToGrid exponent y := by
  have rounded_le : (roundHalfEven (x / (2 : Rat) ^ exponent) : Rat) ≤
      roundHalfEven (y / (2 : Rat) ^ exponent) := by
    exact_mod_cast roundHalfEven_mono (div_le_div_of_nonneg_right le (by positivity))
  unfold roundToGrid
  gcongr

/-- A multiple of the step is on the grid. -/
theorem roundToGrid_intCast_mul (exponent steps : Int) :
    roundToGrid exponent (steps * (2 : Rat) ^ exponent) = steps * (2 : Rat) ^ exponent := by
  rw [roundToGrid, mul_div_cancel_right₀ _ (by positivity), roundHalfEven_intCast]

@[simp]
theorem roundToGrid_zero (exponent : Int) : roundToGrid exponent 0 = 0 := by
  simpa using roundToGrid_intCast_mul exponent 0

theorem roundToGrid_nonneg (exponent : Int) (nonneg : 0 ≤ x) : 0 ≤ roundToGrid exponent x :=
  (roundToGrid_zero exponent).symm.trans_le (roundToGrid_mono exponent nonneg)

theorem roundToGrid_two_zpow {exponent power : Int} (onGrid : exponent ≤ power) :
    roundToGrid exponent ((2 : Rat) ^ power) = (2 : Rat) ^ power := by
  obtain ⟨steps, rfl⟩ : ∃ steps : Nat, power = steps + exponent :=
    ⟨(power - exponent).toNat, by omega⟩
  have split : (2 : Rat) ^ ((steps : Int) + exponent) =
      ((2 ^ steps : Int) : Rat) * 2 ^ exponent := by
    rw [zpow_add₀ two_ne_zero, zpow_natCast]
    norm_cast
  rw [split, roundToGrid_intCast_mul]

/-- A power of two on the grid is not crossed from below. -/
theorem roundToGrid_le {exponent power : Int} (onGrid : exponent ≤ power)
    (le_power : x ≤ (2 : Rat) ^ power) : roundToGrid exponent x ≤ (2 : Rat) ^ power :=
  (roundToGrid_mono exponent le_power).trans_eq (roundToGrid_two_zpow onGrid)

/-- A power of two on the grid is not crossed from above. -/
theorem le_roundToGrid {exponent power : Int} (onGrid : exponent ≤ power)
    (power_le : (2 : Rat) ^ power ≤ x) : (2 : Rat) ^ power ≤ roundToGrid exponent x :=
  (roundToGrid_two_zpow onGrid).symm.trans_le (roundToGrid_mono exponent power_le)

/-- A number is moved by at most half a step. -/
theorem abs_roundToGrid_sub_le (exponent : Int) (x : Rat) :
    |roundToGrid exponent x - x| ≤ (2 : Rat) ^ exponent / 2 := by
  have step_pos : (0 : Rat) < 2 ^ exponent := by positivity
  have scaled : roundToGrid exponent x - x =
      (roundHalfEven (x / (2 : Rat) ^ exponent) - x / (2 : Rat) ^ exponent) * 2 ^ exponent := by
    rw [roundToGrid, sub_mul, div_mul_cancel₀ _ step_pos.ne']
  calc |roundToGrid exponent x - x|
      = |roundHalfEven (x / (2 : Rat) ^ exponent) - x / (2 : Rat) ^ exponent| * 2 ^ exponent := by
        rw [scaled, abs_mul, abs_of_pos step_pos]
    _ ≤ 1 / 2 * 2 ^ exponent := by
        gcongr
        exact abs_roundHalfEven_sub_le _
    _ = (2 : Rat) ^ exponent / 2 := by ring

/-! ## Exponents -/

theorem two_pow_log2_le {number : Nat} (positive : 0 < number) :
    (2 : Rat) ^ (Nat.log2 number : Int) ≤ number := by
  rw [zpow_natCast]
  exact_mod_cast Nat.log2_self_le positive.ne'

theorem lt_two_pow_log2 (number : Nat) :
    (number : Rat) < (2 : Rat) ^ (Nat.log2 number + 1 : Int) := by
  have natural : number < 2 ^ (Nat.log2 number + 1) := Nat.lt_log2_self
  rw [← Nat.cast_succ, zpow_natCast]
  exact_mod_cast natural

theorem eq_natAbs_num_div_den (positive : 0 < x) : x = (x.num.natAbs : Rat) / x.den := by
  rw [Nat.cast_natAbs, abs_of_pos (Rat.num_pos.mpr positive), Rat.num_div_den]

theorem two_zpow_binaryExponent_le (positive : 0 < x) : (2 : Rat) ^ binaryExponent x ≤ x := by
  have den_pos : (0 : Rat) < x.den := by exact_mod_cast x.den_pos
  have num_pos : 0 < x.num := Rat.num_pos.mpr positive
  have size_pos : 0 < x.num.natAbs := Int.natAbs_pos.mpr num_pos.ne'
  simp only [binaryExponent]
  split
  · have numerator := two_pow_log2_le size_pos
    have denominator := (lt_two_pow_log2 x.den).le
    calc (2 : Rat) ^ ((Nat.log2 x.num.natAbs : Int) - Nat.log2 x.den - 1)
        = 2 ^ (Nat.log2 x.num.natAbs : Int) / 2 ^ (Nat.log2 x.den + 1 : Int) := by
          rw [← zpow_sub₀ two_ne_zero]
          congr 1
          omega
      _ ≤ (x.num.natAbs : Rat) / x.den := by gcongr
      _ = x := (eq_natAbs_num_div_den positive).symm
  · exact not_lt.mp ‹_›

theorem lt_two_zpow_binaryExponent (positive : 0 < x) :
    x < (2 : Rat) ^ (binaryExponent x + 1) := by
  simp only [binaryExponent]
  split
  · rwa [sub_add_cancel]
  · have numerator := lt_two_pow_log2 x.num.natAbs
    have denominator := two_pow_log2_le x.den_pos
    calc x = (x.num.natAbs : Rat) / x.den := eq_natAbs_num_div_den positive
      _ < 2 ^ (Nat.log2 x.num.natAbs + 1 : Int) / 2 ^ (Nat.log2 x.den : Int) := by gcongr
      _ = (2 : Rat) ^ ((Nat.log2 x.num.natAbs : Int) - Nat.log2 x.den + 1) := by
          rw [← zpow_sub₀ two_ne_zero]
          congr 1
          omega

theorem binaryExponent_lt {power : Int} (positive : 0 < x) (lt_power : x < (2 : Rat) ^ power) :
    binaryExponent x < power :=
  (zpow_lt_zpow_iff_right₀ one_lt_two).mp ((two_zpow_binaryExponent_le positive).trans_lt lt_power)

theorem binaryExponent_mono (positive : 0 < x) (le : x ≤ y) :
    binaryExponent x ≤ binaryExponent y := by
  have below := binaryExponent_lt positive
    (le.trans_lt (lt_two_zpow_binaryExponent (positive.trans_le le)))
  omega

/-! ## Rounded numbers -/

@[simp]
theorem nearest_zero : nearest 0 = 0 := roundToGrid_zero _

theorem nearest_nonneg (nonneg : 0 ≤ x) : 0 ≤ nearest x := roundToGrid_nonneg _ nonneg

/-- Rounding keeps the order of numbers. -/
theorem nearest_mono (nonneg : 0 ≤ x) (le : x ≤ y) : nearest x ≤ nearest y := by
  rcases nonneg.eq_or_lt with rfl | positive
  · rw [nearest_zero]
    exact nearest_nonneg le
  · have exponent_le := binaryExponent_mono positive le
    by_cases same : max (binaryExponent x - 52) (-1074) = max (binaryExponent y - 52) (-1074)
    · rw [nearest, nearest, same]
      exact roundToGrid_mono _ le
    · -- On different grids there is a power of two between the numbers, and on both grids.
      have apart : binaryExponent x + 1 ≤ binaryExponent y := by omega
      have below : x ≤ (2 : Rat) ^ binaryExponent y :=
        (lt_two_zpow_binaryExponent positive).le.trans (zpow_le_zpow_right₀ one_le_two apart)
      have above : (2 : Rat) ^ binaryExponent y ≤ y :=
        two_zpow_binaryExponent_le (positive.trans_le le)
      calc nearest x ≤ (2 : Rat) ^ binaryExponent y := roundToGrid_le (by omega) below
        _ ≤ nearest y := le_roundToGrid (by omega) above

/-- Whole numbers of 53 bits are not rounded. -/
theorem nearest_natCast {number : Nat} (small : number < 2 ^ 53) :
    nearest (number : Rat) = number := by
  rcases Nat.eq_zero_or_pos number with rfl | positive
  · exact nearest_zero
  · have exponent_lt : binaryExponent (number : Rat) < 53 :=
      binaryExponent_lt (by exact_mod_cast positive) (by exact_mod_cast small)
    obtain ⟨places, isExponent⟩ : ∃ places : Nat,
        max (binaryExponent (number : Rat) - 52) (-1074) = -(places : Int) :=
      ⟨(-max (binaryExponent (number : Rat) - 52) (-1074)).toNat, by omega⟩
    have onGrid : (number : Rat) = ((number * 2 ^ places : Int) : Rat) * 2 ^ (-(places : Int)) := by
      rw [zpow_neg, zpow_natCast]
      push_cast
      field_simp
    rw [nearest, isExponent]
    nth_rewrite 1 [onGrid]
    rw [roundToGrid_intCast_mul, ← onGrid]

/-- Below a power of two, rounding moves a number by at most this power over `2^54`. -/
theorem abs_nearest_sub_le {power : Nat} (nonneg : 0 ≤ x) (lt_power : x < (2 : Rat) ^ power) :
    |nearest x - x| ≤ (2 : Rat) ^ ((power : Int) - 54) := by
  rcases nonneg.eq_or_lt with rfl | positive
  · rw [nearest_zero, sub_zero, abs_zero]
    positivity
  · rw [← zpow_natCast] at lt_power
    have exponent_lt := binaryExponent_lt positive lt_power
    have step_le : max (binaryExponent x - 52) (-1074) ≤ (power : Int) - 53 := by omega
    calc |nearest x - x|
        ≤ (2 : Rat) ^ max (binaryExponent x - 52) (-1074) / 2 := abs_roundToGrid_sub_le _ x
      _ ≤ (2 : Rat) ^ ((power : Int) - 53) / 2 := by
          gcongr
          exact one_le_two
      _ = (2 : Rat) ^ ((power : Int) - 54) := by
          rw [div_eq_mul_inv, ← zpow_sub_one₀ two_ne_zero, sub_sub]
          rfl

end Triage.Number

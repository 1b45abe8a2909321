import LiveShader.Proofs.Rounding
import Mathlib.Algebra.Order.Field.Power

/-!
# The shortest decimal of a value

The search for the shortest decimal looks at ever finer grids of decimals, and on each of them only
at the two neighbours of the value. What it finds lies in the interval of the value. It does find
something: the first grids are about as coarse as the value is large, and a grid with less than two
units of the interval from point to point has a point between the value and the upper end, which is
reached before the search gives up.
-/
namespace LiveShader.Decimal

/-- The number that a decimal stands for. -/
def Scientific.value (number : Scientific) : ℚ := number.digits * 10 ^ number.exponent

/-- A decimal stands for zero just when its digits do. -/
theorem Scientific.value_eq_zero {number : Scientific} : number.value = 0 ↔ number.digits = 0 := by
  have power : (10 : ℚ) ^ number.exponent ≠ 0 := zpow_ne_zero _ (by norm_num)
  rw [value, mul_eq_zero_iff_right power, Nat.cast_eq_zero]

/-- Zeros that move into the exponent change nothing of the number. -/
theorem Scientific.value_drop_zeros (bound : Nat) (number : Scientific) :
    (dropZeros bound number).value = number.value := by
  induction bound generalizing number with
  | zero => rfl
  | succ bound induction =>
    rw [dropZeros]
    split
    · rename_i ends
      have whole : (number.digits : ℚ) = 10 * (number.digits / 10 : Nat) := by
        exact_mod_cast (Nat.mul_div_cancel' (Nat.dvd_of_mod_eq_zero ends.2)).symm
      rw [induction, value, value, whole, zpow_add_one₀ (by norm_num)]
      ring
    · rfl

namespace RoundingInterval

variable {interval : RoundingInterval} {tie : Tie} {exponent : Int}

/-- The unit of an interval in the common weight of the interval and a decimal grid. -/
def scale (interval : RoundingInterval) (exponent : Int) : Nat :=
  2 ^ interval.unitExponent.toNat * 10 ^ (-exponent).toNat

/-- The distance of the points of a grid in the common weight. -/
def step (interval : RoundingInterval) (exponent : Int) : Nat :=
  2 ^ (-interval.unitExponent).toNat * 10 ^ exponent.toNat

/-- Whether the search takes a point of a grid to lie in the interval. -/
def holdsPoint (interval : RoundingInterval) (exponent : Int) (point : Nat) : Bool :=
  if interval.endsIncluded then
    interval.low * interval.scale exponent ≤ point * interval.step exponent &&
      point * interval.step exponent ≤ interval.high * interval.scale exponent
  else
    interval.low * interval.scale exponent < point * interval.step exponent &&
      point * interval.step exponent < interval.high * interval.scale exponent

/-- The common weight. -/
theorem scale_and_step (interval : RoundingInterval) (exponent : Int) :
    ∃ weight : ℚ, 0 < weight ∧ interval.scale exponent = 2 ^ interval.unitExponent * weight ∧
      interval.step exponent = 10 ^ exponent * weight := by
  refine ⟨2 ^ (-interval.unitExponent).toNat * 10 ^ (-exponent).toNat, by positivity, ?_, ?_⟩
  · rw [zpow_eq_div two_ne_zero, scale]
    push_cast
    field_simp
  · rw [zpow_eq_div (by norm_num : (10 : ℚ) ≠ 0), step]
    push_cast
    field_simp

/-- Whether a point of a grid lies in an interval is decided by the comparison of natural numbers,
with both sides multiplied by the same positive weight so that no power has a negative exponent. The
ends count or not as the interval says. -/
theorem holds_point_iff {point : Nat} :
    interval.holdsPoint exponent point = true ↔ interval.Holds (point * 10 ^ exponent) := by
  obtain ⟨weight, positive, scaled, stepped⟩ := interval.scale_and_step exponent
  have le_iff (units points : Nat) :
      units * interval.scale exponent ≤ points * interval.step exponent ↔
      (units : ℚ) * 2 ^ interval.unitExponent ≤ points * 10 ^ exponent := by
    rw [← mul_le_mul_iff_left₀ positive, mul_assoc, mul_assoc, ← scaled, ← stepped]
    exact_mod_cast Iff.rfl
  have ge_iff (units points : Nat) :
      points * interval.step exponent ≤ units * interval.scale exponent ↔
      (points : ℚ) * 10 ^ exponent ≤ units * 2 ^ interval.unitExponent := by
    rw [← mul_le_mul_iff_left₀ positive, mul_assoc, mul_assoc, ← scaled, ← stepped]
    exact_mod_cast Iff.rfl
  simp only [holdsPoint, Holds]
  split
  · simp only [Bool.and_eq_true, decide_eq_true_eq, le_iff, ge_iff]
  · simp only [Bool.and_eq_true, decide_eq_true_eq, ← not_le, le_iff, ge_iff]

/-- How the search chooses between the two neighbours of the value on a grid. -/
theorem on_grid?_eq (interval : RoundingInterval) (tie : Tie) (exponent : Int) :
    interval.onGrid? tie exponent =
      let value := interval.middle * interval.scale exponent
      let step := interval.step exponent
      let below := value / step
      let within := interval.holdsPoint exponent
      if below = 0 then none
      else if value % step = 0 then some below
      else if within below && within (below + 1) then
        if 2 * (value % step) < step then some below
        else if step < 2 * (value % step) then some (below + 1)
        else
          match tie with
          | .up => some (below + 1)
          | .even => some (below + below % 2)
      else if within below then some below
      else if within (below + 1) then some (below + 1)
      else none :=
  rfl

/-- An interval with room on either side of its value, which is itself at least as large. -/
structure IsRoomy (interval : RoundingInterval) : Prop where
  low : interval.low < interval.middle
  high : interval.middle + 2 ≤ interval.high
  filled : 2 ≤ interval.middle

/-- What is found on a grid lies in the interval. -/
theorem holds_of_on_grid (roomy : interval.IsRoomy) {digits : Nat}
    (found : interval.onGrid? tie exponent = some digits) :
    interval.Holds (digits * 10 ^ exponent) := by
  rw [on_grid?_eq] at found
  simp only at found
  by_cases filled : interval.middle * interval.scale exponent / interval.step exponent = 0
  · rw [if_pos filled] at found
    cases found
  rw [if_neg filled] at found
  by_cases exact : interval.middle * interval.scale exponent % interval.step exponent = 0
  · rw [if_pos exact] at found
    cases found
    obtain ⟨weight, positive, scaled, stepped⟩ := interval.scale_and_step exponent
    have same : ((interval.middle * interval.scale exponent / interval.step exponent : Nat) : ℚ) *
        10 ^ exponent = interval.middle * 2 ^ interval.unitExponent := by
      rw [← mul_left_inj' positive.ne', mul_assoc, mul_assoc, ← scaled, ← stepped]
      exact_mod_cast Nat.div_mul_cancel (Nat.dvd_of_mod_eq_zero exact)
    have unit : (0 : ℚ) < 2 ^ interval.unitExponent := zpow_pos two_pos _
    have less : interval.middle < interval.high := by have := roomy.high; omega
    refine holds_of_lt ?_ ?_
    · rw [same]
      exact mul_lt_mul_of_pos_right (by exact_mod_cast roomy.low) unit
    · rw [same]
      exact mul_lt_mul_of_pos_right (by exact_mod_cast less) unit
  · rw [if_neg exact] at found
    have within : interval.holdsPoint exponent digits = true := by
      generalize interval.middle * interval.scale exponent / interval.step exponent = below at *
      cases tie with
      | up => grind
      | even => grind
    exact holds_point_iff.mp within

/-- Something is found on a grid whose points are less than two units apart. -/
theorem on_grid_of_fine (tie : Tie) (roomy : interval.IsRoomy)
    (fine : (10 : ℚ) ^ exponent < 2 * 2 ^ interval.unitExponent) :
    ∃ digits, interval.onGrid? tie exponent = some digits := by
  obtain ⟨weight, positive, scaled, stepped⟩ := interval.scale_and_step exponent
  have near : interval.step exponent < 2 * interval.scale exponent := by
    have weighed := mul_lt_mul_of_pos_right fine positive
    rw [mul_assoc, ← scaled, ← stepped] at weighed
    exact_mod_cast weighed
  have step : 0 < interval.step exponent := by
    unfold RoundingInterval.step
    positivity
  have value : 2 * interval.scale exponent ≤ interval.middle * interval.scale exponent :=
    Nat.mul_le_mul_right _ roomy.filled
  have filled : interval.middle * interval.scale exponent / interval.step exponent ≠ 0 :=
    (Nat.div_pos (by omega) step).ne'
  -- The point above the value is less than a step away from it.
  have above : interval.holdsPoint exponent
      (interval.middle * interval.scale exponent / interval.step exponent + 1) = true := by
    have beyond : interval.middle * interval.scale exponent < _ := Nat.lt_div_mul_add step
    have before := Nat.div_mul_le_self (interval.middle * interval.scale exponent)
      (interval.step exponent)
    have low : interval.low * interval.scale exponent ≤ interval.middle * interval.scale exponent :=
      Nat.mul_le_mul_right _ roomy.low.le
    have high : (interval.middle + 2) * interval.scale exponent ≤
        interval.high * interval.scale exponent := Nat.mul_le_mul_right _ roomy.high
    rw [Nat.add_mul] at high
    rw [holdsPoint, Nat.succ_mul]
    split
    · simp only [Bool.and_eq_true, decide_eq_true_eq]
      omega
    · simp only [Bool.and_eq_true, decide_eq_true_eq]
      omega
  refine Option.isSome_iff_exists.mp ?_
  rw [on_grid?_eq]
  simp only [if_neg filled, above, Bool.and_true, if_true]
  cases tie with
  | up => grind
  | even => grind

/-- A search ends with something that was found on one of the grids, if there is something to be
found. -/
theorem search_found {bound : Nat} {start : Int} {steps : Nat} (early : steps < bound)
    (found : ∃ digits, interval.onGrid? tie (start - steps) = some digits) :
    ∃ digits exponent, interval.onGrid? tie exponent = some digits ∧
      interval.search tie bound start = some (Scientific.dropZeros 20 ⟨digits, exponent⟩) := by
  induction bound generalizing start steps with
  | zero => cases early
  | succ bound induction =>
    rw [search]
    cases here : interval.onGrid? tie start with
    | some digits => exact ⟨digits, start, here, rfl⟩
    | none =>
      cases steps with
      | zero =>
        obtain ⟨digits, found⟩ := found
        rw [Int.natCast_zero, Int.sub_zero, here] at found
        cases found
      | succ steps =>
        refine induction (Nat.lt_of_succ_lt_succ early) ?_
        rwa [Int.sub_sub, Int.add_comm, ← Int.natCast_succ]

end RoundingInterval

/-- Formats whose values are neither too fine nor too large for the search and for the reader. -/
structure BinaryFormat.IsUsual (format : BinaryFormat) : Prop where
  narrow : format.fractionBits ≤ 52
  least : -1100 ≤ format.leastExponent
  most : format.leastExponent + Nat.pow 2 format.exponentBits ≤ 1100

/-- The 32-bit format is one of these. Its bounds are small numbers, which are compared by
evaluation. -/
theorem single_is_usual : BinaryFormat.single.IsUsual := by
  constructor <;> decide

/-- 28 decimal places are between 93 and 94 binary ones. -/
theorem ten_zpow_le {power bound : Int} (up : 94 * power ≤ 28 * bound)
    (down : 93 * power ≤ 28 * bound) : (10 : ℚ) ^ power ≤ 2 ^ bound := by
  have powers (base : ℚ) (places : ℕ) : (base ^ places) ^ power = base ^ (places * power) := by
    rw [zpow_mul, zpow_natCast]
  have powered : (10 : ℚ) ^ (28 * power) ≤ 2 ^ (28 * bound) := by
    rcases le_total 0 power with whole | fraction
    · calc (10 : ℚ) ^ (28 * power) = (10 ^ 28) ^ power := (powers 10 28).symm
        _ ≤ (2 ^ 94) ^ power := zpow_le_zpow_left₀ whole (by norm_num) (by norm_num)
        _ = 2 ^ (94 * power) := powers 2 94
        _ ≤ 2 ^ (28 * bound) := zpow_le_zpow_right₀ one_le_two up
    · calc (10 : ℚ) ^ (28 * power) = (10 ^ 28) ^ power := (powers 10 28).symm
        _ = ((10 ^ 28)⁻¹) ^ (-power) := by rw [inv_zpow', neg_neg]
        _ ≤ ((2 ^ 93)⁻¹) ^ (-power) :=
          zpow_le_zpow_left₀ (by omega) (by positivity) (by norm_num)
        _ = (2 ^ 93) ^ power := by rw [inv_zpow', neg_neg]
        _ = 2 ^ (93 * power) := powers 2 93
        _ ≤ 2 ^ (28 * bound) := zpow_le_zpow_right₀ one_le_two down
  rw [mul_comm, zpow_mul, mul_comm, zpow_mul] at powered
  exact (zpow_le_zpow_iff_left₀ (by positivity) (by positivity) (by norm_num)).mp powered

section Shortest

variable {format : BinaryFormat} {significand : Nat} {exponent : Int}

/-- Positive values have roomy intervals. -/
theorem interval_roomy (filled : 0 < significand) :
    (format.interval significand exponent).IsRoomy := by
  constructor
  · simp only [BinaryFormat.interval]
    split <;> omega
  · simp only [BinaryFormat.interval, le_refl]
  · simp only [BinaryFormat.interval]
    omega

/-- The exponents of the values of a format are fewer than its exponent field can tell. -/
theorem BinaryFormat.IsValue.exponent_lt (isValue : format.IsValue significand exponent) :
    exponent < format.leastExponent + Nat.pow 2 format.exponentBits := by
  have finite := isValue.finite
  have unit : 0 < 2 ^ format.fractionBits := Nat.two_pow_pos _
  have field : (exponent - format.leastExponent).toNat < Nat.pow 2 format.exponentBits := by
    refine Nat.lt_of_mul_lt_mul_right (a := 2 ^ format.fractionBits) ?_
    refine (Nat.le_add_right _ significand).trans_lt (finite.trans_le ?_)
    exact Nat.mul_le_mul_right _ (Nat.sub_le _ _)
  omega

/-- The length of the significand of a value. -/
theorem BinaryFormat.IsValue.log2_le (isValue : format.IsValue significand exponent)
    (filled : 0 < significand) : significand.log2 ≤ format.fractionBits := by
  refine Nat.lt_succ_iff.mp ((Nat.log2_lt filled.ne').mpr ?_)
  rw [Nat.pow_succ, Nat.mul_comm]
  exact isValue.narrow

/-- The shortest decimal of a value lies in the interval of the value. -/
theorem shortest_holds (usual : format.IsUsual) (isValue : format.IsValue significand exponent)
    (filled : 0 < significand) (tie : Tie) :
    (format.interval significand exponent).Holds
      (format.shortest tie significand exponent).value := by
  have least := isValue.least
  have most := isValue.exponent_lt
  have length := isValue.log2_le filled
  obtain ⟨narrow, leastBound, mostBound⟩ := usual
  have roomy : (format.interval significand exponent).IsRoomy := interval_roomy filled
  -- The last grid of the search is finer than a unit of the interval.
  have fine : (10 : ℚ) ^ (((significand.log2 + exponent) * 1233).fdiv 4096 + 2 - (23 : ℕ)) <
      2 * 2 ^ (exponent - 2) := by
    have decimal : 4096 * ((significand.log2 + exponent) * 1233).fdiv 4096 ≤
        (significand.log2 + exponent) * 1233 := by
      rw [Int.fdiv_eq_ediv_of_nonneg _ (by norm_num)]
      exact Int.mul_ediv_self_le (by norm_num)
    have unit : (0 : ℚ) < 2 ^ (exponent - 2) := zpow_pos two_pos _
    refine (ten_zpow_le ?_ ?_).trans_lt (lt_mul_of_one_lt_left unit one_lt_two)
    · omega
    · omega
  obtain ⟨digits, grid, found, search⟩ := RoundingInterval.search_found (by decide : 23 < 24)
    (RoundingInterval.on_grid_of_fine tie roomy fine)
  have holds := RoundingInterval.holds_of_on_grid roomy found
  rw [BinaryFormat.shortest, if_neg filled.ne']
  simp only [search, Option.getD_some]
  rw [Scientific.value_drop_zeros]
  exact holds

end Shortest

end LiveShader.Decimal

import LiveShader.Decimal.Shortest
import Mathlib.Algebra.Order.Archimedean.Basic
import Mathlib.Tactic.FieldSimp
import Mathlib.Tactic.Linarith
import Mathlib.Tactic.NormNum
import Mathlib.Tactic.Positivity
import Mathlib.Tactic.Ring

/-!
# Rounding to a binary format

A quotient is rounded by its exponent: the position of its first binary digit says how much the last
place of its neighbours weighs, and the quotient is counted in that weight. A value of the format is
what comes out for all numbers of an interval around it, half way to the neighbouring values. Just
above a power of two the interval reaches down into smaller exponents, where the places weigh half
as much; the numbers there are rounded up to the power of two, with a carry into the exponent.
-/
namespace LiveShader.Decimal

/-- An integer power as a quotient of natural powers. -/
theorem zpow_eq_div {base : ℚ} (nonzero : base ≠ 0) (power : ℤ) :
    base ^ power = base ^ power.toNat / base ^ (-power).toNat := by
  have split : power = (power.toNat : ℤ) - ((-power).toNat : ℤ) := by omega
  conv_lhs => rw [split]
  rw [zpow_sub₀ nonzero, zpow_natCast, zpow_natCast]

/-- Two parts of a quotient, of which one is scaled by the power of two that keeps both natural: the
power of the other part is one. -/
theorem scaled_eq {α : Type} (combine : Nat → Nat → α) (numerator denominator : Nat) (power : Int) :
    (if 0 ≤ power then combine numerator (denominator * Nat.pow 2 power.toNat)
      else combine (numerator * Nat.pow 2 (-power).toNat) denominator) =
      combine (numerator * 2 ^ (-power).toNat) (denominator * 2 ^ power.toNat) := by
  split
  · rename_i whole
    rw [Int.toNat_of_nonpos (by omega : -power ≤ 0), Nat.pow_zero, Nat.mul_one]
    rfl
  · rename_i fractional
    rw [Int.toNat_of_nonpos (by omega : power ≤ 0), Nat.pow_zero, Nat.mul_one]
    rfl

/-- A number is rounded to a natural number if it is at most a half away, and less than a half away
if the natural number is odd. -/
structure RoundsTo (value : ℚ) (n : Nat) : Prop where
  low : n - 1 / 2 ≤ value
  high : value ≤ n + 1 / 2
  tie : value = n - 1 / 2 ∨ value = n + 1 / 2 → n % 2 = 0

/-- A quotient that is rounded to a natural number. -/
theorem round_half_even_eq {numerator denominator n : Nat} (positive : 0 < denominator)
    (rounds : RoundsTo (numerator / denominator) n) :
    roundHalfEven numerator denominator = n := by
  have weight : (0 : ℚ) < denominator := Nat.cast_pos.mpr positive
  have divided := Nat.div_add_mod numerator denominator
  have rest := Nat.mod_lt numerator positive
  obtain ⟨low, high, tie⟩ := rounds
  simp only [roundHalfEven]
  generalize numerator / denominator = whole at divided ⊢
  generalize numerator % denominator = remainder at divided rest ⊢
  have quotient : (numerator / denominator : ℚ) = whole + remainder / denominator := by
    rw [← divided]
    push_cast
    field_simp
  have part : (0 : ℚ) ≤ remainder / denominator := by positivity
  have fraction : (remainder / denominator : ℚ) < 1 := by
    rw [div_lt_one weight]
    exact_mod_cast rest
  rw [quotient] at low high tie
  -- What is rounded lies between the whole number below it and the next one.
  have below : whole ≤ n := by
    have : (whole : ℚ) < n + 1 := by linarith
    exact Nat.lt_succ_iff.mp (by exact_mod_cast this)
  have above : n ≤ whole + 1 := by
    have : (n : ℚ) < whole + 1 + 1 := by linarith
    exact Nat.lt_succ_iff.mp (by exact_mod_cast this)
  have atMostHalf : (remainder / denominator : ℚ) ≤ 1 / 2 ↔ 2 * remainder ≤ denominator := by
    rw [div_le_div_iff₀ weight two_pos, one_mul, mul_comm]
    exact_mod_cast Iff.rfl
  have atLeastHalf : (1 / 2 : ℚ) ≤ remainder / denominator ↔ denominator ≤ 2 * remainder := by
    rw [div_le_div_iff₀ two_pos weight, one_mul, mul_comm]
    exact_mod_cast Iff.rfl
  rcases Nat.eq_or_lt_of_le below with rfl | next
  · have few : 2 * remainder ≤ denominator := atMostHalf.mp (by linarith)
    rcases Nat.lt_or_eq_of_le few with less | exact
    · rw [if_pos less]
    · have even := tie (.inr (by linarith [atMostHalf.mpr exact.le, atLeastHalf.mpr exact.ge]))
      rw [if_neg (by omega), if_neg (by omega), even, Nat.add_zero]
  · obtain rfl : n = whole + 1 := by omega
    push_cast at low tie
    have many : denominator ≤ 2 * remainder := atLeastHalf.mp (by linarith)
    rcases Nat.lt_or_eq_of_le many with more | exact
    · rw [if_neg (by omega), if_pos more]
    · have even := tie (.inl (by linarith [atMostHalf.mpr exact.ge, atLeastHalf.mpr exact.le]))
      rw [if_neg (by omega), if_neg (by omega)]
      omega

/-- A quotient counted in a power of two and rounded. -/
def roundAt (numerator denominator : Nat) (exponent : Int) : Nat :=
  if 0 ≤ exponent then roundHalfEven numerator (denominator * Nat.pow 2 exponent.toNat)
  else roundHalfEven (numerator * Nat.pow 2 (-exponent).toNat) denominator

/-- A quotient is rounded at an exponent to the natural number that it rounds to when it is counted
in units of that power of two. The scale goes to the numerator or to the denominator by the sign of
the exponent, and both ways give the same quotient. -/
theorem round_at_eq {numerator denominator n : Nat} {exponent : Int} (positive : 0 < denominator)
    (rounds : RoundsTo (numerator / denominator / 2 ^ exponent) n) :
    roundAt numerator denominator exponent = n := by
  have joined : roundAt numerator denominator exponent =
      roundHalfEven (numerator * 2 ^ (-exponent).toNat) (denominator * 2 ^ exponent.toNat) :=
    scaled_eq roundHalfEven numerator denominator exponent
  have counted : (numerator / denominator / 2 ^ exponent : ℚ) =
      (numerator * 2 ^ (-exponent).toNat : Nat) / (denominator * 2 ^ exponent.toNat : Nat) := by
    rw [zpow_eq_div two_ne_zero exponent]
    push_cast
    field_simp
  rw [counted] at rounds
  rw [joined, round_half_even_eq (by positivity) rounds]

/-- Whether a quotient reaches a power of two. -/
theorem reaches_iff (numerator : Nat) {denominator : Nat} (positive : 0 < denominator)
    (power : Int) :
    (if 0 ≤ power then decide (denominator * Nat.pow 2 power.toNat ≤ numerator)
      else decide (denominator ≤ numerator * Nat.pow 2 (-power).toNat)) = true ↔
      (2 : ℚ) ^ power ≤ numerator / denominator := by
  have weight : (0 : ℚ) < denominator := Nat.cast_pos.mpr positive
  have joined : (2 : ℚ) ^ power ≤ numerator / denominator ↔
      denominator * 2 ^ power.toNat ≤ numerator * 2 ^ (-power).toNat := by
    rw [zpow_eq_div two_ne_zero power, div_le_div_iff₀ (by positivity) weight,
      mul_comm (2 ^ power.toNat)]
    exact_mod_cast Iff.rfl
  rw [joined, scaled_eq (fun numerator denominator => decide (denominator ≤ numerator)),
    decide_eq_true_iff]

/-- The power of two that a natural number reaches. -/
theorem two_pow_log2_le {n : Nat} (filled : n ≠ 0) : (2 : ℚ) ^ (n.log2 : ℤ) ≤ n := by
  rw [zpow_natCast]
  exact_mod_cast Nat.log2_self_le filled

/-- A natural number is below the power of two that comes after its logarithm. -/
theorem lt_two_pow_log2 (n : Nat) : (n : ℚ) < 2 ^ (n.log2 + 1 : ℤ) := by
  rw [← Nat.cast_succ, zpow_natCast]
  exact_mod_cast Nat.lt_log2_self

/-- Neighbouring powers of two have one exponent that a number lies between them for. -/
theorem eq_of_between_powers {value : ℚ} {one other : Int} (reached : (2 : ℚ) ^ one ≤ value)
    (missed : value < 2 ^ (one + 1)) (reached' : (2 : ℚ) ^ other ≤ value)
    (missed' : value < 2 ^ (other + 1)) : one = other := by
  have below : one < other + 1 :=
    (zpow_lt_zpow_iff_right₀ one_lt_two).mp (reached.trans_lt missed')
  have above : other < one + 1 :=
    (zpow_lt_zpow_iff_right₀ one_lt_two).mp (reached'.trans_lt missed)
  omega

/-- The lengths of the two parts of a quotient tell the power of two it reaches, up to one. -/
theorem guess_bounds {numerator denominator : Nat} (filled : numerator ≠ 0)
    (positive : 0 < denominator) :
    (2 : ℚ) ^ ((numerator.log2 : ℤ) - denominator.log2 - 1) ≤ numerator / denominator ∧
      (numerator / denominator : ℚ) < 2 ^ ((numerator.log2 : ℤ) - denominator.log2 + 1) := by
  have weight : (0 : ℚ) < denominator := Nat.cast_pos.mpr positive
  have power (n : ℤ) : (0 : ℚ) < 2 ^ n := zpow_pos two_pos n
  constructor
  · rw [show (numerator.log2 : ℤ) - denominator.log2 - 1 =
      numerator.log2 - (denominator.log2 + 1) by omega, zpow_sub₀ two_ne_zero]
    exact div_le_div₀ (by positivity) (two_pow_log2_le filled) weight (lt_two_pow_log2 _).le
  · rw [show (numerator.log2 : ℤ) - denominator.log2 + 1 =
      (numerator.log2 + 1) - denominator.log2 by omega, zpow_sub₀ two_ne_zero]
    exact div_lt_div₀ (lt_two_pow_log2 _) (two_pow_log2_le positive.ne') (power _).le (power _)

/-- The bits of the value nearest to a quotient between two neighbouring powers of two. -/
theorem BinaryFormat.nearest_eq (format : BinaryFormat) {numerator denominator : Nat} {top : Int}
    (filled : numerator ≠ 0) (positive : 0 < denominator)
    (reached : (2 : ℚ) ^ top ≤ numerator / denominator)
    (missed : (numerator / denominator : ℚ) < 2 ^ (top + 1)) :
    let exponent := max format.leastExponent (top - format.fractionBits)
    format.nearest numerator denominator = min format.infinityBits
      ((exponent - format.leastExponent).toNat * Nat.pow 2 format.fractionBits +
        roundAt numerator denominator exponent) := by
  intro exponent
  obtain ⟨least, most⟩ := guess_bounds filled positive
  simp only [nearest, if_neg filled]
  have guessed := reaches_iff numerator positive ((numerator.log2 : ℤ) - denominator.log2)
  generalize (numerator.log2 : ℤ) - denominator.log2 = guess at least most guessed ⊢
  -- The guess is the power that the quotient reaches, or the next one.
  have found (reaches : Bool) (tells : reaches = true ↔ (2 : ℚ) ^ guess ≤ numerator / denominator) :
      (if reaches then guess else guess - 1) = top := by
    cases reaches with
    | true => exact eq_of_between_powers (tells.mp rfl) most reached missed
    | false =>
      refine eq_of_between_powers least ?_ reached missed
      rw [if_neg Bool.false_ne_true, Int.sub_add_cancel]
      exact lt_of_not_ge fun reaching => Bool.false_ne_true (tells.mpr reaching)
  rw [found _ guessed]
  rfl

/-! ### The numbers that are rounded to a value -/

/-- The bits of a positive value. Counting up from one exponent to the next, the leading bit of the
significand carries into the field of the exponent. -/
def BinaryFormat.bitsOf (format : BinaryFormat) (significand : Nat) (exponent : Int) : Nat :=
  (exponent - format.leastExponent).toNat * 2 ^ format.fractionBits + significand

/-- Whether a significand and an exponent are those that the bits of some value give. Only values
with the smallest exponent lack the leading bit. -/
structure BinaryFormat.IsValue (format : BinaryFormat) (significand : Nat) (exponent : Int) :
    Prop where
  least : format.leastExponent ≤ exponent
  narrow : significand < 2 * 2 ^ format.fractionBits
  leading : exponent = format.leastExponent ∨ 2 ^ format.fractionBits ≤ significand
  finite : format.bitsOf significand exponent < format.infinityBits

/-- Whether a number lies in an interval. -/
def RoundingInterval.Holds (interval : RoundingInterval) (value : ℚ) : Prop :=
  let unit := (2 : ℚ) ^ interval.unitExponent
  if interval.endsIncluded then interval.low * unit ≤ value ∧ value ≤ interval.high * unit
  else interval.low * unit < value ∧ value < interval.high * unit

/-- A number strictly between the ends of an interval lies in it. -/
theorem RoundingInterval.holds_of_lt {interval : RoundingInterval} {value : ℚ}
    (low : interval.low * (2 : ℚ) ^ interval.unitExponent < value)
    (high : value < interval.high * (2 : ℚ) ^ interval.unitExponent) : interval.Holds value := by
  unfold Holds
  split
  · exact ⟨low.le, high.le⟩
  · exact ⟨low, high⟩

/-- A number in an interval is not beyond its ends. -/
theorem RoundingInterval.Holds.le {interval : RoundingInterval} {value : ℚ}
    (holds : interval.Holds value) :
    interval.low * (2 : ℚ) ^ interval.unitExponent ≤ value ∧
      value ≤ interval.high * (2 : ℚ) ^ interval.unitExponent := by
  unfold Holds at holds
  split at holds
  · exact holds
  · exact ⟨holds.1.le, holds.2.le⟩

/-- The ends of an interval lie in it only if they are included. -/
theorem RoundingInterval.Holds.lt {interval : RoundingInterval} {value : ℚ}
    (holds : interval.Holds value) (excluded : interval.endsIncluded = false) :
    interval.low * (2 : ℚ) ^ interval.unitExponent < value ∧
      value < interval.high * (2 : ℚ) ^ interval.unitExponent := by
  rw [Holds, excluded] at holds
  exact holds

section Nearest

variable {format : BinaryFormat} {significand : Nat} {exponent : Int} {value : ℚ}

/-- Intervals are told in quarters of the last place. -/
theorem quarter_mul (quarters : ℚ) (exponent : Int) :
    quarters * 2 ^ (exponent - 2) = quarters / 4 * 2 ^ exponent := by
  rw [zpow_sub₀ two_ne_zero]
  norm_num
  ring

/-- The upper end of an interval. -/
theorem interval_high : (format.interval significand exponent).high *
    (2 : ℚ) ^ (format.interval significand exponent).unitExponent =
      (significand + 1 / 2) * 2 ^ exponent := by
  simp only [BinaryFormat.interval, quarter_mul]
  push_cast
  ring

/-- The lower end of an interval. -/
theorem interval_low (filled : 0 < significand) : (format.interval significand exponent).low *
    (2 : ℚ) ^ (format.interval significand exponent).unitExponent =
      (significand -
        if significand = Nat.pow 2 format.fractionBits ∧ format.leastExponent < exponent
        then 1 / 4 else 1 / 2) * 2 ^ exponent := by
  simp only [BinaryFormat.interval, quarter_mul]
  split
  · rw [Nat.cast_sub (by omega)]
    push_cast
    ring
  · rw [Nat.cast_sub (by omega)]
    push_cast
    ring

/-- A number in the interval of a value is rounded to the significand, if it is counted in the last
place of the value. -/
theorem rounds_to_of_holds (filled : 0 < significand)
    (holds : (format.interval significand exponent).Holds value) :
    RoundsTo (value / 2 ^ exponent) significand := by
  have unit : (0 : ℚ) < 2 ^ exponent := zpow_pos two_pos exponent
  have ends := holds.le
  rw [interval_low filled, interval_high, ← le_div_iff₀ unit, ← div_le_iff₀ unit] at ends
  have low : (significand : ℚ) - 1 / 2 ≤ value / 2 ^ exponent := by
    refine le_trans (sub_le_sub_left ?_ _) ends.1
    split <;> norm_num
  refine ⟨low, ends.2, fun tie => ?_⟩
  by_contra odd
  have strict := holds.lt (by simpa [BinaryFormat.interval] using odd)
  rw [interval_low filled, interval_high, ← lt_div_iff₀ unit, ← div_lt_iff₀ unit] at strict
  have above : (significand : ℚ) - 1 / 2 < value / 2 ^ exponent := by
    refine lt_of_le_of_lt (sub_le_sub_left ?_ _) strict.1
    split <;> norm_num
  rcases tie with atLow | atHigh
  · exact above.ne' atLow
  · exact strict.2.ne atHigh

/-- The numbers in the interval of a value are about as large as the value. -/
theorem magnitude_of_holds (isValue : format.IsValue significand exponent)
    (filled : 0 < significand) (holds : (format.interval significand exponent).Holds value) :
    (2 : ℚ) ^ (exponent - 1) ≤ value ∧ value < 2 ^ (format.fractionBits + 1 + exponent) := by
  have unit : (0 : ℚ) < 2 ^ exponent := zpow_pos two_pos exponent
  obtain ⟨low, high, -⟩ := rounds_to_of_holds filled holds
  have one : (1 : ℚ) ≤ significand := by exact_mod_cast filled
  have narrow : (significand : ℚ) + 1 ≤ 2 ^ format.fractionBits * 2 := by
    rw [mul_comm]
    exact_mod_cast isValue.narrow
  constructor
  · rw [zpow_sub_one₀ two_ne_zero, mul_comm, ← le_div_iff₀ unit]
    linarith
  · rw [zpow_add₀ two_ne_zero, zpow_add_one₀ two_ne_zero, zpow_natCast, ← div_lt_iff₀ unit]
    linarith

/-- The numbers in the interval of a positive value are positive. -/
theorem pos_of_holds (isValue : format.IsValue significand exponent) (filled : 0 < significand)
    (holds : (format.interval significand exponent).Holds value) : 0 < value :=
  (zpow_pos two_pos _).trans_le (magnitude_of_holds isValue filled holds).1

/-- A number in the interval of a value with fewer digits before its point than the value is just
below a power of two, which the value is. Counted in half of the last place it is rounded to twice
the significand. -/
theorem rounds_to_of_missed (isValue : format.IsValue significand exponent)
    (filled : 0 < significand) (least : format.leastExponent < exponent)
    (holds : (format.interval significand exponent).Holds value)
    (missed : value < 2 ^ (format.fractionBits + exponent)) :
    significand = 2 ^ format.fractionBits ∧ (2 : ℚ) ^ (format.fractionBits + exponent - 1) ≤ value ∧
      RoundsTo (value / 2 ^ (exponent - 1)) (2 * 2 ^ format.fractionBits) := by
  have unit : (0 : ℚ) < 2 ^ exponent := zpow_pos two_pos exponent
  have low := holds.le.1
  rw [interval_low filled, ← le_div_iff₀ unit] at low
  rw [zpow_add₀ two_ne_zero, zpow_natCast, ← div_lt_iff₀ unit] at missed
  have same : significand = 2 ^ format.fractionBits := by
    have more : 2 ^ format.fractionBits ≤ significand := isValue.leading.resolve_left least.ne'
    have fewer : (significand : ℚ) < 2 ^ format.fractionBits + 1 := by
      have half : (if significand = Nat.pow 2 format.fractionBits ∧ format.leastExponent < exponent
          then 1 / 4 else 1 / 2 : ℚ) ≤ 1 / 2 := by
        split <;> norm_num
      linarith
    have : significand < 2 ^ format.fractionBits + 1 := by exact_mod_cast fewer
    omega
  rw [if_pos ⟨same, least⟩, same] at low
  push_cast at low
  have one : (1 : ℚ) ≤ 2 ^ format.fractionBits := one_le_pow₀ one_le_two
  have halved : value / 2 ^ (exponent - 1) = 2 * (value / 2 ^ exponent) := by
    rw [zpow_sub_one₀ two_ne_zero]
    field_simp
  refine ⟨same, ?_, ?_, ?_, fun _ => Nat.mul_mod_right 2 _⟩
  · rw [zpow_sub_one₀ two_ne_zero, zpow_add₀ two_ne_zero, zpow_natCast, mul_right_comm,
      ← le_div_iff₀ unit]
    linarith
  · rw [halved]
    push_cast
    linarith
  · rw [halved]
    push_cast
    linarith

/-- Quotients in the interval of a value have the bits of the value. -/
theorem BinaryFormat.nearest_of_holds {numerator denominator : Nat} (positive : 0 < denominator)
    (isValue : format.IsValue significand exponent) (filled : 0 < significand)
    (holds : (format.interval significand exponent).Holds (numerator / denominator)) :
    format.nearest numerator denominator = format.bitsOf significand exponent := by
  have quotient := pos_of_holds isValue filled holds
  have numeratorFilled : numerator ≠ 0 := by
    rintro rfl
    simp at quotient
  obtain ⟨top, reached, missed⟩ := exists_mem_Ico_zpow quotient one_lt_two
  rw [format.nearest_eq numeratorFilled positive reached missed]
  -- A number in the interval has no more digits before its point than the value.
  have notAbove : top - format.fractionBits ≤ exponent := by
    have fewer := (zpow_lt_zpow_iff_right₀ one_lt_two).mp
      (reached.trans_lt (magnitude_of_holds isValue filled holds).2)
    omega
  have bits : (max format.leastExponent (top - format.fractionBits) -
        format.leastExponent).toNat * Nat.pow 2 format.fractionBits +
      roundAt numerator denominator (max format.leastExponent (top - format.fractionBits)) =
        format.bitsOf significand exponent := by
    rcases (max_le isValue.least notAbove).eq_or_lt with same | below
    · rw [same, round_at_eq positive (rounds_to_of_holds filled holds)]
      rfl
    · -- The quotient is counted in a place that weighs half as much.
      obtain ⟨least, fewer⟩ := max_lt_iff.mp below
      obtain ⟨same, almost, rounds⟩ := rounds_to_of_missed isValue filled least holds
        (missed.trans_le (zpow_le_zpow_right₀ one_le_two (by omega)))
      have half := (zpow_lt_zpow_iff_right₀ one_lt_two).mp (almost.trans_lt missed)
      have place : max format.leastExponent (top - format.fractionBits) = exponent - 1 := by omega
      have carried : (exponent - format.leastExponent).toNat =
          (exponent - 1 - format.leastExponent).toNat + 1 := by omega
      rw [place, round_at_eq positive rounds, bitsOf, same, carried]
      change _ * 2 ^ format.fractionBits + _ = _
      ring
  rw [bits, min_eq_right isValue.finite.le]

end Nearest

/-! ### The values of bits -/

section Bits

variable {format : BinaryFormat} {bits significand : Nat} {negative : Bool} {exponent : Int}

/-- The bits of the smallest values are their significands. -/
theorem bits_of_least (format : BinaryFormat) (significand : Nat) :
    format.bitsOf significand format.leastExponent = significand := by
  simp [BinaryFormat.bitsOf]

/-- Bits are a sign, the field of the exponent and the fraction. -/
theorem mod_sign_bit (format : BinaryFormat) (bits : Nat) :
    bits % format.signBit = bits % 2 ^ format.fractionBits +
      2 ^ format.fractionBits * (bits / 2 ^ format.fractionBits % 2 ^ format.exponentBits) := by
  rw [← Nat.mod_mul, ← pow_add]
  rfl

/-- What the bits of a finite value give: whether they have the sign bit, and a significand and an
exponent of the bits without it. -/
theorem decode_finite (decoded : format.decode bits = .finite negative significand exponent) :
    format.IsValue significand exponent ∧
      bits % format.signBit = format.bitsOf significand exponent ∧
      negative = (bits / format.signBit % 2 == 1) := by
  have fraction : bits % 2 ^ format.fractionBits < 2 ^ format.fractionBits :=
    Nat.mod_lt _ (Nat.two_pow_pos _)
  have field : bits / 2 ^ format.fractionBits % 2 ^ format.exponentBits < 2 ^ format.exponentBits :=
    Nat.mod_lt _ (Nat.two_pow_pos _)
  have infinity : format.infinityBits =
      (2 ^ format.exponentBits - 1) * 2 ^ format.fractionBits := rfl
  rw [mod_sign_bit]
  change (if bits / 2 ^ format.fractionBits % 2 ^ format.exponentBits + 1 =
      2 ^ format.exponentBits then _ else _) = _ at decoded
  generalize bits / 2 ^ format.fractionBits % 2 ^ format.exponentBits = place at *
  generalize bits % 2 ^ format.fractionBits = rest at *
  split at decoded
  · split at decoded <;> cases decoded
  · rename_i notLast
    have below : (place + 1) * 2 ^ format.fractionBits ≤ format.infinityBits :=
      infinity ▸ Nat.mul_le_mul_right _ (by omega)
    rw [Nat.succ_mul] at below
    split at decoded
    · rename_i first
      subst first
      cases decoded
      have same := bits_of_least format significand
      refine ⟨⟨le_rfl, by omega, .inl rfl, by omega⟩, by omega, rfl⟩
    · rename_i later
      cases decoded
      obtain ⟨before, rfl⟩ := Nat.exists_eq_succ_of_ne_zero later
      have same : format.bitsOf (rest + Nat.pow 2 format.fractionBits)
          (format.leastExponent + (before.succ - 1 : Nat)) =
            before * 2 ^ format.fractionBits + (rest + 2 ^ format.fractionBits) := by
        rw [BinaryFormat.bitsOf, add_sub_cancel_left, Int.toNat_natCast]
        rfl
      rw [Nat.succ_eq_add_one, Nat.succ_mul] at below
      refine ⟨⟨Int.le_add_of_nonneg_right (Int.natCast_nonneg _), ?_,
        .inr (Nat.le_add_left _ rest), ?_⟩, ?_, rfl⟩
      · rw [two_mul]
        exact Nat.add_lt_add_right fraction _
      · rw [same]
        omega
      · rw [same, Nat.mul_succ, Nat.mul_comm]
        omega

end Bits

end LiveShader.Decimal

import LiveShader.Config.Document
import Mathlib.Algebra.Group.Nat.Defs

/-!
# Numbers of seconds

A number of seconds that a document gives is an integer or a number of the 64-bit format. It is a
duration if it is not negative and below two to the power of 64, and is refused with words if it is
negative or no finite number. What is left are the finite numbers from that power on, and these are
too long to be held. Numbers with a fraction are far below: their significands have 53 bits, so
those that count in halves of a second or less stay under the limit however they are rounded.
-/
namespace LiveShader

open Document

namespace Decimal

/-- The significand of a finite number has one bit more than the fraction of the format. -/
theorem significand_lt {format : BinaryFormat} {bits significand : Nat} {negative : Bool}
    {exponent : Int} (decoded : format.decode bits = .finite negative significand exponent) :
    significand < 2 * Nat.pow 2 format.fractionBits := by
  have fraction : bits % Nat.pow 2 format.fractionBits < Nat.pow 2 format.fractionBits :=
    Nat.mod_lt _ (Nat.pow_pos (by decide))
  unfold BinaryFormat.decode at decoded
  dsimp only at decoded
  split at decoded
  · split at decoded <;> cases decoded
  · split at decoded
    · cases decoded
      omega
    · cases decoded
      omega

/-- The significand of a double is below two to the power of 53: its 52 bits and the leading one
that is not stored. -/
theorem significand_lt_of_double {bits significand : Nat} {negative : Bool} {exponent : Int}
    (decoded : BinaryFormat.double.decode bits = .finite negative significand exponent) :
    significand < 2 ^ 53 := by
  have bound := significand_lt decoded
  have width : 2 * Nat.pow 2 BinaryFormat.double.fractionBits = 2 ^ 53 := by decide
  rwa [width] at bound

/-- Rounding goes up by one at most. -/
theorem round_half_even_le (numerator denominator : Nat) :
    roundHalfEven numerator denominator ≤ numerator / denominator + 1 := by
  simp only [roundHalfEven]
  split
  · omega
  · split <;> omega

end Decimal

namespace Duration

/-- A finite number of seconds fits below two to the power of 64, and not from there on. -/
theorem nearest_nanoseconds_lt_iff {significand : Nat} (narrow : significand < 2 ^ 53)
    (exponent : Int) :
    nearestNanoseconds significand exponent < durationLimit ↔
      ¬(0 ≤ exponent ∧ wordLimit 64 ≤ significand * 2 ^ exponent.toNat) := by
  have second : 0 < nanosecondsPerSecond := by decide
  simp only [nearestNanoseconds]
  split
  · rename_i whole
    have reordered : significand * nanosecondsPerSecond * Nat.pow 2 exponent.toNat =
        significand * 2 ^ exponent.toNat * nanosecondsPerSecond := Nat.mul_right_comm ..
    rw [reordered, durationLimit, Nat.mul_lt_mul_right second]
    omega
  · rename_i fractional
    have scaled : significand * nanosecondsPerSecond < 2 ^ 53 * nanosecondsPerSecond :=
      Nat.mul_lt_mul_of_pos_right narrow second
    have rounded := Decimal.round_half_even_le (significand * nanosecondsPerSecond)
      (Nat.pow 2 (-exponent).toNat)
    have divided : significand * nanosecondsPerSecond / Nat.pow 2 (-exponent).toNat ≤
        significand * nanosecondsPerSecond := Nat.div_le_self ..
    have limit : 2 ^ 53 * nanosecondsPerSecond < durationLimit := by decide
    omega

end Duration

namespace Config

/-- Whether a value is a length of time that is too long to be held. -/
def IsTooLong : Value → Prop
  | .text text => Duration.readSpelled text = .error .outOfRange
  | .integer n => (wordLimit 64 : Int) ≤ n
  | .float value => ∃ significand exponent,
      Decimal.BinaryFormat.double.decode value.toBits.toNat = .finite false significand exponent ∧
        0 ≤ exponent ∧ wordLimit 64 ≤ significand * 2 ^ exponent.toNat
  | _ => False

/-- The nearest whole number of nanoseconds to a number of seconds that is finite and not
negative. -/
def nanoseconds? : Value → Option Nat
  | .integer n => if n < 0 then none else some (n.toNat * nanosecondsPerSecond)
  | .float value =>
    match Decimal.BinaryFormat.double.decode value.toBits.toNat with
    | .finite false significand exponent =>
      some (Duration.nearestNanoseconds significand exponent)
    | _ => none
  | _ => none

/-- Whether a value is a number. -/
def isNumber : Value → Bool
  | .integer _ | .float _ => true
  | _ => false

/-- A count of nanoseconds below the limit is held as it is. -/
theorem held_of_lt {nanoseconds : Nat} (small : nanoseconds < durationLimit) :
    held (Duration.ofNanoseconds? nanoseconds) = .ok ⟨nanoseconds, small⟩ := by
  rw [Duration.ofNanoseconds?, dif_pos small]
  rfl

/-- A count of nanoseconds breaks the loading off exactly if it is not below the limit. There is no
other outcome to consider: a count is never an error of the document. -/
theorem held_overflow_iff (nanoseconds : Nat) :
    held (Duration.ofNanoseconds? nanoseconds) = .error .overflow ↔
      ¬ nanoseconds < durationLimit := by
  by_cases small : nanoseconds < durationLimit
  · simp [held_of_lt small, small]
  · simp [Duration.ofNanoseconds?, small, held]

/-- Whole seconds are below the limit of a duration exactly if they fit into a word of 64 bits,
since the limit is the first second that does not. -/
theorem seconds_lt_iff (seconds : Nat) :
    seconds * nanosecondsPerSecond < durationLimit ↔ seconds < wordLimit 64 := by
  have second : 0 < nanosecondsPerSecond := by decide
  rw [durationLimit, Nat.mul_lt_mul_right second]

/-- Reading a length of time breaks off exactly for those that are too long. -/
theorem read_duration_overflow_iff (format : Format) (value : Value) :
    readDuration format value = .error .overflow ↔ IsTooLong value := by
  cases value with
  | text text =>
    simp only [readDuration, IsTooLong]
    cases Duration.readSpelled text with
    | ok duration => simp
    | error fault => cases fault <;> simp
  | integer n =>
    simp only [readDuration, IsTooLong]
    split
    · rename_i negative
      have small : ¬ (wordLimit 64 : Int) ≤ n := by omega
      simp [small]
    · rw [Duration.ofSeconds?, held_overflow_iff, seconds_lt_iff]
      omega
  | float value =>
    simp only [readDuration, readSeconds, IsTooLong]
    split
    · rename_i significand exponent decoded
      have narrow := Decimal.significand_lt_of_double decoded
      rw [held_overflow_iff, Duration.nearest_nanoseconds_lt_iff narrow, Classical.not_not]
      constructor
      · exact fun long => ⟨significand, exponent, decoded, long⟩
      · rintro ⟨_, _, same, long⟩
        cases decoded.symm.trans same
        exact long
    · rename_i other
      constructor
      · intro wrong
        cases wrong
      · rintro ⟨significand, exponent, decoded, -⟩
        exact absurd decoded (other significand exponent)
  | null | boolean | moment | list | tables | table => simp [readDuration, IsTooLong, mismatch]

/-- What a number of seconds yields that is not too long. -/
theorem read_duration_of_number (format : Format) {value : Value} (number : isNumber value = true)
    (fits : ¬ IsTooLong value) :
    (∃ duration, readDuration format value = .ok duration ∧
      nanoseconds? value = some duration.nanoseconds) ∨
    (∃ words, readDuration format value = .error (.custom words)) ∧ nanoseconds? value = none := by
  cases value with
  | integer n =>
    simp only [readDuration, nanoseconds?]
    split
    · exact .inr ⟨⟨_, rfl⟩, rfl⟩
    · have small : n.toNat * nanosecondsPerSecond < durationLimit := by
        rw [seconds_lt_iff]
        simp only [IsTooLong] at fits
        omega
      exact .inl ⟨_, held_of_lt small, rfl⟩
  | float value =>
    simp only [readDuration, readSeconds, nanoseconds?]
    cases decoded : Decimal.BinaryFormat.double.decode value.toBits.toNat with
    | infinite | notANumber => exact .inr ⟨⟨_, rfl⟩, rfl⟩
    | finite negative significand exponent =>
      cases negative with
      | true => exact .inr ⟨⟨_, rfl⟩, rfl⟩
      | false =>
        have small : Duration.nearestNanoseconds significand exponent < durationLimit :=
          (Duration.nearest_nanoseconds_lt_iff (Decimal.significand_lt_of_double decoded)
            exponent).mpr fun long => fits ⟨significand, exponent, decoded, long⟩
        exact .inl ⟨_, held_of_lt small, rfl⟩
  | null | boolean | text | moment | list | tables | table => cases number

end Config

end LiveShader

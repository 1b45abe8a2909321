import LiveShader.Console.Line
import LiveShader.Proofs.SpelledDecimals
import Mathlib

/-!
# Numbers that are printed and read back

A reply prints a number of the 32-bit format with the fewest digits that tell it from the numbers
beside it, and never with an exponent. The console reads that text as the number it was printed
from, whatever the number, negative zero included. What the console reads is finite, however large
the decimal that was typed.
-/
namespace LiveShader.Decimal

open Float.Model (Format UnpackedFloat)

/-- The bits of the exponent are all set just when they are in the middle of the whole. -/
theorem exponent_field_iff (bits : UInt32) :
    (UnpackedFloat.unpackExponent bits.toBitVec : BitVec Format.binary32.exponentBits) = -1#8 ↔
      bits.toNat / 2 ^ 23 % 2 ^ 8 + 1 = 2 ^ 8 := by
  have field : (UnpackedFloat.unpackExponent bits.toBitVec :
      BitVec Format.binary32.exponentBits).toNat = bits.toNat / 2 ^ 23 % 2 ^ 8 := by
    simp [UnpackedFloat.unpackExponent, BitVec.extractLsb, BitVec.extractLsb'_toNat,
      Nat.shiftRight_eq_div_pow]
  rw [← field, ← BitVec.toNat_inj]
  exact Nat.add_right_cancel_iff.symm

/-- A value is finite unless all bits of its exponent are set. -/
theorem is_finite_iff (value : Float32) : value.isFinite = true ↔
    value.toBits.toNat / 2 ^ 23 % 2 ^ 8 + 1 ≠ 2 ^ 8 := by
  rw [ne_eq, ← exponent_field_iff]
  change (UnpackedFloat.unpack Format.binary32 value.toBits.toBitVec).isFinite = true ↔ _
  simp only [UnpackedFloat.unpack]
  split
  · rename_i last
    have infinite : (UnpackedFloat.unpackExponent value.toBits.toBitVec :
      BitVec Format.binary32.exponentBits) = -1#8 := last
    split <;> simp [UnpackedFloat.isFinite, infinite]
  · rename_i notLast
    split
    · split <;> exact iff_of_true rfl notLast
    · exact iff_of_true rfl notLast

/-- A value keeps the bits it is made of, if they are those of a finite value. -/
theorem to_bits_of_bits {bits : UInt32} (finite : bits.toNat / 2 ^ 23 % 2 ^ 8 + 1 ≠ 2 ^ 8) :
    (Float32.ofBits bits).toBits = bits := by
  have valid : Format.binary32.Valid bits.toBitVec :=
    ⟨fun infinite => absurd ((exponent_field_iff bits).mp infinite) finite⟩
  exact congrArg Float32.toBits (Float32.ofBits_toBits (Float32.ofModel ⟨bits, valid⟩))

/-- The bits of a finite value are those of a significand and an exponent. -/
theorem decode_of_is_finite {value : Float32} (finite : value.isFinite = true) :
    ∃ negative significand exponent,
      BinaryFormat.single.decode value.toBits.toNat = .finite negative significand exponent := by
  have field := (is_finite_iff value).mp finite
  unfold BinaryFormat.decode
  dsimp only
  split
  · rename_i last
    exact absurd last field
  · split
    · exact ⟨_, _, _, rfl⟩
    · exact ⟨_, _, _, rfl⟩

/-- A value with the bits of a decimal that is read as its magnitude is that value. -/
theorem single_of_decoded {value : Float32} {negative : Bool} {significand : Nat} {exponent : Int}
    (decoded : BinaryFormat.single.decode value.toBits.toNat =
      .finite negative significand exponent) {number : Scientific}
    (read : BinaryFormat.single.ofScientific number =
      BinaryFormat.single.bitsOf significand exponent) :
    singleOf negative number = value := by
  obtain ⟨-, magnitude, sign⟩ := decode_finite decoded
  have fits := value.toBits.toNat_lt
  have whole : BinaryFormat.single.ofSigned negative number = value.toBits.toNat := by
    have weight : BinaryFormat.single.signBit = 2147483648 := by decide
    rw [BinaryFormat.ofSigned, read, ← magnitude, sign, weight]
    simp only [beq_iff_eq]
    split
    · omega
    · omega
  rw [singleOf, whole, UInt32.ofNat_toNat, Float32.ofBits_toBits]

/-- A decimal that is not read as infinity gives a finite value. -/
theorem single_of_is_finite {negative : Bool} {number : Scientific}
    (below : BinaryFormat.single.ofScientific number ≠ BinaryFormat.single.infinityBits) :
    (singleOf negative number).isFinite = true := by
  have infinity : BinaryFormat.single.infinityBits = 2139095040 := by decide
  have weight : BinaryFormat.single.signBit = 2147483648 := by decide
  have small := Nat.lt_of_le_of_ne (of_scientific_le BinaryFormat.single number) below
  have signed : BinaryFormat.single.ofSigned negative number =
      (if negative then BinaryFormat.single.signBit else 0) +
        BinaryFormat.single.ofScientific number := rfl
  rw [infinity] at small
  rw [weight] at signed
  have fits : BinaryFormat.single.ofSigned negative number < 2 ^ 32 := by
    rw [signed]
    split <;> omega
  have bits : (UInt32.ofNat (BinaryFormat.single.ofSigned negative number)).toNat =
      BinaryFormat.single.ofSigned negative number := UInt32.toNat_ofNat_of_lt fits
  have kept : (UInt32.ofNat (BinaryFormat.single.ofSigned negative number)).toNat / 2 ^ 23 % 2 ^ 8 +
      1 ≠ 2 ^ 8 := by
    rw [bits, signed]
    split <;> omega
  rw [is_finite_iff, singleOf, to_bits_of_bits kept]
  exact kept

end LiveShader.Decimal

namespace LiveShader.Console

open Decimal

/-- The text of a finite value has its sign, and behind it the spelling of a number that is read as
the value. -/
theorem single_text {value : Float32} (finite : value.isFinite = true) :
    ∃ negative text number, (Layout.plain.single value).toList = signed negative text ∧
      Spells text number ∧ ∀ decimal : Scientific, decimal.value = number →
        BinaryFormat.single.ofScientific decimal ≠ BinaryFormat.single.infinityBits ∧
        singleOf negative decimal = value := by
  obtain ⟨negative, significand, exponent, decoded⟩ := decode_of_is_finite finite
  obtain ⟨isValue, -, -⟩ := decode_finite decoded
  have printed : (Layout.plain.single value).toList = signed negative
      (Layout.plain.unsigned (BinaryFormat.single.shortest .up significand exponent)) := by
    rw [Layout.single, Layout.render, decoded]
    exact String.toList_ofList
  -- It is enough that what is read has the bits of the value.
  suffices spelled : ∃ number,
      Spells (Layout.plain.unsigned (BinaryFormat.single.shortest .up significand exponent))
          number ∧
        ∀ decimal : Scientific, decimal.value = number →
          BinaryFormat.single.ofScientific decimal =
            BinaryFormat.single.bitsOf significand exponent by
    obtain ⟨number, spells, bits⟩ := spelled
    refine ⟨negative, _, number, printed, spells, fun decimal same => ⟨?_, ?_⟩⟩
    · rw [bits decimal same]
      exact isValue.finite.ne
    · exact single_of_decoded decoded (bits decimal same)
  rcases Nat.eq_zero_or_pos significand with rfl | filled
  · refine ⟨0, spells_zero, fun decimal zero => ?_⟩
    have least : exponent = BinaryFormat.single.leastExponent :=
      isValue.leading.resolve_right (by simp)
    rw [least, bits_of_least, BinaryFormat.ofScientific, if_pos (Scientific.value_eq_zero.mp zero)]
  · have holds := shortest_holds single_is_usual isValue filled .up
    have digits : (BinaryFormat.single.shortest .up significand exponent).digits ≠ 0 :=
      fun none => (pos_of_holds isValue filled holds).ne' (Scientific.value_eq_zero.mpr none)
    refine ⟨_, ?_, fun decimal same =>
      of_scientific_of_holds single_is_usual isValue filled (same ▸ holds)⟩
    rw [Layout.unsigned, if_neg digits]
    exact spells_positional _

/-- A finite value is read back from its text. -/
theorem read_number_single {value : Float32} (finite : value.isFinite = true) :
    readNumber (Layout.plain.single value).toList = .ok value := by
  obtain ⟨negative, text, number, printed, spells, same⟩ := single_text finite
  obtain ⟨decimal, read, isNumber⟩ := read_typed_signed spells negative
  obtain ⟨below, given⟩ := same decimal isNumber
  simp only [readNumber, printed, read, if_neg below, given]

/-- What is read is finite. -/
theorem is_finite_of_read_number {word : List Char} {value : Float32}
    (read : readNumber word = .ok value) : value.isFinite = true := by
  unfold readNumber at read
  split at read
  · cases read
  · split at read
    · cases read
    · rename_i below
      cases read
      exact single_of_is_finite below
  · cases read

/-- The text of a finite value is one word. -/
theorem is_word_single {value : Float32} (finite : value.isFinite = true) :
    Text.IsWord (Layout.plain.single value).toList := by
  obtain ⟨negative, text, number, printed, spells, -⟩ := single_text finite
  obtain ⟨first, rest, starts, -⟩ := spells.starts
  have visible := spells.visible
  rw [printed]
  cases negative with
  | true => exact ⟨List.cons_ne_nil _ _, List.forall_mem_cons.mpr ⟨rfl, visible⟩⟩
  | false => exact ⟨starts ▸ List.cons_ne_nil first rest, visible⟩

end LiveShader.Console

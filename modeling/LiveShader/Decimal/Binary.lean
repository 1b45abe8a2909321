/-!
# Binary floating-point formats

The two binary formats as exact arithmetic on natural numbers: what a bit pattern stands for, and
the bit pattern nearest to a quotient. A finite value is `significand * 2 ^ exponent`, and every
value of a format is written with the one exponent its bits give it.
-/
namespace LiveShader.Decimal

/-- A format is given by the widths of its fraction and exponent fields. -/
structure BinaryFormat where
  fractionBits : Nat
  exponentBits : Nat

namespace BinaryFormat

/-- The 32-bit format. -/
def single : BinaryFormat := ⟨23, 8⟩

/-- The 64-bit format. -/
def double : BinaryFormat := ⟨52, 11⟩

/-- The exponent of the smallest values, whose last bit weighs least. -/
def leastExponent (format : BinaryFormat) : Int :=
  2 - Nat.pow 2 (format.exponentBits - 1) - format.fractionBits

/-- The bits of positive infinity, above those of every finite value. -/
def infinityBits (format : BinaryFormat) : Nat :=
  (Nat.pow 2 format.exponentBits - 1) * Nat.pow 2 format.fractionBits

/-- The weight of the sign bit. -/
def signBit (format : BinaryFormat) : Nat :=
  Nat.pow 2 (format.fractionBits + format.exponentBits)

end BinaryFormat

/-- What a bit pattern stands for. -/
inductive BinaryValue where
  | finite (negative : Bool) (significand : Nat) (exponent : Int)
  | infinite (negative : Bool)
  | notANumber

/-- Reads a bit pattern. The smallest exponent field stands for values without an implied leading
bit, the largest for infinities and values that are no numbers. -/
def BinaryFormat.decode (format : BinaryFormat) (bits : Nat) : BinaryValue :=
  let negative := bits / format.signBit % 2 == 1
  let field := bits / Nat.pow 2 format.fractionBits % Nat.pow 2 format.exponentBits
  let fraction := bits % Nat.pow 2 format.fractionBits
  if field + 1 = Nat.pow 2 format.exponentBits then
    if fraction = 0 then .infinite negative else .notANumber
  else if field = 0 then .finite negative fraction format.leastExponent
  else .finite negative (fraction + Nat.pow 2 format.fractionBits)
      (format.leastExponent + (field - 1 : Nat))

/-- A quotient rounded to the nearest natural number; a half goes to the even neighbour. -/
def roundHalfEven (numerator denominator : Nat) : Nat :=
  let whole := numerator / denominator
  let rest := numerator % denominator
  if 2 * rest < denominator then whole
  else if denominator < 2 * rest then whole + 1
  else whole + whole % 2

/-- The bits of the value nearest to a positive quotient; what is too large becomes infinity. A
rounding that carries into the next power of two carries into the exponent field by itself. -/
def BinaryFormat.nearest (format : BinaryFormat) (numerator denominator : Nat) : Nat :=
  if numerator = 0 then 0
  else
    let guess : Int := (numerator.log2 : Int) - denominator.log2
    let reaches (power : Int) : Bool :=
      if 0 ≤ power then denominator * Nat.pow 2 power.toNat ≤ numerator
      else denominator ≤ numerator * Nat.pow 2 (-power).toNat
    let top := if reaches guess then guess else guess - 1
    let exponent := max format.leastExponent (top - format.fractionBits)
    let significand :=
      if 0 ≤ exponent then roundHalfEven numerator (denominator * Nat.pow 2 exponent.toNat)
      else roundHalfEven (numerator * Nat.pow 2 (-exponent).toNat) denominator
    min format.infinityBits
      ((exponent - format.leastExponent).toNat * Nat.pow 2 format.fractionBits + significand)

end LiveShader.Decimal

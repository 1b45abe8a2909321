import LiveShader.Decimal.Binary
import LiveShader.Decimal.Shortest

/-!
# Reading decimals

Digits with an optional point and exponent, read as the nearest value of a binary format. The
exact decimal is rounded once, whatever its length.
-/
namespace LiveShader.Decimal

/-- The value of a digit. -/
def digitValue (c : Char) : Nat := c.toNat - '0'.toNat

/-- The number a list of digits spells, in front of which `before` has been read. -/
def readDigits (before : Nat) (digits : List Char) : Nat :=
  digits.foldl (fun value c => 10 * value + digitValue c) before

/-- The bits nearest to a decimal. Exponents far outside the range of the 64-bit format decide by
themselves, so that no power of ten grows without bound. -/
def BinaryFormat.ofScientific (format : BinaryFormat) (number : Scientific) : Nat :=
  if number.digits = 0 then 0
  else if 400 < number.exponent then format.infinityBits
  else if (number.digits.log2 : Int) + 1 + number.exponent < -400 then 0
  else if 0 ≤ number.exponent then
    format.nearest (number.digits * Nat.pow 10 number.exponent.toNat) 1
  else format.nearest number.digits (Nat.pow 10 (-number.exponent).toNat)

/-- The bits of a decimal with a sign. -/
def BinaryFormat.ofSigned (format : BinaryFormat) (negative : Bool) (number : Scientific) : Nat :=
  (if negative then format.signBit else 0) + format.ofScientific number

/-- The 32-bit value nearest to a decimal. -/
def singleOf (negative : Bool) (number : Scientific) : Float32 :=
  Float32.ofBits (UInt32.ofNat (BinaryFormat.single.ofSigned negative number))

/-- The 64-bit value nearest to a decimal. -/
def doubleOf (negative : Bool) (number : Scientific) : Float :=
  Float.ofBits (UInt64.ofNat (BinaryFormat.double.ofSigned negative number))

/-- A sign in front of a text, and the text behind it. A missing sign is positive. -/
def takeSign : List Char → Bool × List Char
  | '-' :: rest => (true, rest)
  | '+' :: rest => (false, rest)
  | rest => (false, rest)

/-- The number with whole and fraction digits and a power of ten. -/
def Scientific.ofParts (whole fraction : List Char) (power : Int) : Scientific :=
  ⟨readDigits (readDigits 0 whole) fraction, power - fraction.length⟩

/-- The power of ten that ends a number: an `e`, an optional sign and at least one digit, or
nothing at all. -/
def readPower? : List Char → Option Int
  | [] => some 0
  | mark :: rest =>
    if mark = 'e' ∨ mark = 'E' then
      let (negative, digits) := takeSign rest
      if digits.isEmpty || !digits.all Char.isDigit then none
      else if negative then some (-(readDigits 0 digits : Nat))
      else some (readDigits 0 digits : Nat)
    else none

/-- Reads digits, an optional point and digits, and an optional power of ten. There is at least one
digit beside the point, on either side of it. -/
def readScientific? (text : List Char) : Option Scientific :=
  let whole := text.takeWhile Char.isDigit
  let (fraction, rest) :=
    match text.dropWhile Char.isDigit with
    | '.' :: rest => (rest.takeWhile Char.isDigit, rest.dropWhile Char.isDigit)
    | rest => ([], rest)
  if whole.isEmpty && fraction.isEmpty then none
  else (readPower? rest).map (Scientific.ofParts whole fraction)

/-- What a typed number may be. -/
inductive TypedNumber where
  | decimal (negative : Bool) (number : Scientific)
  | infinite (negative : Bool)
  | notANumber

/-- Reads a typed number: an optional sign before a decimal or one of the words `inf`, `infinity`
and `nan`, whose letters may be of either case. -/
def readTyped? (text : List Char) : Option TypedNumber :=
  let (negative, rest) := takeSign text
  let word := String.ofList (rest.map Char.toLower)
  if word = "inf" ∨ word = "infinity" then some (.infinite negative)
  else if word = "nan" then some .notANumber
  else (readScientific? rest).map (TypedNumber.decimal negative)

end LiveShader.Decimal

import LiveShader.Decimal.Binary

/-!
# The shortest decimal of a binary value

Among the decimals that read back as a binary value, those with the fewest digits are wanted, and
of them the nearest. The decimals that read back form an interval around the value: it ends half
way to the two neighbouring values, and its ends belong to it when the significand is even. The
search tries one digit, then two, and so on; on each decimal grid only the two neighbours of the
value need to be tried, because a grid point in the interval leaves one of them in it.
-/
namespace LiveShader.Decimal

/-- The number `digits * 10 ^ exponent`. -/
structure Scientific where
  digits : Nat
  exponent : Int
  deriving DecidableEq

/-- Which neighbour is taken when the value lies exactly between two decimals. -/
inductive Tie where
  | up
  | even

/-- Moves the zeros that end the digits into the exponent. The first argument bounds how many
zeros are moved. -/
def Scientific.dropZeros : Nat → Scientific → Scientific
  | 0, number => number
  | bound + 1, number =>
    if number.digits ≠ 0 ∧ number.digits % 10 = 0 then
      dropZeros bound ⟨number.digits / 10, number.exponent + 1⟩
    else number

/-- A value together with the interval that rounds to it, in units of a quarter of the value's
last place. -/
structure RoundingInterval where
  low : Nat
  middle : Nat
  high : Nat
  endsIncluded : Bool
  unitExponent : Int

/-- The interval of the decimals that round to `significand * 2 ^ exponent`. Just above a power of
two the lower neighbour is nearer. -/
def BinaryFormat.interval (format : BinaryFormat) (significand : Nat) (exponent : Int) :
    RoundingInterval :=
  let narrow := significand = Nat.pow 2 format.fractionBits ∧ format.leastExponent < exponent
  { low := 4 * significand - if narrow then 1 else 2
    middle := 4 * significand
    high := 4 * significand + 2
    endsIncluded := significand % 2 == 0
    unitExponent := exponent - 2 }

/-- The best decimal with the given exponent, if one lies in the interval: of two the nearer, and
of two equally near ones the one `tie` says. Grids too coarse to reach the value hold none. -/
def RoundingInterval.onGrid? (interval : RoundingInterval) (tie : Tie) (exponent : Int) :
    Option Nat :=
  let power (base : Nat) (value : Int) : Nat := Nat.pow base value.toNat
  let scale := power 2 interval.unitExponent * power 10 (-exponent)
  let step := power 2 (-interval.unitExponent) * power 10 exponent
  let value := interval.middle * scale
  let below := value / step
  let above := below + 1
  let within (candidate : Nat) : Bool :=
    let place := candidate * step
    if interval.endsIncluded then interval.low * scale ≤ place && place ≤ interval.high * scale
    else interval.low * scale < place && place < interval.high * scale
  if below = 0 then none
  else if value % step = 0 then some below
  else if within below && within above then
    let twice := 2 * (value % step)
    if twice < step then some below
    else if step < twice then some above
    else
      match tie with
      | .up => some above
      | .even => some (below + below % 2)
  else if within below then some below
  else if within above then some above
  else none

/-- Tries ever finer grids. The first argument bounds their number. -/
def RoundingInterval.search (interval : RoundingInterval) (tie : Tie) :
    Nat → Int → Option Scientific
  | 0, _ => none
  | bound + 1, exponent =>
    match interval.onGrid? tie exponent with
    | some digits => some (Scientific.dropZeros 20 ⟨digits, exponent⟩)
    | none => search interval tie bound (exponent - 1)

/-- The shortest decimal of a positive value `significand * 2 ^ exponent`. The first grid tried is
no finer than the value's first decimal place: 1233 / 4096 is a little less than the number of
decimal places per binary place. -/
def BinaryFormat.shortest (format : BinaryFormat) (tie : Tie) (significand : Nat)
    (exponent : Int) : Scientific :=
  if significand = 0 then ⟨0, 0⟩
  else
    let binaryPlaces : Int := significand.log2 + exponent
    let start := (binaryPlaces * 1233).fdiv 4096 + 2
    ((format.interval significand exponent).search tie 24 start).getD ⟨0, 0⟩

end LiveShader.Decimal

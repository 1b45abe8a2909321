import LiveShader.Decimal.Shortest

/-!
# Layouts of decimals

How the shortest decimal of a value is written. A layout says how far from the point digits are
written positionally, whether a whole number keeps a zero behind the point, and what stands for
values that are not finite.
-/
namespace LiveShader.Decimal

/-- The texts of a layout. Numbers whose first digit stands at most `leading` places before the
point, and at most `trailing` places behind it, are written positionally; no bound is written
`none`. -/
structure Layout where
  tie : Tie
  leading : Option Nat
  trailing : Option Nat
  keepsFraction : Bool
  infinite : String
  notANumber : String

/-- Shortest digits that read back, never with an exponent. -/
def Layout.plain : Layout := ⟨.up, none, none, false, "inf", "NaN"⟩

/-- As `plain`, and a whole number ends in a point and a zero. -/
def Layout.plainFraction : Layout := { Layout.plain with keepsFraction := true }

/-- Numbers of a document in the 32-bit format. -/
def Layout.documentSingle : Layout := ⟨.even, some 13, some 6, true, "null", "null"⟩

/-- Numbers of a document in the 64-bit format. -/
def Layout.documentDouble : Layout := ⟨.even, some 16, some 5, true, "null", "null"⟩

/-- The digits of a natural number. -/
def digitText (n : Nat) : List Char := Nat.toDigits 10 n

/-- An integer with its sign. -/
def integerText (n : Int) : List Char :=
  if n < 0 then '-' :: digitText (-n).toNat else digitText n.toNat

/-- Digits written around the point. -/
def positional (keepsFraction : Bool) (number : Scientific) : List Char :=
  let digits := digitText number.digits
  let whole : Int := digits.length + number.exponent
  if 0 ≤ number.exponent then
    digits ++ List.replicate number.exponent.toNat '0' ++ if keepsFraction then ['.', '0'] else []
  else if 0 < whole then digits.take whole.toNat ++ '.' :: digits.drop whole.toNat
  else '0' :: '.' :: List.replicate (-whole).toNat '0' ++ digits

/-- An integer with a sign, also when it is not below zero. -/
def signedText (n : Int) : List Char :=
  if n < 0 then integerText n else '+' :: integerText n

/-- One digit before the point, and the power of ten behind it with its sign. -/
def withExponent (number : Scientific) : List Char :=
  let digits := digitText number.digits
  let power := signedText (digits.length + number.exponent - 1)
  match digits with
  | [] => []
  | [only] => only :: 'e' :: power
  | first :: rest => first :: '.' :: rest ++ 'e' :: power

/-- Whether a layout writes a number positionally. -/
def Layout.isPositional (layout : Layout) (number : Scientific) : Bool :=
  let whole : Int := (digitText number.digits).length + number.exponent
  (match layout.leading with
    | none => true
    | some bound => whole ≤ bound) &&
  (match layout.trailing with
    | none => true
    | some bound => -(bound : Int) < whole)

/-- A nonnegative decimal in a layout. -/
def Layout.unsigned (layout : Layout) (number : Scientific) : List Char :=
  if number.digits = 0 then if layout.keepsFraction then ['0', '.', '0'] else ['0']
  else if layout.isPositional number then positional layout.keepsFraction number
  else withExponent number

/-- The text of a bit pattern. Zero keeps its sign. -/
def Layout.render (layout : Layout) (format : BinaryFormat) (bits : Nat) : String :=
  match format.decode bits with
  | .notANumber => layout.notANumber
  | .infinite negative =>
    if negative && layout.infinite = "inf" then "-inf" else layout.infinite
  | .finite negative significand exponent =>
    let text := layout.unsigned (format.shortest layout.tie significand exponent)
    String.ofList (if negative then '-' :: text else text)

/-- The text of a 32-bit value. -/
def Layout.single (layout : Layout) (value : Float32) : String :=
  layout.render .single value.toBits.toNat

/-- The text of a 64-bit value. -/
def Layout.double (layout : Layout) (value : Float) : String :=
  layout.render .double value.toBits.toNat

end LiveShader.Decimal

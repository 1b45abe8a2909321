/-!
# Hexadecimal numerals

Numbers in lower-case digits to the base sixteen, filled up with zeros in front to a width. A
number that needs more digits has them all.
-/
namespace LiveShader.Text

/-- The digits of a number, at least as many as the width. -/
def hexDigits (width n : Nat) : List Char :=
  let digits := Nat.toDigits 16 n
  List.replicate (width - digits.length) '0' ++ digits

/-- A number as a text. -/
def hexText (width n : Nat) : String := String.ofList (hexDigits width n)

end LiveShader.Text

/-!
# Ranges of code points

Classes of characters are written as ascending lists of closed ranges.
-/
namespace LiveShader.Text

/-- Whether a character's code point lies in one of the ranges. -/
def inRanges (ranges : List (Nat × Nat)) (c : Char) : Bool :=
  ranges.any fun (first, last) => first ≤ c.toNat && c.toNat ≤ last

end LiveShader.Text

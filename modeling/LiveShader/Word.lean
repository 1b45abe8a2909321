/-!
# Words

Which numbers a word of some bits holds.
-/
namespace LiveShader

/-- The first number that is too large for a word of so many bits. -/
def wordLimit (bits : Nat) : Nat := Nat.pow 2 bits

end LiveShader

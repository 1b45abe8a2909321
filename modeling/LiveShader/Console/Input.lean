/-!
# Console input

The bytes that come in are cut into lines, and each line is a text or is not. A line ends at a
newline, or at the end of the input when something follows the last newline.
-/
namespace LiveShader.Console

/-- The byte that ends a line. -/
def newline : UInt8 := 10

/-- The lines of bytes that follow a line begun as `current`, whose bytes stand in reverse. -/
def byteLinesFrom (current : List UInt8) : List UInt8 → List (List UInt8)
  | [] => if current.isEmpty then [] else [current.reverse]
  | byte :: rest =>
    if byte = newline then current.reverse :: byteLinesFrom [] rest
    else byteLinesFrom (byte :: current) rest

/-- The text of a line, if its bytes are one. -/
def lineText? (bytes : List UInt8) : Option String :=
  String.fromUTF8? ⟨bytes.toArray⟩

/-- The lines of an input. A line that is no text is missing, but keeps its place. -/
def inputLines (bytes : List UInt8) : List (Option String) :=
  (byteLinesFrom [] bytes).map lineText?

end LiveShader.Console

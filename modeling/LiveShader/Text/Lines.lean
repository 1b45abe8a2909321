/-!
# Lines

A line ends at a newline, or at the end of the text when something follows the last newline. A
carriage return directly before the newline belongs to the line's end; one that stands anywhere
else, or at the end of a last line without a newline, belongs to the line.
-/
namespace LiveShader.Text

/-- The reverse of a line without the one carriage return that stood before its newline. -/
def dropReturn : List Char → List Char
  | '\r' :: rest => rest
  | line => line

/-- The lines of a text that follow a line begun as `current`, whose characters stand in
reverse. -/
def linesFrom (current : List Char) : List Char → List (List Char)
  | [] => if current.isEmpty then [] else [current.reverse]
  | c :: rest =>
    if c = '\n' then (dropReturn current).reverse :: linesFrom [] rest
    else linesFrom (c :: current) rest

/-- The lines of a text, without what ends them. -/
def lines (text : List Char) : List (List Char) :=
  linesFrom [] text

/-- The first line of a string, or nothing when the string is empty. -/
def firstLine (text : String) : String :=
  match lines text.toList with
  | [] => ""
  | line :: _ => String.ofList line

end LiveShader.Text

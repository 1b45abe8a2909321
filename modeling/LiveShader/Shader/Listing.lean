import LiveShader.Decimal.Layout
import LiveShader.Shader.Template
import LiveShader.Text.Lines

/-!
# The numbered listing

The wrapped shader, one row per line, numbered twice: as the driver counts, and, for the lines the
user wrote, as the editor counts.
-/
namespace LiveShader

/-- One row of a listing. -/
structure ListingRow where
  driverLine : Nat
  userLine : Option Nat
  text : String

/-- The user's number of a driver's line, when that line is one of the user's `count` lines. -/
def userLine? (count driverLine : Nat) : Option Nat :=
  if headerSize < driverLine ∧ driverLine - headerSize ≤ count then some (driverLine - headerSize)
  else none

/-- Numbers lines from `driverLine` on. -/
def numberRows (count : Nat) : Nat → List (List Char) → List ListingRow
  | _, [] => []
  | driverLine, line :: rest =>
    ⟨driverLine, userLine? count driverLine, String.ofList line⟩ ::
      numberRows count (driverLine + 1) rest

/-- The rows of the listing of a source. -/
def listing (source : String) (dialect : Dialect) : List ListingRow :=
  numberRows (Text.lines source.toList).length 1 (Text.lines (wrapFragment source dialect).toList)

/-- A text with enough spaces in front to fill five columns. -/
def padLeft (text : List Char) : List Char :=
  List.replicate (5 - text.length) ' ' ++ text

/-- A row as it is printed; lines that are not the user's have a blank second number. -/
def ListingRow.render (row : ListingRow) : String :=
  String.ofList (padLeft (Decimal.digitText row.driverLine) ++ ' ' ::
    padLeft ((row.userLine.map Decimal.digitText).getD [])) ++ " | " ++ row.text ++ "\n"

/-- The printed listing of a source. -/
def renderListing (source : String) (dialect : Dialect) : String :=
  String.join ((listing source dialect).map ListingRow.render)

end LiveShader

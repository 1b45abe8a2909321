import LiveShader.Decimal.Layout
import LiveShader.Document.Value
import LiveShader.Text.Literal

/-!
# Values that do not fit

A document may be well formed and still not say what a program expects. A misfit tells what was
found and what was expected. The two notations differ in how they write numbers and the missing
value, so the words for a found value depend on the notation it came from.
-/
namespace LiveShader.Document

/-- The notation a document was written in. -/
inductive Format where
  | json
  | toml
  deriving DecidableEq

/-- A word of a document between backticks. -/
def ticked (word : String) : String := "\x60" ++ word ++ "\x60"

/-- The words for a found value. -/
def Value.describe (format : Format) : Value → String
  | .null => "null"
  | .boolean value => "boolean " ++ ticked (if value then "true" else "false")
  | .integer value => "integer " ++ ticked (String.ofList (Decimal.integerText value))
  | .float value =>
    let layout := match format with
      | .json => Decimal.Layout.documentDouble
      | .toml => Decimal.Layout.plainFraction
    "floating point " ++ ticked (layout.double value)
  | .text value => "string " ++ Text.literal value
  | .list _ | .tables _ => "sequence"
  | .moment _ | .table _ => "map"

/-- Why a value does not fit. -/
inductive Misfit where
  /-- The value is of another kind. -/
  | wrongType (found expected : String)
  /-- The value is of the right kind but out of range. -/
  | wrongValue (found expected : String)
  /-- A list has too few or too many items. -/
  | wrongLength (length : Nat) (expected : String)
  | missingField (name : String)
  | unknownVariant (name : String) (variants : List String)
  /-- Any other fault, in its own words. -/
  | custom (text : String)
  /-- A length of time is too long to be held. Whoever reads it cannot go on. -/
  | overflow
  deriving DecidableEq

/-- The words for a misfit. -/
def Misfit.message : Misfit → String
  | .wrongType found expected => "invalid type: " ++ found ++ ", expected " ++ expected
  | .wrongValue found expected => "invalid value: " ++ found ++ ", expected " ++ expected
  | .wrongLength length expected =>
    "invalid length " ++ toString length ++ ", expected " ++ expected
  | .missingField name => "missing field " ++ ticked name
  | .unknownVariant name variants =>
    "unknown variant " ++ ticked name ++ ", expected one of " ++
      String.intercalate ", " (variants.map ticked)
  | .custom text => text
  | .overflow => "the length of time is too long"

end LiveShader.Document

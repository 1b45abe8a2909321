import LiveShader.Decimal.Read
import LiveShader.Document.Misfit

/-!
# Reading values

Readers for the simple values, for records whose fields may come in any order, and for choices
among named variants. A record's fields are read in the order in which the document gives them,
so the first misfit of the document is the one reported. Unknown fields are passed over.
-/
namespace LiveShader.Document

/-- A reader's result. -/
abbrev Decoded (α : Type) := Except Misfit α

/-- A misfit of kind. -/
def mismatch {α : Type} (format : Format) (found : Value) (expected : String) : Decoded α :=
  .error (.wrongType (found.describe format) expected)

/-- Reads a natural number below a limit. -/
def readNatural (format : Format) (limit : Nat) (expected : String) : Value → Decoded Nat
  | .integer n =>
    if 0 ≤ n ∧ n < limit then .ok n.toNat
    else .error (.wrongValue ((Value.integer n).describe format) expected)
  | found => mismatch format found expected

/-- Reads a number as the nearest 32-bit value. -/
def readSingle (format : Format) : Value → Decoded Float32
  | .integer n => .ok (Decimal.singleOf (n < 0) ⟨n.natAbs, 0⟩)
  | .float x => .ok x.toFloat32
  | found => mismatch format found "f32"

/-- Reads a string. -/
def readText (format : Format) : Value → Decoded String
  | .text text => .ok text
  | found => mismatch format found "a string"

/-- Reads a truth value. -/
def readBoolean (format : Format) : Value → Decoded Bool
  | .boolean value => .ok value
  | found => mismatch format found "a boolean"

/-- The key under which a date or time stands where a table is expected. -/
def momentKey : String := "$__toml_private_datetime"

/-- The entries of a table. A date or time counts as a table with one entry of its own. -/
def Value.entries? : Value → Option (List (String × Value))
  | .table entries => some entries
  | .moment written => some [(momentKey, .text written)]
  | _ => none

/-- Reads entries one after the other into a record. -/
def readEntries {Record : Type} (step : String → Value → Record → Decoded Record) :
    List (String × Value) → Record → Decoded Record
  | [], record => .ok record
  | (name, value) :: rest, record =>
    match step name value record with
    | .error misfit => .error misfit
    | .ok record => readEntries step rest record

/-- Reads a record from a table by name or from a list by position. JSON refuses items beyond the
last field. -/
def readRecord {Record : Type} (format : Format) (expected : String) (fields : List String)
    (step : String → Value → Record → Decoded Record) (initial : Record) (value : Value) :
    Decoded Record :=
  match value.entries?, value.items? with
  | some entries, _ => readEntries step entries initial
  | none, some items =>
    match readEntries step (fields.zip items) initial with
    | .error misfit => .error misfit
    | .ok record =>
      if format = .json ∧ fields.length < items.length then
        .error (.wrongLength items.length "fewer elements in array")
      else .ok record
  | none, none => mismatch format value expected

/-- The field of a record, or the misfit of its absence. -/
def requireField {α : Type} (name : String) : Option α → Decoded α
  | some value => .ok value
  | none => .error (.missingField name)

/-- The variant of a name. -/
def variantNamed {α : Type} (variants : List (String × α)) (name : String) : Decoded α :=
  match variants.lookup name with
  | some variant => .ok variant
  | none => .error (.unknownVariant name (variants.map (·.1)))

/-- The word for what stands where a table should. -/
def Value.kindWord : Value → String
  | .null => "none"
  | .boolean _ => "boolean"
  | .integer _ => "integer"
  | .float _ => "float"
  | .text _ => "string"
  | .moment _ => "datetime"
  | .list _ => "array"
  | .tables _ => "array of tables"
  | .table _ => "table"

/-- Reads what stands behind the name of a variant that carries nothing. In TOML that is a table or
a list without content. A list between brackets that has content is told off like a table; only
tables under headers of their own are called an array. -/
def readNothing (format : Format) : Value → Decoded Unit
  | found =>
    match format, found with
    | .json, .null => .ok ()
    | .json, found => mismatch format found "unit"
    | .toml, .list [] => .ok ()
    | .toml, .tables [] => .ok ()
    | .toml, .tables _ => .error (.custom "expected empty array")
    | .toml, .table [] => .ok ()
    | .toml, .list _ | .toml, .table _ => .error (.custom "expected empty table")
    | .toml, found => .error (.custom ("expected table, found " ++ found.kindWord))

/-- Reads a choice among variants that carry nothing: the name of one, or a table whose only entry
has that name. -/
def readVariant {α : Type} (format : Format) (variants : List (String × α)) (value : Value) :
    Decoded α :=
  match format, value with
  | _, .text name => variantNamed variants name
  | _, .table [(name, content)] =>
    match variantNamed variants name with
    | .error misfit => .error misfit
    | .ok variant => (readNothing format content).map fun _ => variant
  | .json, .table _ => .error (.wrongValue "map" "map with a single key")
  | .json, found => mismatch format found "string or map"
  | .toml, .table [] => .error (.custom "wanted exactly 1 element, found 0 elements")
  | .toml, .table _ => .error (.custom "wanted exactly 1 element, more than 1 element")
  | .toml, _ => .error (.custom "wanted string or table")

end LiveShader.Document

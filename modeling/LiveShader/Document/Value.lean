/-!
# Document values

The values that both document notations can hold. A table keeps its entries in the order in which
they were written.
-/
namespace LiveShader.Document

/-- A value of a document. -/
inductive Value where
  | null
  | boolean (value : Bool)
  | integer (value : Int)
  | float (value : Float)
  | text (value : String)
  /-- A date, a time or both, as written. -/
  | moment (value : String)
  /-- A list written between brackets. -/
  | list (items : List Value)
  /-- A list of tables that were opened one by one, each under a header of its own. -/
  | tables (rows : List (List (String × Value)))
  | table (entries : List (String × Value))

/-- The items of a list, however it was written. -/
def Value.items? : Value → Option (List Value)
  | .list items => some items
  | .tables rows => some (rows.map Value.table)
  | _ => none

/-- The value of the last entry of the name. -/
def entry? (name : String) (entries : List (String × Value)) : Option Value :=
  entries.foldl (fun found (other, value) => if other = name then some value else found) none

/-- The value a table holds for a name; other values hold none. -/
def Value.field? (value : Value) (name : String) : Option Value :=
  match value with
  | .table entries => entry? name entries
  | _ => none

end LiveShader.Document

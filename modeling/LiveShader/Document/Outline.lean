import LiveShader.Text.Hexadecimal

/-!
# Printing documents

A document whose scalars are already written, and its two printed forms: on one line, and indented
by two columns per level with one entry on a line.
-/
namespace LiveShader.Document

/-- A document to be printed. -/
inductive Outline where
  | scalar (text : String)
  | list (items : List Outline)
  | table (entries : List (String × Outline))

/-- A character as it stands in a quoted string. -/
def escapeChar (c : Char) : List Char :=
  if c = '"' then ['\\', '"']
  else if c = '\\' then ['\\', '\\']
  else if c = '\n' then ['\\', 'n']
  else if c = '\r' then ['\\', 'r']
  else if c = '\t' then ['\\', 't']
  else if c = '\x08' then ['\\', 'b']
  else if c = '\x0c' then ['\\', 'f']
  else if c.toNat < 0x20 then ['\\', 'u'] ++ Text.hexDigits 4 c.toNat
  else [c]

/-- A string in quotes. -/
def quote (text : String) : String :=
  String.ofList ('"' :: (text.toList.flatMap escapeChar ++ ['"']))

/-- The start of a line of the given depth. -/
def newLine (depth : Nat) : String := String.ofList ('\n' :: List.replicate (2 * depth) ' ')

namespace Outline

/-- A quoted string. -/
def text (value : String) : Outline := .scalar (quote value)

/-- A truth value. -/
def boolean (value : Bool) : Outline := .scalar (if value then "true" else "false")

/-- An integer. -/
def integer (value : Int) : Outline := .scalar (toString value)

/-- A natural number. -/
def natural (value : Nat) : Outline := .scalar (toString value)

/-- The missing value. -/
def null : Outline := .scalar "null"

mutual

/-- A document on one line. -/
def compact : Outline → String
  | .scalar text => text
  | .list items => "[" ++ String.intercalate "," (compactItems items) ++ "]"
  | .table entries => "\x7b" ++ String.intercalate "," (compactEntries entries) ++ "\x7d"

/-- The items of a list on one line. -/
def compactItems : List Outline → List String
  | [] => []
  | item :: rest => item.compact :: compactItems rest

/-- The entries of a table on one line. -/
def compactEntries : List (String × Outline) → List String
  | [] => []
  | (name, value) :: rest => (quote name ++ ":" ++ value.compact) :: compactEntries rest

end

mutual

/-- A document over several lines, whose first line has the given depth. -/
def indented (depth : Nat) : Outline → String
  | .scalar text => text
  | .list [] => "[]"
  | .list (item :: rest) =>
    "[" ++ String.intercalate "," (indentedItems (depth + 1) (item :: rest)) ++ newLine depth ++ "]"
  | .table [] => "\x7b\x7d"
  | .table (entry :: rest) =>
    "\x7b" ++ String.intercalate "," (indentedEntries (depth + 1) (entry :: rest)) ++
      newLine depth ++ "\x7d"

/-- The items of a list, each on lines of its own. -/
def indentedItems (depth : Nat) : List Outline → List String
  | [] => []
  | item :: rest => (newLine depth ++ item.indented depth) :: indentedItems depth rest

/-- The entries of a table, each on lines of its own. -/
def indentedEntries (depth : Nat) : List (String × Outline) → List String
  | [] => []
  | (name, value) :: rest =>
    (newLine depth ++ quote name ++ ": " ++ value.indented depth) :: indentedEntries depth rest

end

end Outline

end LiveShader.Document

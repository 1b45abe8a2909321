import LiveShader.Document.Toml.Layout
import LiveShader.Document.Toml.Token

/-!
# Reading TOML

A reader for whole documents. A document is a sequence of lines: entries, which go into the section
that is open, and headers, which close the open section and open another. The length of the text
bounds the number of steps, and arrays and inline tables may be nested less than eighty deep.
-/
namespace LiveShader.Document.Toml

/-- The depth at which nested values and dotted keys are refused. -/
def depthLimit : Nat := 80

mutual

/-- One value, and what follows it. The first argument bounds the steps, the second is the depth of
the value. -/
def readValue? : Nat → Nat → List Char → Option (Value × List Char)
  | 0, _, _ => none
  | bound + 1, depth, text =>
    match text with
    | '[' :: rest =>
      if depth + 1 < depthLimit then do
        let (items, rest) ← readItems? bound (depth + 1) rest
        some (.list items, rest)
      else none
    | '\x7b' :: rest =>
      if depth + 1 < depthLimit then do
        let (entries, rest) ← readInline? bound (depth + 1) rest
        some (.table (Section.values entries), rest)
      else none
    | _ => readScalar? text

/-- The items of an array behind its opening bracket. Blanks, comments and line ends may stand
between them, and a comma behind the last. -/
def readItems? : Nat → Nat → List Char → Option (List Value × List Char)
  | 0, _, _ => none
  | bound + 1, depth, text => do
    match ← skipLayout? text with
    | ']' :: rest => some ([], rest)
    | start => do
      let (item, rest) ← readValue? bound depth start
      match ← skipLayout? rest with
      | ']' :: rest => some ([item], rest)
      | ',' :: rest => do
        let (items, rest) ← readItems? bound depth rest
        some (item :: items, rest)
      | _ => none

/-- The entries of an inline table behind its opening brace. -/
def readInline? : Nat → Nat → List Char → Option (List (String × Node) × List Char)
  | 0, _, _ => none
  | bound + 1, depth, text =>
    match skipSpaces text with
    | '\x7d' :: rest => some ([], rest)
    | start => readInlineFrom? bound depth [] start

/-- The entries of an inline table from an entry on, after `before`. -/
def readInlineFrom? : Nat → Nat → List (String × Node) → List Char →
    Option (List (String × Node) × List Char)
  | 0, _, _, _ => none
  | bound + 1, depth, before, text => do
    let (path, rest) ← readKey? text
    match rest with
    | '=' :: rest => do
      let (value, rest) ← readValue? bound depth (skipSpaces rest)
      let entries ← Section.addEntry? path value before
      match skipSpaces rest with
      | ',' :: rest => readInlineFrom? bound depth entries rest
      | '\x7d' :: rest => some (entries, rest)
      | _ => none
    | _ => none

end

/-- Reads one entry of a document, to the end of its line. -/
def readEntry? (text : List Char) : Option (List String × Value × List Char) := do
  let (path, rest) ← readKey? text
  match rest with
  | '=' :: rest => do
    let (value, rest) ← readValue? (2 * rest.length + 2) 0 (skipSpaces rest)
    let rest ← endLine? rest
    some (path, value, rest)
  | _ => none

/-- Reads the rest of a document. The first argument bounds the lines. -/
def readLines? : Nat → Layout → List Char → Option Layout
  | 0, _, _ => none
  | bound + 1, layout, text =>
    match skipSpaces text with
    | [] => some layout
    | '#' :: rest => do
      let rest ← endComment? rest
      readLines? bound layout rest
    | '\n' :: rest => readLines? bound layout rest
    | '\r' :: '\n' :: rest => readLines? bound layout rest
    | '[' :: '[' :: rest => do
      let (path, rest) ← readKey? rest
      match rest with
      | ']' :: ']' :: rest => do
        let rest ← endLine? rest
        let layout ← layout.openItem? path
        readLines? bound layout rest
      | _ => none
    | '[' :: rest => do
      let (path, rest) ← readKey? rest
      match rest with
      | ']' :: rest => do
        let rest ← endLine? rest
        let layout ← layout.openSection? path
        readLines? bound layout rest
      | _ => none
    | start => do
      let (path, value, rest) ← readEntry? start
      let layout ← layout.addEntry? path value
      readLines? bound layout rest

/-- The table that a document holds. A byte order mark may stand in front. -/
def read? (text : String) : Option Value :=
  let chars := match text.toList with
    | '\uFEFF' :: rest => rest
    | chars => chars
  (readLines? (chars.length + 1) Layout.empty chars).bind fun layout =>
    (layout.close?).map fun entries => .table (Section.values entries)

end LiveShader.Document.Toml

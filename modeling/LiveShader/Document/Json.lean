import LiveShader.Decimal.Read
import LiveShader.Document.Value
import LiveShader.Word

/-!
# Reading JSON

A reader for one value in JSON. Whole numbers that 64 bits can hold, signed or unsigned, stay
integers; all other numbers, and a zero with a sign, are floats. Every reading step consumes
characters, so the length of the text bounds the depth and the number of the steps.
-/
namespace LiveShader.Document.Json

/-- Drops the blanks JSON allows between its tokens. -/
def skipBlanks (text : List Char) : List Char :=
  text.dropWhile fun c => c == ' ' || c == '\n' || c == '\t' || c == '\r'

/-- The value of a hexadecimal digit. -/
def hexValue? (c : Char) : Option Nat :=
  if '0' ≤ c ∧ c ≤ '9' then some (c.toNat - '0'.toNat)
  else if 'a' ≤ c ∧ c ≤ 'f' then some (c.toNat - 'a'.toNat + 10)
  else if 'A' ≤ c ∧ c ≤ 'F' then some (c.toNat - 'A'.toNat + 10)
  else none

/-- Four hexadecimal digits, and what follows them. -/
def readHex4? : List Char → Option (Nat × List Char)
  | a :: b :: c :: d :: rest => do
    let a ← hexValue? a
    let b ← hexValue? b
    let c ← hexValue? c
    let d ← hexValue? d
    some (((a * 16 + b) * 16 + c) * 16 + d, rest)
  | _ => none

/-- The character of a code unit and, if the unit is the first half of a pair, of the escaped unit
that follows. A half without its other half stands for no character. -/
def readUnit? (text : List Char) : Option (Char × List Char) := do
  let (unit, rest) ← readHex4? text
  if unit < 0xD800 ∨ 0xDFFF < unit then some (Char.ofNat unit, rest)
  else if 0xDC00 ≤ unit then none
  else
    match rest with
    | '\\' :: 'u' :: rest => do
      let (second, rest) ← readHex4? rest
      if 0xDC00 ≤ second ∧ second ≤ 0xDFFF then
        some (Char.ofNat (0x10000 + (unit - 0xD800) * 0x400 + (second - 0xDC00)), rest)
      else none
    | _ => none

/-- The rest of a string behind its opening quote. -/
def readString? : Nat → List Char → List Char → Option (String × List Char)
  | 0, _, _ => none
  | bound + 1, read, text =>
    match text with
    | [] => none
    | '"' :: rest => some (String.ofList read.reverse, rest)
    | '\\' :: mark :: rest =>
      match mark with
      | '"' => readString? bound ('"' :: read) rest
      | '\\' => readString? bound ('\\' :: read) rest
      | '/' => readString? bound ('/' :: read) rest
      | 'b' => readString? bound ('\x08' :: read) rest
      | 'f' => readString? bound ('\x0c' :: read) rest
      | 'n' => readString? bound ('\n' :: read) rest
      | 'r' => readString? bound ('\r' :: read) rest
      | 't' => readString? bound ('\t' :: read) rest
      | 'u' =>
        match readUnit? rest with
        | some (c, rest) => readString? bound (c :: read) rest
        | none => none
      | _ => none
    | c :: rest => if c.toNat < 0x20 then none else readString? bound (c :: read) rest

/-- The value a number's text stands for. -/
def numberValue? (text : List Char) : Option Value :=
  let (negative, digits) := Decimal.takeSign text
  if digits.all Char.isDigit then
    let size := Decimal.readDigits 0 digits
    if negative then
      if size = 0 ∨ wordLimit 63 < size then some (.float (Decimal.doubleOf true ⟨size, 0⟩))
      else some (.integer (-(size : Int)))
    else if wordLimit 64 ≤ size then some (.float (Decimal.doubleOf false ⟨size, 0⟩))
    else some (.integer size)
  else (Decimal.readScientific? digits).map fun number => .float (Decimal.doubleOf negative number)

/-- Whether a character may stand in a number. -/
def isNumberChar (c : Char) : Bool :=
  c.isDigit || c == '-' || c == '+' || c == '.' || c == 'e' || c == 'E'

mutual

/-- One value, and what follows it. -/
def readValue? : Nat → List Char → Option (Value × List Char)
  | 0, _ => none
  | bound + 1, text =>
    match skipBlanks text with
    | 'n' :: 'u' :: 'l' :: 'l' :: rest => some (.null, rest)
    | 't' :: 'r' :: 'u' :: 'e' :: rest => some (.boolean true, rest)
    | 'f' :: 'a' :: 'l' :: 's' :: 'e' :: rest => some (.boolean false, rest)
    | '"' :: rest => (readString? rest.length [] rest).map fun (read, rest) => (.text read, rest)
    | '[' :: rest =>
      match skipBlanks rest with
      | ']' :: rest => some (.list [], rest)
      | rest => (readItems? bound rest).map fun (items, rest) => (.list items, rest)
    | '\x7b' :: rest =>
      match skipBlanks rest with
      | '\x7d' :: rest => some (.table [], rest)
      | rest => (readEntries? bound rest).map fun (entries, rest) => (.table entries, rest)
    | rest =>
      (numberValue? (rest.takeWhile isNumberChar)).map fun value =>
        (value, rest.dropWhile isNumberChar)

/-- The items of a list up to its closing bracket. -/
def readItems? : Nat → List Char → Option (List Value × List Char)
  | 0, _ => none
  | bound + 1, text => do
    let (item, rest) ← readValue? bound text
    match skipBlanks rest with
    | ',' :: rest => do
      let (items, rest) ← readItems? bound rest
      some (item :: items, rest)
    | ']' :: rest => some ([item], rest)
    | _ => none

/-- The entries of a table up to its closing brace. -/
def readEntries? : Nat → List Char → Option (List (String × Value) × List Char)
  | 0, _ => none
  | bound + 1, text =>
    match skipBlanks text with
    | '"' :: rest => do
      let (name, rest) ← readString? rest.length [] rest
      match skipBlanks rest with
      | ':' :: rest => do
        let (value, rest) ← readValue? bound rest
        match skipBlanks rest with
        | ',' :: rest => do
          let (entries, rest) ← readEntries? bound rest
          some ((name, value) :: entries, rest)
        | '\x7d' :: rest => some ([(name, value)], rest)
        | _ => none
      | _ => none
    | _ => none

end

/-- The value that a text holds, with nothing but blanks around it. -/
def read? (text : String) : Option Value :=
  let chars := text.toList
  match readValue? (2 * chars.length + 2) chars with
  | some (value, rest) => if (skipBlanks rest).isEmpty then some value else none
  | none => none

end LiveShader.Document.Json

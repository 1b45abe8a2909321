import LiveShader.Decimal.Read
import LiveShader.Document.Json
import LiveShader.Document.Value
import LiveShader.Word

/-!
# Tokens of TOML

Blanks, comments and line ends, keys, and the values that hold no other values: strings of four
kinds, numbers, dates and times, and truth values.
-/
namespace LiveShader.Document.Toml

/-- Drops spaces and tabs. -/
def skipSpaces (text : List Char) : List Char :=
  text.dropWhile fun c => c == ' ' || c == '\t'

/-- Whether a character is a control that text may not hold. Tabs are allowed. -/
def isForbidden (c : Char) : Bool :=
  (c.toNat < 0x20 && c != '\t') || c.toNat == 0x7F

/-- What follows a line end; the end of the text counts as one. -/
def endOfLine? : List Char → Option (List Char)
  | [] => some []
  | '\n' :: rest => some rest
  | '\r' :: '\n' :: rest => some rest
  | _ => none

/-- What follows a comment, behind its mark, and the line end behind it. -/
def endComment? (text : List Char) : Option (List Char) :=
  endOfLine? (text.dropWhile fun c => !isForbidden c)

/-- What follows blanks, an optional comment and a line end. -/
def endLine? (text : List Char) : Option (List Char) :=
  match skipSpaces text with
  | '#' :: rest => endComment? rest
  | rest => endOfLine? rest

/-- Drops blanks, comments and line ends. The first argument bounds the steps. A comment needs a
line end. -/
def skipLayoutFrom? : Nat → List Char → Option (List Char)
  | 0, text => some text
  | bound + 1, text =>
    match skipSpaces text with
    | '\n' :: rest => skipLayoutFrom? bound rest
    | '\r' :: '\n' :: rest => skipLayoutFrom? bound rest
    | '#' :: rest =>
      match rest.dropWhile fun c => !isForbidden c with
      | '\n' :: rest => skipLayoutFrom? bound rest
      | '\r' :: '\n' :: rest => skipLayoutFrom? bound rest
      | _ => none
    | rest => some rest

/-- Drops all blanks, comments and line ends. -/
def skipLayout? (text : List Char) : Option (List Char) := skipLayoutFrom? text.length text

/-- So many hexadecimal digits as a number, after `before`. -/
def readHex? : Nat → Nat → List Char → Option (Nat × List Char)
  | 0, before, rest => some (before, rest)
  | _ + 1, _, [] => none
  | count + 1, before, c :: rest =>
    match Json.hexValue? c with
    | some digit => readHex? count (16 * before + digit) rest
    | none => none

/-- The character of a code point. -/
def charOf? (code : Nat) : Option Char :=
  if code < 0xD800 ∨ (0xDFFF < code ∧ code < 0x110000) then some (Char.ofNat code) else none

/-- The character of an escape, behind the backslash. -/
def readEscape? : List Char → Option (Char × List Char)
  | 'b' :: rest => some ('\x08', rest)
  | 'f' :: rest => some ('\x0c', rest)
  | 'n' :: rest => some ('\n', rest)
  | 'r' :: rest => some ('\r', rest)
  | 't' :: rest => some ('\t', rest)
  | '\\' :: rest => some ('\\', rest)
  | '"' :: rest => some ('"', rest)
  | 'u' :: rest => do
    let (code, rest) ← readHex? 4 0 rest
    let c ← charOf? code
    some (c, rest)
  | 'U' :: rest => do
    let (code, rest) ← readHex? 8 0 rest
    let c ← charOf? code
    some (c, rest)
  | _ => none

/-- The rest of a string in double quotes, after `read` in reverse. -/
def readBasic? : Nat → List Char → List Char → Option (String × List Char)
  | 0, _, _ => none
  | bound + 1, read, text =>
    match text with
    | '"' :: rest => some (String.ofList read.reverse, rest)
    | '\\' :: rest =>
      match readEscape? rest with
      | some (c, rest) => readBasic? bound (c :: read) rest
      | none => none
    | c :: rest => if isForbidden c then none else readBasic? bound (c :: read) rest
    | [] => none

/-- The rest of a string in single quotes. -/
def readLiteral? (text : List Char) : Option (String × List Char) :=
  let body := text.takeWhile fun c => !isForbidden c && c != '\''
  match text.drop body.length with
  | '\'' :: rest => some (String.ofList body, rest)
  | _ => none

/-- Drops a line end, if there is one. -/
def dropLineEnd : List Char → List Char
  | '\n' :: rest => rest
  | '\r' :: '\n' :: rest => rest
  | rest => rest

/-- Drops blanks and line ends. The first argument bounds the steps. -/
def skipEmptyLines : Nat → List Char → List Char
  | 0, text => text
  | bound + 1, text =>
    match skipSpaces text with
    | '\n' :: rest => skipEmptyLines bound rest
    | '\r' :: '\n' :: rest => skipEmptyLines bound rest
    | rest => rest

/-- What follows a backslash at the end of a line: the line end and all blanks behind it. -/
def joinLine? (text : List Char) : Option (List Char) :=
  match skipSpaces text with
  | '\n' :: rest => some (skipEmptyLines rest.length rest)
  | '\r' :: '\n' :: rest => some (skipEmptyLines rest.length rest)
  | _ => none

/-- The end of a string in three quotes at a run of quotes: up to two of them belong to the string,
and three close it. -/
def closeMultiline? (quote : Char) (read text : List Char) : Option (String × List Char) :=
  let run := (text.takeWhile (· == quote)).length
  if run < 3 then none
  else
    let inner := min (run - 3) 2
    some (String.ofList (read.reverse ++ List.replicate inner quote), text.drop (inner + 3))

/-- The rest of a string in three quotes, after `read` in reverse. In double quotes a backslash
starts an escape or joins lines. -/
def readMultiline? (quote : Char) : Nat → List Char → List Char → Option (String × List Char)
  | 0, _, _ => none
  | bound + 1, read, text =>
    match text with
    | [] => none
    | '\n' :: rest => readMultiline? quote bound ('\n' :: read) rest
    | '\r' :: '\n' :: rest => readMultiline? quote bound ('\n' :: read) rest
    | c :: rest =>
      if c = quote then
        match closeMultiline? quote read text with
        | some closed => some closed
        | none => readMultiline? quote bound (c :: read) rest
      else if c = '\\' ∧ quote = '"' then
        match joinLine? rest with
        | some rest => readMultiline? quote bound read rest
        | none =>
          match readEscape? rest with
          | some (c, rest) => readMultiline? quote bound (c :: read) rest
          | none => none
      else if isForbidden c then none
      else readMultiline? quote bound (c :: read) rest

/-- Whether a character may stand in a key without quotes. -/
def isBareKeyChar (c : Char) : Bool :=
  c.isAlphanum || c == '-' || c == '_'

/-- One part of a key. -/
def readSimpleKey? (text : List Char) : Option (String × List Char) :=
  match text with
  | '"' :: rest => readBasic? text.length [] rest
  | '\'' :: rest => readLiteral? rest
  | _ =>
    match text.takeWhile isBareKeyChar with
    | [] => none
    | key => some (String.ofList key, text.drop key.length)

/-- The parts of a key, with blanks around each. The first argument bounds their number. -/
def readKeyParts? : Nat → List Char → Option (List String × List Char)
  | 0, _ => none
  | bound + 1, text => do
    let (part, rest) ← readSimpleKey? (skipSpaces text)
    match skipSpaces rest with
    | '.' :: rest => do
      let (parts, rest) ← readKeyParts? bound rest
      some (part :: parts, rest)
    | rest => some ([part], rest)

/-- A key of fewer than eighty parts. -/
def readKey? (text : List Char) : Option (List String × List Char) := readKeyParts? 79 text

/-- So many decimal digits as a number. -/
def readFixed? (count : Nat) (text : List Char) : Option (Nat × List Char) :=
  let digits := text.take count
  if digits.length = count ∧ digits.all Char.isDigit then
    some (Decimal.readDigits 0 digits, text.drop count)
  else none

/-- The number of days in a month. -/
def daysIn (year month : Nat) : Nat :=
  if month = 2 then if year % 4 = 0 ∧ (year % 100 ≠ 0 ∨ year % 400 = 0) then 29 else 28
  else if month = 4 ∨ month = 6 ∨ month = 9 ∨ month = 11 then 30
  else 31

/-- What follows a date behind its year and the first dash. -/
def readMonthDay? (year : Nat) (text : List Char) : Option (List Char) := do
  let (month, rest) ← readFixed? 2 text
  match rest with
  | '-' :: rest => do
    let (day, rest) ← readFixed? 2 rest
    if 1 ≤ month ∧ month ≤ 12 ∧ 1 ≤ day ∧ day ≤ daysIn year month then some rest else none
  | _ => none

/-- Whether a text starts with an hour and a colon. -/
def startsTime (text : List Char) : Bool :=
  match readFixed? 2 text with
  | some (_, ':' :: _) => true
  | _ => false

/-- What follows a time of day. -/
def readTime? (text : List Char) : Option (List Char) := do
  let (hour, rest) ← readFixed? 2 text
  let (minute, rest) ← readFixed? 2 (rest.drop 1)
  match rest with
  | ':' :: rest => do
    let (second, rest) ← readFixed? 2 rest
    if 23 < hour ∨ 59 < minute ∨ 60 < second then none
    else
      match rest with
      | '.' :: rest =>
        if (rest.takeWhile Char.isDigit).isEmpty then none else some (rest.dropWhile Char.isDigit)
      | rest => some rest
  | _ => none

/-- What follows an optional distance from universal time. -/
def readOffset? (text : List Char) : Option (List Char) :=
  match text with
  | c :: rest =>
    if c = 'Z' ∨ c = 'z' then some rest
    else if c = '+' ∨ c = '-' then do
      let (hour, rest) ← readFixed? 2 rest
      match rest with
      | ':' :: rest => do
        let (minute, rest) ← readFixed? 2 rest
        if 23 < hour ∨ 59 < minute then none else some rest
      | _ => none
    else some text
  | [] => some []

/-- What follows a date with an optional time and distance, behind the first dash. -/
def readDate? (year : Nat) (text : List Char) : Option (List Char) := do
  let rest ← readMonthDay? year text
  match rest with
  | c :: time =>
    if (c = 'T' ∨ c = 't' ∨ c = ' ') ∧ startsTime time then do
      let rest ← readTime? time
      readOffset? rest
    else some rest
  | [] => some []

/-- Digits that may be parted by single underscores, between digits only. -/
def readParted? (isDigit : Char → Bool) : Nat → List Char → Option (List Char × List Char)
  | 0, _ => none
  | bound + 1, text =>
    match text with
    | c :: '_' :: rest =>
      if isDigit c then do
        let (digits, rest) ← readParted? isDigit bound rest
        some (c :: digits, rest)
      else none
    | c :: rest =>
      if !isDigit c then none
      else
        match rest with
        | next :: _ =>
          if isDigit next then do
            let (digits, rest) ← readParted? isDigit bound rest
            some (c :: digits, rest)
          else some ([c], rest)
        | [] => some ([c], [])
    | [] => none

/-- Parted digits of any number. -/
def readDigits? (isDigit : Char → Bool) (text : List Char) : Option (List Char × List Char) :=
  readParted? isDigit text.length text

/-- The whole part of a number: a zero that stands alone, or digits that start with no zero. -/
def readWhole? (text : List Char) : Option (List Char × List Char) :=
  match text with
  | '0' :: rest => some (['0'], rest)
  | _ => readDigits? Char.isDigit text

/-- An integer of 64 bits. -/
def integerValue? (negative : Bool) (size : Nat) : Option Value :=
  if negative then if size ≤ wordLimit 63 then some (.integer (-(size : Int))) else none
  else if size < wordLimit 63 then some (.integer size)
  else none

/-- A float; what is too large above is refused. -/
def floatValue? (negative : Bool) (number : Decimal.Scientific) : Option Value :=
  let value := Decimal.doubleOf negative number
  if value.isInf && !negative then none else some (.float value)

/-- The power of ten of a float behind its mark. -/
def readExponent? (text : List Char) : Option (Int × List Char) := do
  let (negative, digits) := Decimal.takeSign text
  let (digits, rest) ← readDigits? Char.isDigit digits
  let power : Int := (Decimal.readDigits 0 digits : Nat)
  some (if negative then -power else power, rest)

/-- A decimal number behind its sign: an integer, or a float with a fraction, a power or both. -/
def readDecimal? (negative : Bool) (text : List Char) : Option (Value × List Char) := do
  let (whole, rest) ← readWhole? text
  let finish (fraction : List Char) (power : Int) (rest : List Char) :
      Option (Value × List Char) :=
    (floatValue? negative (Decimal.Scientific.ofParts whole fraction power)).map fun value =>
      (value, rest)
  let powered (fraction rest : List Char) : Option (Value × List Char) :=
    match rest with
    | mark :: after =>
      if mark = 'e' ∨ mark = 'E' then do
        let (power, rest) ← readExponent? after
        finish fraction power rest
      else finish fraction 0 rest
    | [] => finish fraction 0 rest
  match rest with
  | '.' :: after => do
    let (fraction, rest) ← readDigits? Char.isDigit after
    powered fraction rest
  | 'e' :: _ | 'E' :: _ => powered [] rest
  | _ =>
    (integerValue? negative (Decimal.readDigits 0 whole)).map fun value => (value, rest)

/-- An integer of another base behind its mark. -/
def readBase? (base : Nat) (text : List Char) : Option (Value × List Char) := do
  let isDigit (c : Char) : Bool :=
    match Json.hexValue? c with
    | some digit => digit < base
    | none => false
  let (digits, rest) ← readDigits? isDigit text
  let size := digits.foldl (fun size c => base * size + (Json.hexValue? c).getD 0) 0
  let value ← integerValue? false size
  some (value, rest)

/-- A number with or without a sign. -/
def readNumber? (text : List Char) : Option (Value × List Char) :=
  let (negative, unsigned) := Decimal.takeSign text
  match unsigned with
  | 'i' :: 'n' :: 'f' :: rest =>
    some (.float (if negative then -1.0 / 0.0 else 1.0 / 0.0), rest)
  | 'n' :: 'a' :: 'n' :: rest => some (.float (0.0 / 0.0), rest)
  | _ =>
    match text with
    | '0' :: 'x' :: rest => readBase? 16 rest
    | '0' :: 'o' :: rest => readBase? 8 rest
    | '0' :: 'b' :: rest => readBase? 2 rest
    | _ => readDecimal? negative unsigned

/-- A value that holds no other values. Four digits and a dash start a date, two digits and a colon
a time. -/
def readScalar? (text : List Char) : Option (Value × List Char) :=
  match text with
  | '"' :: '"' :: '"' :: rest =>
    (readMultiline? '"' text.length [] (dropLineEnd rest)).map fun (read, rest) =>
      (.text read, rest)
  | '"' :: rest => (readBasic? text.length [] rest).map fun (read, rest) => (.text read, rest)
  | '\'' :: '\'' :: '\'' :: rest =>
    (readMultiline? '\'' text.length [] (dropLineEnd rest)).map fun (read, rest) =>
      (.text read, rest)
  | '\'' :: rest => (readLiteral? rest).map fun (read, rest) => (.text read, rest)
  | 't' :: 'r' :: 'u' :: 'e' :: rest => some (.boolean true, rest)
  | 'f' :: 'a' :: 'l' :: 's' :: 'e' :: rest => some (.boolean false, rest)
  | _ =>
    let moment (after : Option (List Char)) : Option (Value × List Char) :=
      after.map fun rest => (.moment (String.ofList (text.take (text.length - rest.length))), rest)
    match readFixed? 4 text with
    | some (year, '-' :: rest) => moment (readDate? year rest)
    | _ => if startsTime text then moment (readTime? text) else readNumber? text

end LiveShader.Document.Toml

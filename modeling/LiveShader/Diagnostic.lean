import LiveShader.Decimal.Layout
import LiveShader.Decimal.Read
import LiveShader.Text.Blank
import LiveShader.Text.Find
import LiveShader.Text.Numeral
import LiveShader.Word

/-!
# Diagnostics

Drivers report errors in lines of the wrapped source, in one of three notations:

* `ERROR: 0:12: message`, anywhere in the log;
* `0:12(5): error: message`, at the start of a line;
* `0(12) : error C1008: message`, at the start of a line.

The notations are tried in this order over the whole log, and of one notation the first place
counts. The line number less the header is the user's line; it is not clamped when the driver
blames the template. A log in no known notation, or with a line number beyond 64 bits, is kept
whole.
-/
namespace LiveShader

/-- What the user is told about a failed build. -/
inductive Diagnostic where
  /-- An error with a place in the user's source. -/
  | located (line : Int) (message : String)
  /-- A log that could not be read. -/
  | raw (text : String)
  deriving DecidableEq

namespace Diagnostic

open Text

/-- The user's line, where it is known. -/
def line? : Diagnostic → Option Int
  | .located line _ => some line
  | .raw _ => none

/-- The driver's words. -/
def message : Diagnostic → String
  | .located _ message => message
  | .raw text => text

/-- The diagnostic on one line. -/
def display : Diagnostic → String
  | .located line message =>
    "line " ++ String.ofList (Decimal.integerText line) ++ ": " ++ message
  | .raw text => String.ofList (trimEnd text.toList)

/-- A line number and a message found in a log. -/
structure Finding where
  number : List Char
  message : List Char

/-- At least one digit, and what follows the digits. -/
def takeNumber? (text : List Char) : Option (List Char × List Char) :=
  match text.takeWhile isDigit with
  | [] => none
  | digits => some (digits, text.dropWhile isDigit)

/-- The message that ends a notation: blanks, of which at least `least`, and then the rest of the
line. Blanks reach across newlines. When nothing but blanks is left, the last of them that is no
newline and that the required ones leave over is the message. -/
def takeMessage? (least : Nat) (text : List Char) : Option (List Char) :=
  let blanks := text.takeWhile isBlank
  if blanks.length < least then none
  else
    match text.dropWhile isBlank with
    | [] => ((blanks.drop least).filter (· ≠ '\n')).getLast?.map fun c => [c]
    | rest => some (rest.takeWhile (· ≠ '\n'))

/-- The notation `ERROR: 0:12: message` at the start of a text. -/
def readShouted? (text : List Char) : Option Finding := do
  let rest ← afterFront? "ERROR:".toList text
  let spaced := trimStart rest
  if spaced.length = rest.length then none
  else
    let (_, rest) ← takeNumber? spaced
    let rest ← afterFront? [':'] rest
    let (number, rest) ← takeNumber? rest
    let rest ← afterFront? [':'] rest
    let message ← takeMessage? 1 rest
    some ⟨number, message⟩

/-- The notation `0:12(5): error: message` at the start of a text, blanks in front allowed. -/
def readColumned? (text : List Char) : Option Finding := do
  let (_, rest) ← takeNumber? (trimStart text)
  let rest ← afterFront? [':'] rest
  let (number, rest) ← takeNumber? rest
  let rest ← afterFront? ['('] rest
  let (_, rest) ← takeNumber? rest
  let rest ← afterFront? [')', ':'] rest
  let rest ← afterFront? "error:".toList (trimStart rest)
  let message ← takeMessage? 0 rest
  some ⟨number, message⟩

/-- The notation `0(12) : error C1008: message` at the start of a text, blanks in front allowed. -/
def readCoded? (text : List Char) : Option Finding := do
  let (_, rest) ← takeNumber? (trimStart text)
  let rest ← afterFront? ['('] rest
  let (number, rest) ← takeNumber? rest
  let rest ← afterFront? [')'] rest
  let rest ← afterFront? [':'] (trimStart rest)
  let rest ← afterFront? "error".toList (trimStart rest)
  let rest ← afterFront? [':'] ((trimStart rest).dropWhile isWordChar)
  let message ← takeMessage? 0 rest
  some ⟨number, message⟩

/-- The first place of a text, from its start on, that a notation can be read at. -/
def findAnywhere? (read : List Char → Option Finding) : List Char → Option Finding
  | [] => read []
  | c :: rest =>
    match read (c :: rest) with
    | some finding => some finding
    | none => findAnywhere? read rest

/-- The first line start of a text that a notation can be read at. The flag says whether the text
starts a line. -/
def findAtLineStart? (read : List Char → Option Finding) : Bool → List Char → Option Finding
  | starts, [] => if starts then read [] else none
  | starts, c :: rest =>
    match if starts then read (c :: rest) else none with
    | some finding => some finding
    | none => findAtLineStart? read (c == '\n') rest

/-- The first finding of the first notation that the log holds. -/
def find? (log : List Char) : Option Finding :=
  match findAnywhere? readShouted? log with
  | some finding => some finding
  | none =>
    match findAtLineStart? readColumned? true log with
    | some finding => some finding
    | none => findAtLineStart? readCoded? true log

/-- A line number of at most 64 bits, sign included, in the digits of ASCII. -/
def lineNumber? (digits : List Char) : Option Nat :=
  if digits.all Char.isDigit then
    let number := Decimal.readDigits 0 digits
    if number < wordLimit 63 then some number else none
  else none

/-- The user's line for a line of the wrapped source. Lines are words of 64 bits with a sign, so a
header that needs the sign's bit wraps around. -/
def userLine (number header : Nat) : Int := Int.bmod (number - header) (wordLimit 64)

/-- Reads a driver's log. -/
def ofLog (log : String) (header : Nat) : Diagnostic :=
  match find? log.toList with
  | none => .raw log
  | some finding =>
    match lineNumber? finding.number with
    | none => .raw log
    | some number =>
      .located (userLine number header) (String.ofList (trimEnd finding.message))

end Diagnostic

end LiveShader

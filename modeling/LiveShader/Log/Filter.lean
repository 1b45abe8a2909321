import LiveShader.Session.Notice
import LiveShader.Text.Numeral

/-!
# Log filters

Which lines of the log are shown. A filter is a list of directives between commas. A directive
gives a level to lines: to all of them, or to those whose target starts with a text, or that have a
named field. Of several that apply to a line the one with the longest text decides, of those the
one with the greatest field, and of equal ones the last. A directive for spans applies to no line,
since lines stand in no span.
-/
namespace LiveShader

/-- What a directive applies to. -/
inductive FilterScope where
  /-- Lines whose target starts with a text and that have the field, if one is named. -/
  | lines (start : String) (field : Option String)
  /-- No line. -/
  | nothing
  deriving DecidableEq

/-- A directive: the number of levels shown, from the weightiest on, of what it applies to. -/
structure FilterDirective where
  scope : FilterScope
  levels : Nat
  deriving DecidableEq

/-- A filter of the log. -/
abbrev LogFilter := List FilterDirective

namespace LogFilter

/-- How many levels there are. -/
def allLevels : Nat := 5

/-- The words for numbers of levels. -/
def levelWords : List (String × Nat) :=
  [("off", 0), ("error", 1), ("warn", 2), ("info", 3), ("debug", 4), ("trace", allLevels)]

/-- The number of levels that a text stands for: a number, perhaps behind a plus, or a word in
letters of either case. -/
def readLevels? (text : List Char) : Option Nat :=
  let digits := match text with
    | '+' :: digits => digits
    | digits => digits
  if !digits.isEmpty && digits.all Char.isDigit then
    let number := Decimal.readDigits 0 digits
    if number ≤ allLevels then some number else none
  else levelWords.lookup (String.ofList (text.map Char.toLower))

/-- Whether a directive may start with a character. -/
def startsDirective (c : Char) : Bool :=
  Text.isAlphanumeric c || c == '-' || c == ':' || c == '_'

/-- Reads what stands behind the scope of a directive: nothing, an equals sign alone, or a level
behind one. -/
def readLevel? (scope : FilterScope) : List Char → Option FilterDirective
  | [] | ['='] => some ⟨scope, allLevels⟩
  | '=' :: level => (readLevels? level).map fun levels => ⟨scope, levels⟩
  | _ => none

/-- Reads a directive from behind the bracket that starts its span. A field may stand between
braces; without a span and without a value it is a field of lines. -/
def readSpan? (start : String) (text : List Char) : Option FilterDirective :=
  let plain (c : Char) : Bool := !(c == ']' || c == '\x7b')
  match text.dropWhile plain with
  | ']' :: rest => readLevel? .nothing rest
  | '\x7b' :: rest =>
    let field := rest.takeWhile (· != '\x7d')
    let ofLines := (text.takeWhile plain).isEmpty && !field.contains '='
    match rest.drop field.length with
    | '\x7d' :: ']' :: rest =>
      readLevel? (if ofLines then .lines start (some (String.ofList field)) else .nothing) rest
    | _ => none
  | _ => none

/-- Reads a directive without blanks around it. A word that is no level is a target of which
everything is shown. -/
def readBare? (text : List Char) : Option FilterDirective :=
  match text with
  | [] => none
  | '[' :: rest => readSpan? "" rest
  | first :: _ =>
    if !startsDirective first then none
    else
      let plain (c : Char) : Bool := !(c == '=' || c == '[')
      let word := text.takeWhile plain
      match text.drop word.length with
      | [] =>
        match readLevels? word with
        | some levels => some ⟨.lines "" none, levels⟩
        | none => some ⟨.lines (String.ofList word) none, allLevels⟩
      | '[' :: rest => readSpan? (String.ofList word) rest
      | level => readLevel? (.lines (String.ofList word) none) level

/-- Reads a directive. Blanks around it belong to its words, so that it applies to nothing, and no
level can be read. -/
def readDirective? (text : List Char) : Option FilterDirective :=
  let bare := Text.trim text
  if bare.length = text.length then readBare? bare
  else if bare.contains '=' then none
  else (readBare? bare).map fun directive => { directive with scope := .nothing }

/-- Reads a filter. The empty text shows nothing. -/
def read? (text : String) : Option LogFilter :=
  if text.isEmpty then some []
  else (Text.pieces (· == ',') text.toList).mapM readDirective?

/-- The filter of a user who asks for none, or for one that cannot be read. -/
def standard : LogFilter := [⟨.lines "" none, 3⟩]

/-- The filter that a variable of the environment asks for. -/
def ofSetting (setting : Option String) : LogFilter :=
  (setting.bind read?).getD standard

/-- Whether a line has a field. Its message counts as one. -/
def hasField (line : LogLine) (field : String) : Bool :=
  field == "message" || line.fields.any (·.1 == field)

/-- Whether a directive applies to a line. -/
def covers (scope : FilterScope) (line : LogLine) : Bool :=
  match scope with
  | .lines start field => line.target.startsWith start && field.all (hasField line)
  | .nothing => false

/-- Whether the second scope decides when both apply to a line. -/
def yieldsTo : FilterScope → FilterScope → Bool
  | .lines start field, .lines laterStart laterField =>
    start.utf8ByteSize < laterStart.utf8ByteSize ||
      (start.utf8ByteSize == laterStart.utf8ByteSize &&
        match field, laterField with
        | none, _ => true
        | some _, none => false
        | some field, some laterField => !decide (laterField < field))
  | _, _ => true

/-- The directive that decides about a line, given the one that decides so far. -/
def deciding? (line : LogLine) : Option FilterDirective → LogFilter → Option FilterDirective
  | best, [] => best
  | best, directive :: rest =>
    let wins := covers directive.scope line && best.all fun best =>
      yieldsTo best.scope directive.scope
    deciding? line (if wins then some directive else best) rest

/-- Whether a line is shown. -/
def shows (filter : LogFilter) (line : LogLine) : Bool :=
  (deciding? line none filter).any fun directive => line.level.rank < directive.levels

end LogFilter

end LiveShader

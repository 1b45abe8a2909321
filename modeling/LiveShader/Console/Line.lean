import LiveShader.Decimal.Read
import LiveShader.Session.Command
import LiveShader.Text.Blank
import LiveShader.Text.Find
import LiveShader.Word

/-!
# Console lines

One line of the console is one request: a verb and its arguments, with blanks between them.

```
set NAME[IDX] VALUE        incr NAME[IDX] DELTA
ease NAME[IDX] TARGET RATE
decay NAME[IDX] RATE       ramp NAME[IDX] SPEED
clear NAME[IDX]            get NAME[IDX]
dump                       reload          quit
```

The index is optional and names the first component when it is missing. Blank lines and lines that
start with `#` ask for nothing.
-/
namespace LiveShader.Console

open Text

/-- What a line asks for. -/
inductive Request where
  | uniform (command : Command)
  | reload
  | quit
  deriving DecidableEq

/-- What is wrong with a line. -/
inductive LineError where
  | unknownVerb (verb : String)
  | wrongArity (verb : String)
  | missingBracket (target : String)
  | invalidIndex (target : String)
  | emptyName
  | notANumber (word : String)
  | notFinite (word : String)
  | negativeRate (word : String)
  deriving DecidableEq

/-- The words for an error. -/
def LineError.message : LineError → String
  | .unknownVerb verb => "unknown command '" ++ verb ++ "'"
  | .wrongArity verb => "wrong number of arguments for '" ++ verb ++ "'"
  | .missingBracket target => "missing ']' in '" ++ target ++ "'"
  | .invalidIndex target => "invalid component index in '" ++ target ++ "'"
  | .emptyName => "uniform name must not be empty"
  | .notANumber word => "'" ++ word ++ "' is not a number"
  | .notFinite word => "'" ++ word ++ "' is not a finite number"
  | .negativeRate word => "rate must be non-negative, got " ++ word

/-- The verbs that take arguments or stand alone. -/
def verbs : List String :=
  ["dump", "reload", "quit", "exit", "set", "incr", "ease", "decay", "ramp", "clear", "get"]

/-- An index: digits, perhaps behind a plus, within 64 bits. -/
def readIndex? (text : List Char) : Option Nat :=
  let digits := match text with
    | '+' :: rest => rest
    | _ => text
  if digits.isEmpty || !digits.all Char.isDigit then none
  else
    let index := Decimal.readDigits 0 digits
    if index < wordLimit 64 then some index else none

/-- Splits `name[3]` into the name and the index; a bare name means component 0. -/
def readTarget (word : List Char) : Except LineError (String × Nat) := do
  let (name, index) ← match splitAtMark? '[' word with
    | none => pure (word, 0)
    | some (name, rest) =>
      match beforeBack? [']'] rest with
      | none => throw (.missingBracket (String.ofList word))
      | some digits =>
        match readIndex? digits with
        | none => throw (.invalidIndex (String.ofList word))
        | some index => pure (name, index)
  if name.isEmpty then throw .emptyName else pure (String.ofList name, index)

/-- Reads a finite number. -/
def readNumber (word : List Char) : Except LineError Float32 :=
  match Decimal.readTyped? word with
  | none => .error (.notANumber (String.ofList word))
  | some (.decimal negative number) =>
    if Decimal.BinaryFormat.single.ofScientific number
        = Decimal.BinaryFormat.single.infinityBits then
      .error (.notFinite (String.ofList word))
    else .ok (Decimal.singleOf negative number)
  | some _ => .error (.notFinite (String.ofList word))

/-- Reads a finite number that is not below zero. -/
def readRate (word : List Char) : Except LineError Float32 := do
  let rate ← readNumber word
  if rate < 0 then throw (.negativeRate (String.ofList word)) else pure rate

/-- The request to change the component a word names. -/
def changeTarget (target : List Char) (edit : Edit Formula) : Except LineError Request := do
  let (name, index) ← readTarget target
  pure (.uniform (.change name index edit))

/-- Reads a verb and its arguments. Of the faults of a line with a modifier the numbers' are
reported first, of other lines the target's. -/
def readWords (verb : String) (arguments : List (List Char)) : Except LineError Request :=
  match verb, arguments with
  | "dump", [] => .ok (.uniform .dump)
  | "reload", [] => .ok .reload
  | "quit", [] => .ok .quit
  | "exit", [] => .ok .quit
  | "set", [target, value] => do
    let (name, index) ← readTarget target
    let value ← readNumber value
    pure (.uniform (.change name index (.set value)))
  | "incr", [target, delta] => do
    let (name, index) ← readTarget target
    let delta ← readNumber delta
    pure (.uniform (.change name index (.increment delta)))
  | "ease", [target, goal, rate] => do
    let goal ← readNumber goal
    let rate ← readRate rate
    changeTarget target (.animate (.approach goal rate))
  | "decay", [target, rate] => do
    let rate ← readRate rate
    changeTarget target (.animate (.decay rate))
  | "ramp", [target, speed] => do
    let speed ← readNumber speed
    changeTarget target (.animate (.ramp speed))
  | "clear", [target] => changeTarget target .clear
  | "get", [target] => do
    let (name, index) ← readTarget target
    pure (.uniform (.get name index))
  | _, _ => .error (if verbs.contains verb then .wrongArity verb else .unknownVerb verb)

/-- Reads one line; lines that ask for nothing give none. -/
def readLine (line : String) : Except LineError (Option Request) :=
  match words line.toList with
  | [] => .ok none
  | verb :: arguments =>
    if verb.head? = some '#' then .ok none
    else (readWords (String.ofList verb) arguments).map some

end LiveShader.Console

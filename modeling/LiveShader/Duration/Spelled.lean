import LiveShader.Duration.Basic
import LiveShader.Text.Blank
import LiveShader.Text.Literal
import LiveShader.Word

/-!
# Durations in words

A spelled duration is a sequence of amounts, each a number with a unit behind it: `1h 30m`, `250ms`,
`1.5s`. Blanks may stand before and within numbers and between amounts. All arithmetic is exact:
a fraction that no whole number of the unit's parts expresses is refused. Faults name places by
their distance in bytes from the start.
-/
namespace LiveShader.Duration

/-- Why a text is no duration. -/
inductive Fault where
  | empty
  | numberExpected (offset : Nat)
  | invalidCharacter (offset : Nat)
  | unknownUnit (unit : String) (amount : Nat)
  /-- A number is too large for a word, or a fraction is too fine. -/
  | inexact
  /-- The sum is exact and just beyond the longest duration. -/
  | outOfRange
  deriving DecidableEq

/-- The words for a fault. -/
def Fault.message : Fault → String
  | .empty => "value was empty"
  | .numberExpected offset => s!"expected number at {offset}"
  | .invalidCharacter offset => s!"invalid character at {offset}"
  | .unknownUnit unit amount =>
    if unit.isEmpty then s!"time unit needed, for example {amount}sec or {amount}ms"
    else "unknown time unit " ++ Text.literal unit ++ ", supported units: ns, us/µs, ms, sec, " ++
      "min, hours, days, weeks, months, years (and few variations)"
  | .inexact => "number is too large or cannot be represented without a lack of precision " ++
      "(values below 1ns are not supported)"
  | .outOfRange => "the sum is just beyond the longest duration"

/-- An amount counted in nanoseconds or in seconds. -/
inductive Measure where
  | nanoseconds (count : Nat)
  | seconds (count : Nat)

/-- A unit: its names, what one of it counts, and what its fractions are counted in, if it may have
fractions. -/
structure Unit where
  names : List String
  whole : Measure
  part : Option Measure

/-- A unit of whole seconds, whose fractions are whole seconds too. -/
def Unit.long (names : List String) (seconds : Nat) : Unit :=
  ⟨names, .seconds seconds, some (.seconds seconds)⟩

/-- The units. Months and years have their mean length. -/
def units : List Unit :=
  [⟨["ns", "nsec", "nanos"], .nanoseconds 1, none⟩,
   ⟨["us", "usec", "µs"], .nanoseconds 1000, some (.nanoseconds 1000)⟩,
   ⟨["ms", "msec", "millis"], .nanoseconds 1000000, some (.nanoseconds 1000000)⟩,
   ⟨["s", "sec", "secs", "second", "seconds"], .seconds 1, some (.nanoseconds 1000000000)⟩,
   ⟨["m", "min", "mins", "minute", "minutes"], .seconds 60, some (.nanoseconds 60000000000)⟩,
   .long ["h", "hr", "hrs", "hour", "hours"] 3600,
   .long ["d", "day", "days"] 86400,
   .long ["w", "wk", "wks", "week", "weeks"] 604800,
   .long ["M", "month", "months"] 2630016,
   .long ["y", "yr", "yrs", "year", "years"] 31557600]

/-- The unit of a name. -/
def unitNamed? (name : String) : Option Unit :=
  units.find? fun unit => unit.names.contains name

/-- A number of the size of a word. -/
def word (n : Nat) : Except Fault Nat :=
  if n < wordLimit 64 then .ok n else .error .inexact

/-- A fraction of a unit, between zero and one. -/
structure Fraction where
  numerator : Nat
  denominator : Nat

/-- So many times a measure. -/
def Measure.times (count : Nat) : Measure → Except Fault Measure
  | .nanoseconds each => (word (count * each)).map .nanoseconds
  | .seconds each => (word (count * each)).map .seconds

/-- The quotient of a measure, if it is exact. -/
def Measure.divided (divisor : Nat) : Measure → Except Fault Measure
  | .nanoseconds count =>
    if count % divisor = 0 then .ok (.nanoseconds (count / divisor)) else .error .inexact
  | .seconds count =>
    if count % divisor = 0 then .ok (.seconds (count / divisor)) else .error .inexact

/-- A duration and a measure together. A sum whose fraction completes its last second exactly is
out of range when that second is one too many; any other sum beyond the limit is refused. -/
def plus (duration : Duration) (measure : Measure) : Except Fault Duration :=
  let (fraction, nanoseconds) := match measure with
    | .nanoseconds count => (duration.fraction + count, duration.nanoseconds + count)
    | .seconds count =>
      (duration.fraction, duration.nanoseconds + count * nanosecondsPerSecond)
  if wordLimit 64 ≤ fraction then .error .inexact
  else
    match ofNanoseconds? nanoseconds with
    | some sum => .ok sum
    | none => .error (if fraction = nanosecondsPerSecond then .outOfRange else .inexact)

/-- A duration and one more amount of a unit. -/
def plusAmount (duration : Duration) (unit : String) (amount : Nat)
    (fraction : Option Fraction) : Except Fault Duration := do
  match unitNamed? unit with
  | none => .error (.unknownUnit unit amount)
  | some unit =>
    let sum ← plus duration (← unit.whole.times amount)
    match fraction, unit.part with
    | none, _ => .ok sum
    | some _, none => .error .inexact
    | some fraction, some part =>
      plus sum (← (← part.times fraction.numerator).divided fraction.denominator)

/-- Whether a character may stand in the name of a unit. -/
def isUnitChar (c : Char) : Bool := c.isAlpha || c == 'µ'

/-- Reads digits and blanks up to a point, to a unit or to the end. -/
def readWhole (offset amount : Nat) : List Char → Except Fault (Nat × Nat × List Char)
  | [] => .ok (amount, offset, [])
  | c :: rest =>
    if c.isDigit then do
      let amount ← word (amount * 10 + (c.toNat - '0'.toNat))
      readWhole (offset + c.utf8Size) amount rest
    else if Text.isBlank c then readWhole (offset + c.utf8Size) amount rest
    else if isUnitChar c || c == '.' then .ok (amount, offset, c :: rest)
    else .error (.invalidCharacter offset)

/-- Reads the digits and blanks behind a point up to a unit or to the end. A fault is placed at
`mark`, which is the point itself until something has been read. -/
def readFraction (mark offset : Nat) (fraction : Fraction) :
    List Char → Except Fault (Fraction × Nat × List Char)
  | [] => finish []
  | c :: rest =>
    let next := offset + c.utf8Size
    if c.isDigit then do
      let denominator ← word (fraction.denominator * 10)
      readFraction next next ⟨fraction.numerator * 10 + (c.toNat - '0'.toNat), denominator⟩ rest
    else if Text.isBlank c then readFraction next next fraction rest
    else if isUnitChar c then finish (c :: rest)
    else .error (.invalidCharacter mark)
where
  /-- At least one digit stands behind a point. -/
  finish (rest : List Char) : Except Fault (Fraction × Nat × List Char) :=
    if fraction.denominator = 1 then .error (.invalidCharacter mark)
    else .ok (fraction, offset, rest)

/-- Reads the name of a unit, and the blank that ends it, if a blank does. -/
def readUnit (offset : Nat) (read : List Char) :
    List Char → Except Fault (String × Nat × List Char)
  | [] => .ok (String.ofList read.reverse, offset, [])
  | c :: rest =>
    if c.isDigit then .ok (String.ofList read.reverse, offset, c :: rest)
    else if Text.isBlank c then .ok (String.ofList read.reverse, offset + c.utf8Size, rest)
    else if isUnitChar c then readUnit (offset + c.utf8Size) (c :: read) rest
    else .error (.invalidCharacter offset)

/-- Blanks dropped from the front, and the offset behind them. -/
def skipBlanks (offset : Nat) : List Char → Nat × List Char
  | [] => (offset, [])
  | c :: rest =>
    if Text.isBlank c then skipBlanks (offset + c.utf8Size) rest else (offset, c :: rest)

/-- Reads the amounts that follow. The first argument bounds their number. -/
def readAmounts : Nat → Duration → Nat → List Char → Except Fault Duration
  | 0, duration, _, _ => .ok duration
  | bound + 1, duration, start, text =>
    match skipBlanks start text with
    | (_, []) => .ok duration
    | (offset, c :: rest) =>
      if !c.isDigit then .error (.numberExpected start)
      else do
        let (amount, offset, rest) ← readWhole offset 0 (c :: rest)
        let (fraction, offset, rest) ← match rest with
          | '.' :: rest => do
            let (fraction, offset, rest) ← readFraction offset (offset + 1) ⟨0, 1⟩ rest
            pure (some fraction, offset, rest)
          | rest => pure (none, offset, rest)
        let (unit, offset, rest) ← readUnit offset [] rest
        readAmounts bound (← plusAmount duration unit amount fraction) offset rest

/-- Reads a spelled duration. Zero alone needs no unit. -/
def readSpelled (text : String) : Except Fault Duration :=
  let chars := text.toList
  if text = "0" then .ok zero
  else if (skipBlanks 0 chars).2.isEmpty then .error .empty
  else readAmounts (chars.length + 1) zero 0 chars

end LiveShader.Duration

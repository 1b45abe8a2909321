import LiveShader.Desktop.Context
import LiveShader.Launch.Environment
import LiveShader.Word

/-!
# The command line

What a user asks for: to run a shader, which needs no word of its own, or to print it wrapped. A
subcommand counts only as the first word. Options may stand anywhere, their values behind them or
behind an equals sign, and everything behind a bare `--` is taken as it is.

An option that stands before its value, and a value that has not been judged yet, are pending. They
are judged when the next known word comes, so an unknown word is noticed before a bad value, and a
bad value before a request for help.
-/
namespace LiveShader

/-- What a run is asked for. -/
structure RunArguments where
  shader : Option String
  config : Option String
  small : Bool
  noWatch : Bool
  idleFrames : Option Nat
  context : Option ContextChoice

/-- What the program is asked for. -/
inductive Invocation where
  /-- To run a shader; the subcommand may be left out. -/
  | run (named : Bool) (arguments : RunArguments)
  /-- To print a shader as the driver sees it. -/
  | wrap (shader : String) (context : Option ContextChoice)

namespace CommandLine

/-- Why a command line is not followed. -/
inductive Refusal where
  | unknownArgument
  /-- Two arguments that exclude each other, or one argument twice. -/
  | conflict
  /-- A value is missing or empty. -/
  | missingValue
  | invalidValue
  /-- A switch is given a value. -/
  | unexpectedValue
  | missingArgument
  | unknownSubcommand
  /-- Help is asked for. -/
  | help
  /-- The version is asked for. -/
  | version
  deriving DecidableEq

/-- The three things that a command line can stand for. -/
inductive Command where
  /-- No subcommand has been seen. -/
  | top
  | run
  | wrap
  deriving DecidableEq

/-- Options that stand alone. -/
inductive Switch where
  | small
  | noWatch
  | help
  | version
  deriving DecidableEq

/-- Options with a value. -/
inductive Setting where
  | config
  | idleFrames
  | context
  deriving DecidableEq

/-- An option. -/
inductive Flag where
  | switch (switch : Switch)
  | setting (setting : Setting)

/-- The options of a command, by the names behind their two dashes. -/
def Command.flags : Command → List (String × Flag)
  | .wrap => [("dialect", .setting .context), ("help", .switch .help)]
  | .run => runFlags
  | .top => ("version", .switch .version) :: runFlags
where
  runFlags : List (String × Flag) :=
    [("config", .setting .config), ("small", .switch .small), ("no-watch", .switch .noWatch),
     ("idle-frames", .setting .idleFrames), ("dialect", .setting .context),
     ("help", .switch .help)]

/-- The options of a command by the letter behind one dash. -/
def Command.letters : Command → List (Char × Switch)
  | .top => [('h', .help), ('V', .version)]
  | _ => [('h', .help)]

/-- The subcommands. -/
def subcommands : List (String × Command) := [("run", .run), ("wrap", .wrap)]

/-- What is still to be judged. -/
inductive Pending where
  | nothing
  /-- An option that waits for its value. -/
  | option (setting : Setting)
  /-- A value of an option. -/
  | value (setting : Setting) (text : String)
  | shader (text : String)

/-- What has been read. -/
structure State where
  given : RunArguments
  pending : Pending
  /-- A shader stands on the line, judged or not. -/
  hasShader : Bool
  /-- Something that is no subcommand has been seen. -/
  begun : Bool
  /-- All further words are taken as they are. -/
  escaped : Bool

/-- Nothing has been read. -/
def State.start : State := ⟨⟨none, none, false, false, none, none⟩, .nothing, false, false, false⟩

/-- The number of frames that a text gives: a whole number of a 32-bit word, zero excepted. -/
def readFrames? (text : String) : Option Nat :=
  let digits := match text.toList with
    | '+' :: digits => digits
    | digits => digits
  if digits.isEmpty || !digits.all Char.isDigit then none
  else
    let frames := digits.foldl (fun number c => number * 10 + (c.toNat - '0'.toNat)) 0
    if frames = 0 ∨ wordLimit 32 ≤ frames then none else some frames

/-- What is given once an option has a value. No option may be given twice. -/
def give (setting : Setting) (text : String) (given : RunArguments) :
    Except Refusal RunArguments :=
  match setting with
  | .config =>
    if given.config.isSome then .error .conflict
    else if text.isEmpty then .error .missingValue
    else .ok { given with config := some text }
  | .idleFrames =>
    if given.idleFrames.isSome then .error .conflict
    else
      match readFrames? text with
      | some frames => .ok { given with idleFrames := some frames }
      | none => .error .invalidValue
  | .context =>
    if given.context.isSome then .error .conflict
    else
      match ContextChoice.ofTyped text with
      | .ok context => .ok { given with context := some context }
      | .error _ => .error .invalidValue

/-- Judges what is pending. -/
def State.settle (state : State) : Except Refusal State :=
  match state.pending with
  | .nothing => .ok state
  | .option _ => .error .missingValue
  | .value setting text =>
    (give setting text state.given).map fun given => { state with given, pending := .nothing }
  | .shader text =>
    if text.isEmpty then .error .missingValue
    else .ok { state with given.shader := some text, pending := .nothing }

/-- Turns a switch on. -/
def turnOn (switch : Switch) (state : State) : Except Refusal State := do
  let state ← state.settle
  match switch with
  | .help => .error .help
  | .version => .error .version
  | .small =>
    if state.given.small then .error .conflict
    else .ok { state with given.small := true, begun := true }
  | .noWatch =>
    if state.given.noWatch then .error .conflict
    else .ok { state with given.noWatch := true, begun := true }

/-- Reads an option with two dashes, its value in the same word or to come. -/
def readLong (command : Command) (name : String) (value : Option String) (state : State) :
    Except Refusal State :=
  match command.flags.lookup name, value with
  | none, _ => .error .unknownArgument
  | some (.switch _), some _ => .error .unexpectedValue
  | some (.switch switch), none => turnOn switch state
  | some (.setting setting), some text => do
    let state ← state.settle
    let given ← give setting text state.given
    .ok { state with given, begun := true }
  | some (.setting setting), none => do
    let state ← state.settle
    .ok { state with pending := .option setting, begun := true }

/-- Reads a word that is no option: the shader. -/
def readPlain (command : Command) (word : String) (state : State) : Except Refusal State :=
  if state.hasShader then .error (if command = .top then .conflict else .unknownArgument)
  else do
    let state ← state.settle
    .ok { state with pending := .shader word, hasShader := true, begun := true }

/-- Splits an option at its equals sign. -/
def splitOption (option : List Char) : String × Option String :=
  match Text.splitAtMark? '=' option with
  | some (name, value) => (String.ofList name, some (String.ofList value))
  | none => (String.ofList option, none)

/-- Reads a word that is no subcommand. -/
def readWord (command : Command) (word : String) (state : State) : Except Refusal State :=
  if state.escaped then readPlain command word state
  else
    match word.toList with
    | ['-', '-'] => .ok { state with escaped := true }
    | '-' :: '-' :: option =>
      let (name, value) := splitOption option
      readLong command name value state
    | '-' :: letter :: _ =>
      match command.letters.lookup letter with
      | some switch => turnOn switch state
      | none => .error .unknownArgument
    | _ =>
      match state.pending with
      | .option setting => .ok { state with pending := .value setting word }
      | _ => readPlain command word state

/-- Judges what is left at the end of a line. The environment gives a configuration when the line
gives none. -/
def finish (environment : Environment) (takesConfig : Bool) (state : State) :
    Except Refusal RunArguments := do
  let state ← state.settle
  match takesConfig, state.given.config, environment.configFile with
  | true, none, some text => give .config text state.given
  | _, _, _ => .ok state.given

/-- Reads the words behind a subcommand. -/
def readSubcommand (environment : Environment) (command : Command) :
    List String → State → Except Refusal Invocation
  | [], state =>
    if command = .wrap then do
      let given ← finish environment false state
      match given.shader with
      | some shader => .ok (.wrap shader given.context)
      | none => .error .missingArgument
    else do
      let given ← finish environment true state
      .ok (.run true given)
  | word :: rest, state => do
    let state ← readWord command word state
    readSubcommand environment command rest state

/-- What a request for help with some words leads to. -/
def readHelp : List String → Refusal
  | [] => .help
  | ["run"] | ["wrap"] | ["help"] => .help
  | _ => .unknownSubcommand

/-- Reads words of which none so far was a subcommand. -/
def readTop (environment : Environment) : List String → State → Except Refusal Invocation
  | [], state => do
    let given ← finish environment true state
    .ok (.run false given)
  | word :: rest, state => do
    if !state.begun && !state.escaped then
      if word = "help" then .error (readHelp rest)
      else
        match subcommands.lookup word with
        | some command => do
          let invocation ← readSubcommand environment command rest .start
          let _ ← finish environment true state
          .ok invocation
        | none => do
          let state ← readWord .top word state
          readTop environment rest state
    else do
      let state ← readWord .top word state
      readTop environment rest state

/-- Reads a command line. -/
def read (environment : Environment) (words : List String) : Except Refusal Invocation :=
  readTop environment words .start

end CommandLine

end LiveShader

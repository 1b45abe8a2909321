import LiveShader.Console.Input
import LiveShader.Headless.Rehearsal
import LiveShader.Watch.Worker

/-!
# The program at a terminal

The thin layer around the program: the files, the variables and the console of the system. The
window is the one without a screen, which draws a frame after each request. The folder of a watched
file sends no events here, so the file is read again and again, and its text is handed over when it
has changed.
-/
namespace LiveShader.Terminal

open Headless

/-- The window, whether it is still served, and which lines of the log are shown. -/
structure Stage where
  window : IO.Ref Rehearsal
  isServed : IO.Ref Bool
  filter : LogFilter

/-- Shows a line of the log. -/
def Stage.log (stage : Stage) (line : LogLine) : IO Unit :=
  if stage.filter.shows line then IO.eprintln line.shown else pure ()

/-- Does something at the window, and shows what it has written to the log. -/
def Stage.act {Answer : Type} (stage : Stage) (change : Rehearsal → Answer × Rehearsal) :
    IO Answer := do
  let (answer, lines) ← stage.window.modifyGet fun rehearsal =>
    let (answer, changed) := change rehearsal
    ((answer, changed.log.reverse), { changed with log := [] })
  lines.forM stage.log
  return answer

/-- Why the system does not read a file. -/
def faultOf : IO.Error → ReadFault
  | .noFileOrDirectory _ _ _ => .notFound
  | .inappropriateType _ code _ => if code = 21 then .isADirectory else .notADirectory
  | error => .other (toString error)

/-- The text of a file. -/
def readText (path : String) : IO (Except ReadFault String) := do
  try
    match String.fromUTF8? (← IO.FS.readBinFile path) with
    | some text => return .ok text
    | none => return .error .invalidText
  catch error => return .error (faultOf error)

/-- The names of the place that a path leads to. -/
def resolve (path : String) : IO (Except ReadFault (List String)) := do
  try
    return .ok ((Path.parts (← IO.FS.realPath path).toString).filter Path.isStep)
  catch error => return .error (faultOf error)

/-- The files of the system. -/
def files : FileAccess IO :=
  { readText
    exists? := fun path => do
      match ← resolve path with
      | .ok _ => return true
      | .error _ => return false
    resolve }

/-- Reads a file again and again, and hands its text to the window when it has changed. The text
that was read last is missing when the file could not be read. -/
partial def follow (stage : Stage) (path document : String) (pause : UInt32)
    (last : Option String) : IO Unit := do
  IO.sleep pause
  if ← stage.isServed.get then
    let text ← readText path
    if text.toOption ≠ last then
      match text with
      | .ok source =>
        stage.log ((Watch.Report.evaluated source).logLine path)
        let _ ← stage.act (Rehearsal.eval source document)
      | .error fault => stage.log ((Watch.Report.unreadable fault).logLine path)
    follow stage path document pause text.toOption

/-- The milliseconds between two readings of a watched file: its resting time within reason. -/
def pauseOf (debounce : Duration) : UInt32 :=
  UInt32.ofNat (max 10 (min 60000 (debounce.nanoseconds / 1000000)))

/-- Those whom the console deals with. -/
def host (stage : Stage) (path : String) : Console.Host IO :=
  { apply := fun command => stage.act (Rehearsal.apply command)
    eval := fun source => stage.act (Rehearsal.eval source path)
    shutdown := stage.act Rehearsal.close
    readShader := readText path
    print := fun line => IO.println line
    complain := fun line => IO.eprintln line
    log := stage.log }

/-- The bytes of the next line behind some that have been read, and whether a line is there. -/
partial def nextLine (input : IO.FS.Stream) (before : List UInt8) : IO (Bool × List UInt8) := do
  match (← input.read 1).toList with
  | [] => return (!before.isEmpty, before.reverse)
  | byte :: _ =>
    if byte = Console.newline then return (true, before.reverse)
    else nextLine input (byte :: before)

/-- Serves the lines of an input until the console ends. -/
partial def converse (host : Console.Host IO) (path : String) (input : IO.FS.Stream) : IO Unit := do
  match ← nextLine input [] with
  | (false, _) => Console.logEnd host .closed
  | (true, bytes) =>
    match ← Console.serveLine host path (Console.lineText? bytes) with
    | .more => converse host path input
    | ended => Console.logEnd host ended

/-- The surroundings of a run. -/
def system (stage : Stage) : System IO :=
  { files
    log := stage.log
    openWindow := fun options => stage.act fun rehearsal =>
      (.ok (), rehearsal.openWindow options)
    eval := fun source document => stage.act (Rehearsal.eval source document)
    watch := fun target => do
      let path := Path.join (Path.ofNames target.folder) target.fileName
      let _ ← IO.asTask (follow stage path target.document
        (pauseOf target.debounce) (← readText path).toOption)
    converse := fun path => do
      converse (host stage path) path (← IO.getStdin)
      stage.isServed.set false
      return .ok () }

/-- The variables that are set. -/
def environment : IO Environment := do
  return {
    configFile := ← IO.getEnv "SHADELIVE_CONFIG"
    configFolder := ← IO.getEnv "SHADELIVE_CONFIG_DIR"
    userConfigFolder := ← IO.getEnv "XDG_CONFIG_HOME"
    home := ← IO.getEnv "HOME"
    accountHome := "/" }

/-- How the program is called. -/
def usage : String :=
  "Usage: shadelive [run] [SHADER] [--config FILE] [--small] [--no-watch] " ++
    "[--idle-frames FRAMES]\n" ++
  "                 [--dialect DIALECT]\n" ++
  "       shadelive wrap SHADER [--dialect DIALECT]\n"

end LiveShader.Terminal

open LiveShader in
/-- Runs the program with the words of the command line. -/
def main (words : List String) : IO UInt32 := do
  let filter := LogFilter.ofSetting (← IO.getEnv "RUST_LOG")
  let window ← IO.mkRef (Headless.Rehearsal.ready (.bare []) [] [])
  let stage : Terminal.Stage := ⟨window, ← IO.mkRef true, filter⟩
  let ending ← Launch.program (Terminal.system stage) (← Terminal.environment) words
  match ending with
  | .refused .help => IO.print Terminal.usage
  | .refused .version => pure ()
  | .refused _ => IO.eprint Terminal.usage
  | _ => pure ()
  IO.print ending.output
  ending.complaints.forM fun line => IO.eprintln line
  return UInt32.ofNat ending.code

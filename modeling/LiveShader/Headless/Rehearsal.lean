import LiveShader.Console.Input
import LiveShader.Console.Serve
import LiveShader.Files.Tree
import LiveShader.Headless.Driver
import LiveShader.Launch.Program
import LiveShader.Log.Filter

/-!
# Runs without a screen

A whole run in memory: a tree of files, the lines of the console, and a window that draws with the
driver without a screen. Requests are served as soon as they are made, one frame is drawn after
each, and the clock is a stepped one. The files can be edited while the run goes on: an edit
belongs to the number of the uniform request after which it happens.
-/
namespace LiveShader.Headless

/-- New contents of files by path; a missing content removes the file. -/
abbrev Edit := List (String × Option ByteArray)

/-- The tree after an edit. -/
def editTree (tree : FileTree) (edit : Edit) : FileTree :=
  edit.foldl (fun tree (path, content) =>
    match content with
    | some bytes => tree.write path bytes
    | none => tree.remove path) tree

/-- A session with the driver without a screen. -/
abbrev HeadlessSession := Session handles (Memory × Surface)

/-- Something that happens at the window. -/
inductive WindowStep where
  | opened (title : String) (presentation : Presentation)
  | evaluated (document : String) (outcome : EvalOutcome) (loop : Option LoopState)
      (uniforms : NameTable SlotSnapshot)
  | applied (command : Command) (loop : Option LoopState) (uniforms : NameTable SlotSnapshot)
  | closed

/-- A run and what has come of it, the latest first. -/
structure Rehearsal where
  tree : FileTree
  /-- Edits with the number of the uniform request that each follows. -/
  edits : List (Nat × Edit)
  console : List (Option String)
  session : Option HeadlessSession
  /-- How many uniform requests have been applied. -/
  requests : Nat
  steps : List WindowStep
  output : List String
  complaints : List String
  log : List LogLine

namespace Rehearsal

/-- A run before it starts. -/
def ready (tree : FileTree) (edits : List (Nat × Edit)) (console : List UInt8) : Rehearsal :=
  ⟨tree, edits, Console.inputLines console, none, 0, [], [], [], []⟩

/-- Keeps a session, and moves what it has reported to the log. -/
def keep (session : HeadlessSession) (rehearsal : Rehearsal) : Rehearsal :=
  { rehearsal with
    session := some { session with journal := [] }
    log := (session.journal.map Notice.logLine).reverse ++ rehearsal.log }

/-- Writes a step down. -/
def note (step : WindowStep) (rehearsal : Rehearsal) : Rehearsal :=
  { rehearsal with steps := step :: rehearsal.steps }

/-- Opens the window. -/
def openWindow (options : WindowOptions) (rehearsal : Rehearsal) : Rehearsal :=
  let session := Session.start rig options.session (.stepped 0 0.5)
    (.initial, Surface.sized options.size)
  (rehearsal.keep session).note (.opened options.title options.presentation)

/-- Draws a frame, if one is wanted, and writes down what was done before it. -/
def finish (session : HeadlessSession)
    (step : Option LoopState → NameTable SlotSnapshot → WindowStep) (rehearsal : Rehearsal) :
    Rehearsal :=
  let (_, session) := session.tick rig
  (rehearsal.keep session).note (step session.loopState? session.snapshot)

/-- Serves a source. -/
def eval (source document : String) (rehearsal : Rehearsal) :
    Except ProxyError Unit × Rehearsal :=
  match rehearsal.session with
  | none => (.error .exited, rehearsal)
  | some session =>
    let (outcome, session) := session.eval rig source document
    (.ok (), rehearsal.finish session (.evaluated document outcome))

/-- The edits that follow the request of a number. -/
def editsAfter (number : Nat) (rehearsal : Rehearsal) : Rehearsal :=
  { rehearsal with
    tree := (rehearsal.edits.filter fun edit => edit.1 == number).foldl
      (fun tree edit => editTree tree edit.2) rehearsal.tree }

/-- Serves a uniform request. -/
def apply (command : Command) (rehearsal : Rehearsal) : Except ProxyError Reply × Rehearsal :=
  match rehearsal.session with
  | none => (.error .exited, rehearsal)
  | some session =>
    let (reply, session) := session.apply command
    let requests := rehearsal.requests + 1
    let edited := ({ rehearsal with requests } : Rehearsal).editsAfter requests
    (.ok reply, edited.finish session (.applied command))

/-- Serves the request to close. -/
def close (rehearsal : Rehearsal) : Except ProxyError Unit × Rehearsal :=
  (.ok (), rehearsal.note .closed)

/-- Adds a line to the log. -/
def logLine (line : LogLine) (rehearsal : Rehearsal) : Rehearsal :=
  { rehearsal with log := line :: rehearsal.log }

/-- The files of a run. -/
def files : FileAccess (StateM Rehearsal) :=
  { readText := fun path => do return (← get).tree.readText path
    exists? := fun path => do return (← get).tree.exists? path
    resolve := fun path => do return (← get).tree.resolve path }

/-- Those whom the console of a run deals with. -/
def host (path : String) : Console.Host (StateM Rehearsal) :=
  { apply := fun command => apply command
    eval := fun source => eval source path
    shutdown := close
    readShader := files.readText path
    print := fun line => modify fun rehearsal =>
      { rehearsal with output := line :: rehearsal.output }
    complain := fun line => modify fun rehearsal =>
      { rehearsal with complaints := line :: rehearsal.complaints }
    log := fun line => modify (logLine line) }

/-- The surroundings of a run. Nothing is watched: files change only by the edits. -/
def system : System (StateM Rehearsal) :=
  { files
    log := fun line => modify (logLine line)
    openWindow := fun options => do
      modify (openWindow options)
      return .ok ()
    eval := fun source document => eval source document
    watch := fun _ => pure ()
    converse := fun path => do
      Console.serve (host path) path (← get).console
      return .ok () }

/-- Runs a shader. -/
def run (environment : Environment) (arguments : RunArguments) (rehearsal : Rehearsal) :
    Except RunError Unit × Rehearsal :=
  (Launch.run system environment arguments).run.run rehearsal

/-- All that would come before a window. -/
def plan (environment : Environment) (arguments : RunArguments) (rehearsal : Rehearsal) :
    Except RunError LaunchPlan :=
  ((Launch.prepare system environment arguments).run.run rehearsal).1

/-- The listing of a shader. -/
def wrap (path : String) (context : Option ContextChoice) (rehearsal : Rehearsal) :
    Except RunError String :=
  ((Launch.wrap files path context).run.run rehearsal).1

/-- What has been printed. -/
def printed (lines : List String) : String :=
  String.join (lines.reverse.map fun line => line ++ "\n")

end Rehearsal

/-- What a program leaves behind when it ends. -/
structure Outcome where
  ending : Ending
  /-- What has been printed. -/
  output : String
  /-- The lines of complaint. -/
  complaints : List String
  /-- The lines of the log. -/
  log : List String

/-- The whole program. -/
def program (environment : Environment) (filter : LogFilter) (words : List String)
    (rehearsal : Rehearsal) : Outcome :=
  let (ending, ended) := (Launch.program Rehearsal.system environment words).run rehearsal
  { ending
    output := Rehearsal.printed ended.output ++ ending.output
    complaints := ended.complaints.reverse ++ ending.complaints
    log := (ended.log.reverse.filter filter.shows).map LogLine.shown }

end LiveShader.Headless

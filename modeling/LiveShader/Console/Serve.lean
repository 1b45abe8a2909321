import LiveShader.Console.Line
import LiveShader.Console.Reply
import LiveShader.Desktop.Proxy
import LiveShader.Files.Fault

/-!
# Serving the console

The console takes one line after the other, hands its request to the window and prints the reply. A
line that is not understood is complained about and costs no other line. A line that is no text,
and a window that no longer answers, stop the console.
-/
namespace LiveShader.Console

/-- Those whom the console deals with. -/
structure Host (m : Type → Type) where
  /-- Hands a request to the window and waits for its reply. -/
  apply : Command → m (Except ProxyError Reply)
  /-- Hands a source to the window. -/
  eval : String → m (Except ProxyError Unit)
  /-- Asks the window to close. -/
  shutdown : m (Except ProxyError Unit)
  /-- Reads the shader's file anew. -/
  readShader : m (Except ReadFault String)
  /-- Prints a line of output. -/
  print : String → m Unit
  /-- Prints a line of complaint. -/
  complain : String → m Unit
  log : LogLine → m Unit

/-- What follows a line. -/
inductive After where
  /-- The next line. -/
  | more
  /-- Nothing, as was asked for. -/
  | closed
  /-- Nothing, for a reason. -/
  | stopped (reason : String)
  deriving DecidableEq

/-- What follows once the window has been asked for something. -/
def After.ofAnswer (next : After) : Except ProxyError Unit → After
  | .ok () => next
  | .error error => .stopped error.message

/-- The complaint about a shader's file that cannot be read. -/
def unreadable (path : String) (fault : ReadFault) : String :=
  s!"failed to read {path}: {fault.message}"

variable {m : Type → Type} [Monad m]

/-- Does what a line asks for. The path is that of the shader's file. -/
def serveRequest (host : Host m) (path : String) : Request → m After
  | .uniform command => do
    match ← host.apply command with
    | .error error => pure (.stopped error.message)
    | .ok reply =>
      match replyText? reply with
      | some text => host.print text
      | none => pure ()
      pure .more
  | .reload => do
    match ← host.readShader with
    | .ok source => return After.ofAnswer .more (← host.eval source)
    | .error fault =>
      host.complain (unreadable path fault)
      pure .more
  | .quit => return After.ofAnswer .closed (← host.shutdown)

/-- Serves one line, or the lack of a text in its place. -/
def serveLine (host : Host m) (path : String) : Option String → m After
  | none => pure (.stopped "failed to read console input")
  | some line =>
    match readLine line with
    | .ok none => pure .more
    | .ok (some request) => serveRequest host path request
    | .error error => do
      host.complain error.message
      pure .more

/-- Writes the end of the console to the log. -/
def logEnd (host : Host m) : After → m Unit
  | .stopped reason =>
    host.log ⟨.warn, "shadelive::console", "console stopped", [("err", reason)]⟩
  | _ => host.log ⟨.debug, "shadelive::console", "console input closed", []⟩

/-- Serves lines up to the one that closes or stops the console, or to the end of the input. -/
def serve (host : Host m) (path : String) : List (Option String) → m Unit
  | [] => logEnd host .closed
  | line :: rest => do
    match ← serveLine host path line with
    | .more => serve host path rest
    | ended => logEnd host ended

end LiveShader.Console

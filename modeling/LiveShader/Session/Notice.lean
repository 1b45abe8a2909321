import LiveShader.Diagnostic
import LiveShader.Graphics.Build
import LiveShader.Shader.Template
import LiveShader.Text.Literal
import LiveShader.Uniform.Registry

/-!
# Notices

What a session reports while it runs, in the order in which it happens: failed builds for the
user, and events for the log. A log line has a level, a message and named fields.
-/
namespace LiveShader

/-- Something a session reports. -/
inductive Notice where
  /-- A source was not installed; this is reported to the user. -/
  | rejected (diagnostic : Diagnostic) (document : String)
  /-- A first program was installed; so many uniforms are seen by hosts. -/
  | started (document : String) (uniforms : Nat)
  /-- The program was replaced; so many uniforms are seen by hosts. -/
  | reloaded (document : String) (uniforms : Nat)
  /-- A slot was not uploaded. -/
  | uploadFailed (failure : FailedUpload)
  /-- A command named a uniform that hosts do not see. -/
  | unknownUniform (name : String)
  /-- A frame was drawn but could not be shown. -/
  | presentFailed (reason : String)
  /-- A program could not be built. -/
  | buildFailed (document : String) (failure : BuildError)
  /-- The uniforms of a new program were taken in. -/
  | rebuilt (report : RebuildReport)
  /-- A source asks for a presentation. -/
  | presentationAsked (presentation : Presentation)
  /-- The canvas has a new size. -/
  | resized (size : Size)
  /-- The loop fell idle at an age. -/
  | fellIdle (age : Nat)
  /-- An idle loop animates again. -/
  | woken

/-- How much a line of the log matters. -/
inductive Level where
  | error
  | warn
  | info
  | debug
  | trace
  deriving DecidableEq

/-- The word for a level. -/
def Level.name : Level → String
  | .error => "ERROR"
  | .warn => "WARN"
  | .info => "INFO"
  | .debug => "DEBUG"
  | .trace => "TRACE"

/-- How many levels matter more. -/
def Level.rank : Level → Nat
  | .error => 0
  | .warn => 1
  | .info => 2
  | .debug => 3
  | .trace => 4

/-- A line of the log. -/
structure LogLine where
  level : Level
  /-- The part of the program that speaks. -/
  target : String
  message : String
  fields : List (String × String)

/-- The message and the fields of a line, without its level. -/
def LogLine.body (line : LogLine) : String :=
  line.message ++ String.join (line.fields.map fun (name, value) => " " ++ name ++ "=" ++ value)

/-- A line as it is written. -/
def LogLine.shown (line : LogLine) : String := line.level.name ++ " " ++ line.body

namespace Notice

/-- How a failed build is reported to the user. -/
def rejection (diagnostic : Diagnostic) (document : String) : String :=
  match diagnostic with
  | .located line message =>
    document ++ ":" ++ String.ofList (Decimal.integerText line) ++ ": " ++ message
  | .raw _ => document ++ ": " ++ diagnostic.display

/-- Names as a list of literals. -/
def nameList (names : List String) : String :=
  "[" ++ String.intercalate ", " (names.map Text.literal) ++ "]"

/-- The line of the log for a failed upload, which matters only the first time since the slot was
bound. -/
def uploadLine (failure : FailedUpload) : LogLine :=
  let (level, message) := if failure.again then (Level.trace, "uniform upload failed again")
    else (Level.warn, "uniform upload failed; skipping it")
  ⟨level, "renderer::uniforms::registry", message,
    [("uniform", failure.uniform), ("err", failure.error.message)]⟩

/-- The line of the log for a notice. -/
def logLine : Notice → LogLine
  | .rejected diagnostic document =>
    ⟨.error, "shadelive::run", rejection diagnostic document, []⟩
  | .started document uniforms =>
    ⟨.info, "renderer::session", "shader started",
      [("document", document), ("uniforms", toString uniforms)]⟩
  | .reloaded document uniforms =>
    ⟨.info, "renderer::session", "shader reloaded",
      [("document", document), ("uniforms", toString uniforms)]⟩
  | .uploadFailed failure => uploadLine failure
  | .unknownUniform name =>
    ⟨.warn, "renderer::command", "ignoring command for unknown uniform", [("uniform", name)]⟩
  | .presentFailed reason =>
    ⟨.warn, "renderer::window", "failed to swap buffers", [("err", reason)]⟩
  | .buildFailed document failure =>
    ⟨.debug, "renderer::session", "shader build failed",
      [("document", document), ("err", failure.message)]⟩
  | .rebuilt report =>
    ⟨.debug, "renderer::uniforms::registry", "uniform registry rebuilt",
      [("added", nameList report.added), ("resized", nameList report.resized),
       ("removed", nameList report.removed)]⟩
  | .presentationAsked presentation =>
    ⟨.debug, "renderer::session", "size directive",
      [("mode", match presentation with
        | .fullscreen => "Fullscreen"
        | .small => "Small")]⟩
  | .resized size =>
    ⟨.trace, "renderer::session", "canvas resized",
      [("width", toString size.width.toNat), ("height", toString size.height.toNat)]⟩
  | .fellIdle age =>
    ⟨.debug, "renderer::timeline", "render loop idle", [("frames", toString age)]⟩
  | .woken => ⟨.trace, "renderer::timeline", "render loop woken", []⟩

/-- The text of a notice that is a warning. -/
def warning? (notice : Notice) : Option String :=
  if notice.logLine.level = .warn then some notice.logLine.body else none

/-- What is wrong with a source that was not installed, and the name of its document. -/
def rejection? : Notice → Option (Diagnostic × String)
  | .rejected diagnostic document => some (diagnostic, document)
  | _ => none

end Notice

end LiveShader

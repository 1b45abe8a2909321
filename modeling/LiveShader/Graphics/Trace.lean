import LiveShader.Graphics.Driver

/-!
# Traces

Every call that a session makes of its driver and canvas, with the driver's answer, in order. A
traced rig answers as the rig it watches and writes each call down.
-/
namespace LiveShader

/-- A call of a driver or canvas. -/
inductive Call (handles : Handles) where
  | compileStage (stage : Stage) (source : String) (answer : Except String handles.Stage)
  | releaseStage (stage : handles.Stage)
  | link (vertex fragment : handles.Stage) (answer : Except String handles.Program)
  | releaseProgram (program : handles.Program)
  | useProgram (program : handles.Program)
  | activeUniforms (program : handles.Program) (answer : List ActiveUniform)
  | uniformLocation (program : handles.Program) (name : String) (answer : Option handles.Location)
  | upload (location : handles.Location) (shape : Shape) (values : List Float32)
      (answer : Except UploadError Unit)
  | createQuad (answer : Except String handles.Quad)
  | releaseQuad (quad : handles.Quad)
  | setViewport (size : Size)
  | beginFrame (program : handles.Program) (quad : handles.Quad)
  | drawQuad
  | resizeDrawable (size : Size)
  | setPresentation (presentation : Presentation)
  | present (failure : Option String)

/-- A state with the calls made so far, the oldest first. -/
structure Traced (handles : Handles) (State : Type) where
  state : State
  calls : List (Call handles)

namespace Traced

variable {handles : Handles} {State Answer : Type}

/-- A state before any call. -/
def begin (state : State) : Traced handles State := ⟨state, []⟩

/-- Makes a call that answers nothing. -/
def tell (call : Call handles) (act : State → State) (traced : Traced handles State) :
    Traced handles State :=
  ⟨act traced.state, traced.calls ++ [call]⟩

/-- Makes a call and writes it down with its answer. -/
def ask (call : Answer → Call handles) (act : State → Answer × State)
    (traced : Traced handles State) : Answer × Traced handles State :=
  let (answer, state) := act traced.state
  (answer, ⟨state, traced.calls ++ [call answer]⟩)

end Traced

/-- The driver that writes every call down. -/
def Driver.traced {handles : Handles} {State : Type} (driver : Driver handles State) :
    Driver handles (Traced handles State) :=
  { compileStage := fun stage source =>
      Traced.ask (Call.compileStage stage source) (driver.compileStage stage source)
    releaseStage := fun stage => Traced.tell (.releaseStage stage) (driver.releaseStage stage)
    link := fun vertex fragment =>
      Traced.ask (Call.link vertex fragment) (driver.link vertex fragment)
    releaseProgram := fun program =>
      Traced.tell (.releaseProgram program) (driver.releaseProgram program)
    useProgram := fun program => Traced.tell (.useProgram program) (driver.useProgram program)
    activeUniforms := fun program =>
      Traced.ask (Call.activeUniforms program) (driver.activeUniforms program)
    uniformLocation := fun program name =>
      Traced.ask (Call.uniformLocation program name) (driver.uniformLocation program name)
    upload := fun location shape values =>
      Traced.ask (Call.upload location shape values) (driver.upload location shape values)
    createQuad := Traced.ask Call.createQuad driver.createQuad
    releaseQuad := fun quad => Traced.tell (.releaseQuad quad) (driver.releaseQuad quad)
    setViewport := fun size => Traced.tell (.setViewport size) (driver.setViewport size)
    beginFrame := fun program quad =>
      Traced.tell (.beginFrame program quad) (driver.beginFrame program quad)
    drawQuad := Traced.tell .drawQuad driver.drawQuad }

/-- The canvas that writes every call down. -/
def Canvas.traced {handles : Handles} {State : Type} (canvas : Canvas State) :
    Canvas (Traced handles State) :=
  { clientSize := fun traced => canvas.clientSize traced.state
    drawableSize := fun traced => canvas.drawableSize traced.state
    resizeDrawable := fun size => Traced.tell (.resizeDrawable size) (canvas.resizeDrawable size)
    setPresentation := fun presentation =>
      Traced.tell (.setPresentation presentation) (canvas.setPresentation presentation)
    present := Traced.ask Call.present canvas.present }

/-- The rig that writes every call down, in one order. -/
def Rig.traced {handles : Handles} {State : Type} (rig : Rig handles State) :
    Rig handles (Traced handles State) :=
  ⟨rig.driver.traced, rig.canvas.traced⟩

end LiveShader

import LiveShader.Shader.Dialect
import LiveShader.Uniform.Shape

/-!
# Graphics drivers

A driver is known by its answers. It owns stages, programs, quads and locations, hands out handles
to them, and answers each call from a state of its own; nothing else about it is assumed. Building
and linking end in a handle or in a log, and an upload may be refused.
-/
namespace LiveShader

/-- What a driver calls the objects it hands out. -/
structure Handles where
  Stage : Type
  Program : Type
  Quad : Type
  Location : Type

/-- The calls a driver answers, each from a state and with the state after it. -/
structure Driver (handles : Handles) (State : Type) where
  /-- Compiles one stage. After a failure no stage is left behind. -/
  compileStage : Stage → String → State → Except String handles.Stage × State
  releaseStage : handles.Stage → State → State
  /-- Links a vertex and a fragment stage. After a failure no program is left behind. -/
  link : handles.Stage → handles.Stage → State → Except String handles.Program × State
  releaseProgram : handles.Program → State → State
  useProgram : handles.Program → State → State
  activeUniforms : handles.Program → State → List ActiveUniform × State
  uniformLocation : handles.Program → String → State → Option handles.Location × State
  upload : handles.Location → Shape → List Float32 → State → Except UploadError Unit × State
  /-- Creates the four corners of the picture. -/
  createQuad : State → Except String handles.Quad × State
  releaseQuad : handles.Quad → State → State
  setViewport : Size → State → State
  /-- Clears the picture and binds a program and a quad. -/
  beginFrame : handles.Program → handles.Quad → State → State
  drawQuad : State → State

/-- The surface a session draws into. -/
structure Canvas (State : Type) where
  /-- The size the canvas has on the screen. -/
  clientSize : State → Size
  /-- The size of the memory that is drawn into. -/
  drawableSize : State → Size
  resizeDrawable : Size → State → State
  setPresentation : Presentation → State → State
  /-- Shows the frame just drawn, or says why it could not be shown. -/
  present : State → Option String × State

/-- A driver and a canvas over one state, which is what a session needs. -/
structure Rig (handles : Handles) (State : Type) where
  driver : Driver handles State
  canvas : Canvas State

/-- Lets a driver act on one part of a larger state. -/
def Driver.lift {handles : Handles} {Part Whole : Type} (driver : Driver handles Part)
    (part : Whole → Part) (replace : Part → Whole → Whole) : Driver handles Whole :=
  let act {Answer : Type} (call : Part → Answer × Part) (whole : Whole) : Answer × Whole :=
    let (answer, changed) := call (part whole)
    (answer, replace changed whole)
  let silent (call : Part → Part) (whole : Whole) : Whole := replace (call (part whole)) whole
  { compileStage := fun stage source => act (driver.compileStage stage source)
    releaseStage := fun stage => silent (driver.releaseStage stage)
    link := fun vertex fragment => act (driver.link vertex fragment)
    releaseProgram := fun program => silent (driver.releaseProgram program)
    useProgram := fun program => silent (driver.useProgram program)
    activeUniforms := fun program => act (driver.activeUniforms program)
    uniformLocation := fun program name => act (driver.uniformLocation program name)
    upload := fun location shape values => act (driver.upload location shape values)
    createQuad := act driver.createQuad
    releaseQuad := fun quad => silent (driver.releaseQuad quad)
    setViewport := fun size => silent (driver.setViewport size)
    beginFrame := fun program quad => silent (driver.beginFrame program quad)
    drawQuad := silent driver.drawQuad }

/-- Lets a canvas act on one part of a larger state. -/
def Canvas.lift {Part Whole : Type} (canvas : Canvas Part)
    (part : Whole → Part) (replace : Part → Whole → Whole) : Canvas Whole :=
  { clientSize := fun whole => canvas.clientSize (part whole)
    drawableSize := fun whole => canvas.drawableSize (part whole)
    resizeDrawable := fun size whole => replace (canvas.resizeDrawable size (part whole)) whole
    setPresentation := fun mode whole => replace (canvas.setPresentation mode (part whole)) whole
    present := fun whole =>
      let (failure, changed) := canvas.present (part whole)
      (failure, replace changed whole) }

/-- A driver and a canvas with states of their own, side by side. -/
def Rig.pair {handles : Handles} {Left Right : Type} (driver : Driver handles Left)
    (canvas : Canvas Right) : Rig handles (Left × Right) :=
  { driver := driver.lift (·.1) fun changed whole => (changed, whole.2)
    canvas := canvas.lift (·.2) fun changed whole => (whole.1, changed) }

end LiveShader

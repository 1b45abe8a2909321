import LiveShader.Frame.Clock
import LiveShader.Frame.Loop
import LiveShader.Graphics.Build
import LiveShader.Session.Command
import LiveShader.Session.Notice
import LiveShader.Shader.Template

/-!
# Sessions

A session has one canvas, one driver, one clock and at most one running shader. A source either
becomes the running shader or is reported, and in the second case nothing else changes: the old
shader runs on as it was. Each frame runs the modifiers, uploads the uniforms and draws once.
-/
namespace LiveShader

/-- What a session is started with. -/
structure SessionOptions where
  /-- How many frames a still shader draws before it falls idle. -/
  idleFrames : Nat
  /-- The dialect in which sources are wrapped. -/
  dialect : Dialect
  /-- Initial values of uniforms that a program is the first to declare. -/
  defaults : NameTable (List Float32)

/-- The options of a session that asks for nothing. -/
def SessionOptions.standard : SessionOptions := ⟨100, .gles300, .empty⟩

/-- A linked program and all that belongs to it. -/
structure RunningShader (handles : Handles) where
  program : handles.Program
  quad : handles.Quad
  registry : Registry handles.Location
  frames : RenderLoop

/-- A session, with the state of its driver and canvas. -/
structure Session (handles : Handles) (State : Type) where
  state : State
  clock : Clock
  options : SessionOptions
  shader : Option (RunningShader handles)
  /-- What has been reported, the oldest first. -/
  journal : List Notice

/-- What became of a source. -/
inductive EvalOutcome where
  /-- It is the first running shader. -/
  | started
  /-- It replaced the running shader. -/
  | reloaded
  /-- It could not be built, and was reported. -/
  | rejected
  deriving DecidableEq

/-- The word for an outcome. -/
def EvalOutcome.name : EvalOutcome → String
  | .started => "started"
  | .reloaded => "reloaded"
  | .rejected => "rejected"

namespace Session

variable {handles : Handles} {State : Type}

/-- A session without a shader, presented on the whole screen. -/
def start (rig : Rig handles State) (options : SessionOptions) (clock : Clock) (state : State) :
    Session handles State :=
  { state := rig.canvas.setPresentation .fullscreen state
    clock := clock.reset
    options
    shader := none
    journal := [] }

/-- The session with a notice added. -/
def note (session : Session handles State) (notice : Notice) : Session handles State :=
  { session with journal := session.journal ++ [notice] }

/-- Whether a shader is running. -/
def isRunning (session : Session handles State) : Bool := session.shader.isSome

/-- Whether another frame should be scheduled. -/
def wantsTick (session : Session handles State) : Bool :=
  match session.shader with
  | none => false
  | some shader => shader.frames.isAnimating

/-- The state of the loop of the running shader. -/
def loopState? (session : Session handles State) : Option LoopState :=
  session.shader.map (·.frames.state)

/-- What hosts see of the uniforms. -/
def snapshot (session : Session handles State) : NameTable SlotSnapshot :=
  match session.shader with
  | none => .empty
  | some shader => shader.registry.snapshot

/-- The sources that were reported to the user, with their documents, the oldest first. -/
def rejections (session : Session handles State) : List (Diagnostic × String) :=
  session.journal.filterMap Notice.rejection?

/-- The slot of a uniform that hosts see. -/
def slot? (session : Session handles State) (name : String) : Option (Slot handles.Location) :=
  session.shader.bind fun shader => shader.registry.get? name

/-- Draws one frame of a shader and shows it. -/
def drawShader (rig : Rig handles State) (session : Session handles State)
    (shader : RunningShader handles) : LoopState × Session handles State :=
  let (now, clock) := session.clock.sample
  let inputs : FrameInputs := ⟨now.toFloat32, rig.canvas.drawableSize session.state⟩
  let advanced := shader.registry.advance (shader.frames.elapsed now)
  let begun := rig.driver.beginFrame shader.program shader.quad session.state
  let (registry, failures, sent) := advanced.send rig.driver inputs begun
  let drawn := rig.driver.drawQuad sent
  let frames := (shader.frames.beginFrame now).endFrame registry.readsTime
  let (unshown, shown) := rig.canvas.present drawn
  let idle := if shader.frames.isAnimating && !frames.isAnimating then [Notice.fellIdle frames.age]
    else []
  let notices := failures.map Notice.uploadFailed ++ idle ++
    unshown.toList.map Notice.presentFailed
  (frames.state,
    { session with
      state := shown
      clock
      shader := some { shader with registry, frames }
      journal := session.journal ++ notices })

/-- Draws a frame at once, whatever the state of the loop. -/
def redraw (rig : Rig handles State) (session : Session handles State) :
    Option LoopState × Session handles State :=
  match session.shader with
  | none => (none, session)
  | some shader =>
    let (state, session) := session.drawShader rig shader
    (some state, session)

/-- Draws a scheduled frame; without an animating shader nothing happens. -/
def tick (rig : Rig handles State) (session : Session handles State) :
    Option LoopState × Session handles State :=
  if session.wantsTick then session.redraw rig else (none, session)

/-- Draws frames while they are wanted, but no more than `left`, and counts them on from `drawn`.
Each frame follows a `change` of the state. The loop's state after the last frame is returned
too. -/
def animate (rig : Rig handles State) (change : State → State) :
    Nat → Nat → Option LoopState → Session handles State →
      Nat × Option LoopState × Session handles State
  | 0, drawn, last, session => (drawn, last, session)
  | left + 1, drawn, last, session =>
    if session.wantsTick then
      let (last, session) :=
        ({ session with state := change session.state } : Session handles State).tick rig
      animate rig change left (drawn + 1) last session
    else (drawn, last, session)

/-- Fits the drawable memory and the viewport to the canvas, and draws a running shader anew. -/
def resize (rig : Rig handles State) (session : Session handles State) : Session handles State :=
  let size := rig.canvas.clientSize session.state
  let state := rig.driver.setViewport size (rig.canvas.resizeDrawable size session.state)
  ((({ session with state } : Session handles State).note (.resized size)).redraw rig).2

/-- Reports a source that was not installed. -/
def reject (session : Session handles State) (diagnostic : Diagnostic) (document : String) :
    EvalOutcome × Session handles State :=
  (.rejected, session.note (.rejected diagnostic document))

/-- Takes in the uniforms of a shader's program. New names get their initial values. -/
def adopt (rig : Rig handles State) (session : Session handles State)
    (shader : RunningShader handles) : Session handles State :=
  let (declared, state) := rig.driver.declared shader.program session.state
  let (registry, report) := shader.registry.rebuild declared
  let registry := registry.applyDefaults session.options.defaults report.added
  ({ session with state, shader := some { shader with registry } } : Session handles State).note
    (.rebuilt report)

/-- What follows the installation of a source: it is reported, may change the presentation, and is
drawn. -/
def install (rig : Rig handles State) (session : Session handles State)
    (source document : String) (outcome : EvalOutcome) : EvalOutcome × Session handles State :=
  let uniforms := match session.shader with
    | none => 0
    | some shader => shader.registry.names.length
  let session := session.note <|
    match outcome with
    | .started => .started document uniforms
    | _ => .reloaded document uniforms
  let session := match sizeDirective? source with
    | none => session
    | some mode =>
      ({ session with state := rig.canvas.setPresentation mode session.state } :
        Session handles State).note (.presentationAsked mode)
  (outcome, (session.redraw rig).2)

/-- Builds a source and makes it the running shader, or reports why that could not be done. -/
def eval (rig : Rig handles State) (session : Session handles State) (source document : String) :
    EvalOutcome × Session handles State :=
  let dialect := session.options.dialect
  match rig.driver.build (vertexSource dialect) (wrapFragment source dialect) session.state with
  | (.error failure, state) =>
    (({ session with state } : Session handles State).note (.buildFailed document failure)).reject
      (Diagnostic.ofLog failure.log headerSize) document
  | (.ok program, state) =>
    match session.shader with
    | some shader =>
      let state := rig.driver.releaseProgram shader.program state
      let replaced : RunningShader handles := { shader with program }
      let adopted := ({ session with state } : Session handles State).adopt rig replaced
      let restarted := adopted.shader.map fun shader =>
        { shader with frames := shader.frames.restart }
      ({ adopted with shader := restarted }).install rig source document .reloaded
    | none =>
      match rig.driver.createQuad state with
      | (.error text, state) =>
        ({ session with state := rig.driver.releaseProgram program state }).reject
          (.raw text) document
      | (.ok quad, state) =>
        let fresh : RunningShader handles :=
          ⟨program, quad, .empty, .start session.options.idleFrames⟩
        (({ session with state } : Session handles State).adopt rig fresh).install rig
          source document .started

/-- Changes a component through a host's handle on its uniform, which wakes the loop. There is no
handle on a uniform that hosts do not see. -/
def edit? (session : Session handles State) (name : String) (index : Nat)
    (edit : Edit Modifier) : Option (Session handles State) :=
  match session.shader with
  | none => none
  | some shader =>
    match shader.registry.get? name with
    | none => none
    | some _ =>
      let changed := { session with
        shader := some { shader with
          registry := shader.registry.edit name index edit
          frames := shader.frames.wake } }
      some (if shader.frames.isAnimating then changed else changed.note .woken)

/-- Applies a host's request to the running shader. -/
def apply (session : Session handles State) (command : Command) :
    Reply × Session handles State :=
  match session.shader with
  | none => (.noShader, session)
  | some shader =>
    match command with
    | .dump => (.snapshot shader.registry.snapshot, session)
    | .get name index =>
      match shader.registry.get? name with
      | none => (.unknown name, session.note (.unknownUniform name))
      | some slot => (.value (slot.get index), session)
    | .change name index edit =>
      match session.edit? name index (edit.map Formula.modifier) with
      | none => (.unknown name, session.note (.unknownUniform name))
      | some changed => (.applied, changed)

/-- Gives the program and the quad back to the driver. -/
def release (rig : Rig handles State) (session : Session handles State) : Session handles State :=
  match session.shader with
  | none => session
  | some shader =>
    { session with
      state := rig.driver.releaseQuad shader.quad
        (rig.driver.releaseProgram shader.program session.state)
      shader := none }

end Session

end LiveShader

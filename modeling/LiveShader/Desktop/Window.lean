import LiveShader.Desktop.Platform
import LiveShader.OpenGL.Binding
import LiveShader.Session.Basic

/-!
# The window

A window on a desktop with a session that draws into it. Bringing it up takes several steps, and
the first that fails is the error. The window's loop hands every event to the session; requests of
other threads come as events too, so that they are applied in the order in which they were sent.
-/
namespace LiveShader

/-- What a window is opened with. -/
structure WindowOptions where
  title : String
  /-- The size before any presentation is chosen. -/
  size : Size
  /-- The size of the small presentation. -/
  smallSize : Size
  context : ContextChoice
  presentation : Presentation
  /-- The options of the session; the context decides the dialect. -/
  session : SessionOptions

/-- The options of a window that asks for nothing. -/
def WindowOptions.standard : WindowOptions :=
  ⟨"shadelive", ⟨1280, 720⟩, ⟨480, 270⟩, .auto, .fullscreen, .standard⟩

/-- Why a window did not come up, or did not run to its end. -/
inductive WindowError where
  | eventLoop (reason : String)
  | display (reason : String)
  | noWindow
  /-- No flavour of context could be made. -/
  | noContext (failures : List (ContextFlavour × String))
  | surface (reason : String)
  | notCurrent (reason : String)
  | loop (reason : String)
  deriving DecidableEq

/-- The words for an error, with its cause behind a colon. -/
def WindowError.message : WindowError → String
  | .eventLoop reason => "failed to create event loop: " ++ reason
  | .display reason => "failed to create GL display: " ++ reason
  | .noWindow => "GL display came up without a window"
  | .noContext failures =>
    "no usable GL context (" ++ String.intercalate "; "
      (failures.map fun (flavour, reason) => flavour.words ++ ": " ++ reason) ++ ")"
  | .surface reason => "failed to create GL window surface: " ++ reason
  | .notCurrent reason => "failed to make GL context current: " ++ reason
  | .loop reason => "window event loop error: " ++ reason

/-- A window: the desktop's state, and the size that was last given to the surface. -/
structure Pane (State : Type) where
  desktop : State
  drawable : Size

namespace Pane

variable {State : Type}

/-- Acts on the desktop. -/
def act (change : State → State) (pane : Pane State) : Pane State :=
  { pane with desktop := change pane.desktop }

/-- Resizes the surface. A minimised window has no area, and keeps the last real size. -/
def resize (desktop : Desktop State) (size : Size) (pane : Pane State) : Pane State :=
  if size.width = 0 ∨ size.height = 0 then pane
  else ⟨desktop.resizeSurface size pane.desktop, size⟩

/-- Switches the presentation. -/
def present (desktop : Desktop State) (smallSize : Size) (presentation : Presentation)
    (pane : Pane State) : Pane State :=
  match presentation with
  | .fullscreen => pane.act (desktop.setFullscreen true)
  | .small =>
    pane.act fun state => desktop.requestInnerSize smallSize (desktop.setFullscreen false state)

/-- The canvas of a window. -/
def canvas (desktop : Desktop State) (smallSize : Size) : Canvas (Pane State) :=
  { clientSize := fun pane => desktop.innerSize pane.desktop
    drawableSize := (·.drawable)
    resizeDrawable := resize desktop
    setPresentation := present desktop smallSize
    present := fun pane =>
      let (failure, state) := desktop.swapBuffers pane.desktop
      (failure, { pane with desktop := state }) }

/-- The driver and the canvas of a window. -/
def rig (desktop : Desktop State) (smallSize : Size) : Rig OpenGL.handles (Pane State) :=
  { driver := (OpenGL.driver desktop.gl).lift (·.desktop)
      fun state pane => { pane with desktop := state }
    canvas := canvas desktop smallSize }

end Pane

namespace Window

variable {State : Type}

/-- The place of the first configuration with the fewest samples, where `best` is the place of the
best so far and `place` that of the next. -/
def fewestSamples (best place samples : Nat) : List Nat → Nat
  | [] => best
  | next :: rest =>
    if next < samples then fewestSamples place (place + 1) next rest
    else fewestSamples best (place + 1) samples rest

/-- The configuration that is taken of those offered. -/
def chosenConfig : List Nat → Nat
  | [] => 0
  | samples :: rest => fewestSamples 0 1 samples rest

/-- Tries flavours of context in order; `failed` are those that were tried before. -/
def createContext (desktop : Desktop State) (config : Nat) :
    List (ContextFlavour × String) → List ContextFlavour → State →
      Except WindowError ContextFlavour × State
  | failed, [], state => (.error (.noContext failed), state)
  | failed, flavour :: rest, state =>
    match desktop.createContext config flavour state with
    | (none, state) => (.ok flavour, state)
    | (some reason, state) =>
      createContext desktop config (failed ++ [(flavour, reason)]) rest state

/-- Brings up the session of a window whose context is current; `size` is the size that the window
had when its surface was made. -/
def startSession (desktop : Desktop State) (options : WindowOptions) (flavour : ContextFlavour)
    (size : Size) (clock : Clock) (state : State) : Session OpenGL.handles (Pane State) :=
  let rig := Pane.rig desktop options.smallSize
  let session := Session.start rig { options.session with dialect := flavour.dialect } clock
    ⟨state, size⟩
  let session := match options.presentation with
    | .fullscreen => session
    | other => { session with state := rig.canvas.setPresentation other session.state }
  session.resize rig

/-- Opens a window with a context and a surface, and starts its session. That frames cannot be
timed to the screen is no error. -/
def bringUp (desktop : Desktop State) (options : WindowOptions) (clock : Clock) (state : State) :
    Except WindowError (Session OpenGL.handles (Pane State)) × State :=
  match desktop.createEventLoop state with
  | (some reason, state) => (.error (.eventLoop reason), state)
  | (none, state) =>
    match desktop.openDisplay state with
    | (.error reason, state) => (.error (.display reason), state)
    | (.ok samples, state) =>
      let config := chosenConfig samples
      match desktop.openWindow options.title options.size (desktop.chooseConfig config 8 state) with
      | (false, state) => (.error .noWindow, state)
      | (true, state) =>
        match createContext desktop config [] options.context.flavours state with
        | (.error error, state) => (.error error, state)
        | (.ok flavour, state) =>
          let size := desktop.innerSize state
          match desktop.createSurface config ⟨max size.width 1, max size.height 1⟩ state with
          | (some reason, state) => (.error (.surface reason), state)
          | (none, state) =>
            match desktop.makeCurrent state with
            | (some reason, state) => (.error (.notCurrent reason), state)
            | (none, state) =>
              let (_, state) := desktop.setSwapInterval 1 state
              let session := startSession desktop options flavour size clock state
              (.ok session, session.state.desktop)

end Window

/-- A request to the window from another thread. -/
inductive LiveCommand where
  /-- Make a source the running shader. -/
  | eval (source document : String)
  | uniform (command : Command)
  | shutdown

/-- What happens to a window. -/
inductive WindowEvent where
  | closeRequested
  | destroyed
  | escapePressed
  | resized
  | redrawRequested
  /-- Anything that the window does not heed: other keys, keys let go, focus. -/
  | unheeded

/-- What the event loop delivers, requests of other threads apart. -/
inductive LoopEvent where
  /-- An event of this window. -/
  | window (event : WindowEvent)
  /-- An event of another window. -/
  | otherWindow (event : WindowEvent)
  /-- All events of a batch have been delivered. -/
  | aboutToWait
  /-- The loop ends. -/
  | exiting

namespace Window

variable {State : Type}

/-- What handling an event leads to. -/
structure Handled (State : Type) where
  session : Session OpenGL.handles (Pane State)
  /-- The answer to a request about the uniforms. -/
  reply : Option Reply
  /-- Whether the loop was asked to end. -/
  exits : Bool

/-- Asks the loop to end. -/
def exit (desktop : Desktop State) (session : Session OpenGL.handles (Pane State)) :
    Handled State :=
  ⟨{ session with state := session.state.act desktop.exitLoop }, none, true⟩

/-- Applies a request of another thread. -/
def handleCommand (desktop : Desktop State) (smallSize : Size) (command : LiveCommand)
    (session : Session OpenGL.handles (Pane State)) : Handled State :=
  match command with
  | .eval source document =>
    ⟨(session.eval (Pane.rig desktop smallSize) source document).2, none, false⟩
  | .uniform command =>
    let (reply, session) := session.apply command
    ⟨session, some reply, false⟩
  | .shutdown => exit desktop session

/-- Handles an event of the window. -/
def handleWindowEvent (desktop : Desktop State) (smallSize : Size) (event : WindowEvent)
    (session : Session OpenGL.handles (Pane State)) : Handled State :=
  let rig := Pane.rig desktop smallSize
  match event with
  | .closeRequested | .destroyed | .escapePressed => exit desktop session
  | .resized => ⟨session.resize rig, none, false⟩
  | .redrawRequested => ⟨(session.tick rig).2, none, false⟩
  | .unheeded => ⟨session, none, false⟩

/-- Handles one event. After a batch another frame is asked for if one is wanted, and the loop
sleeps until the next event. -/
def handle (desktop : Desktop State) (smallSize : Size) (event : LoopEvent)
    (session : Session OpenGL.handles (Pane State)) : Handled State :=
  match event with
  | .window event => handleWindowEvent desktop smallSize event session
  | .otherWindow _ => ⟨session, none, false⟩
  | .aboutToWait =>
    let asked := if session.wantsTick then session.state.act desktop.requestRedraw
      else session.state
    ⟨{ session with state := asked.act desktop.waitForEvents }, none, false⟩
  | .exiting => ⟨session.release (Pane.rig desktop smallSize), none, false⟩

end Window

end LiveShader

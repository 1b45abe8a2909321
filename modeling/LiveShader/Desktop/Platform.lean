import LiveShader.Desktop.Context
import LiveShader.OpenGL.EntryPoints

/-!
# The desktop

What a desktop does for a window: it opens a display with a window and a context of OpenGL, tells
and changes the window's size, shows frames, and runs an event loop. Like a driver, a desktop is
known by its answers. Things that can fail answer with the reason.
-/
namespace LiveShader

/-- The services of a desktop, each from a state and with the state after it. -/
structure Desktop (State : Type) where
  createEventLoop : State → Option String × State
  /-- The sample counts of the configurations that the display offers. -/
  openDisplay : State → Except String (List Nat) × State
  /-- Takes a configuration by its place, with so many bits of alpha. -/
  chooseConfig : Nat → Nat → State → State
  /-- Opens a window of a title and size, or none. -/
  openWindow : String → Size → State → Bool × State
  createContext : Nat → ContextFlavour → State → Option String × State
  createSurface : Nat → Size → State → Option String × State
  makeCurrent : State → Option String × State
  setSwapInterval : Nat → State → Option String × State
  innerSize : State → Size
  resizeSurface : Size → State → State
  swapBuffers : State → Option String × State
  setFullscreen : Bool → State → State
  requestInnerSize : Size → State → State
  requestRedraw : State → State
  runLoop : State → Option String × State
  waitForEvents : State → State
  exitLoop : State → State
  gl : OpenGL.EntryPoints State

end LiveShader

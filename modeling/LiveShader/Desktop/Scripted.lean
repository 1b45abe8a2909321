import LiveShader.Desktop.Window
import LiveShader.OpenGL.Scripted

/-!
# A scripted desktop

A desktop whose answers are written down beforehand: what fails and with which reason, which
configurations are offered, and which size a window has. It keeps a list of all calls, those of its
context of OpenGL among them.
-/
namespace LiveShader.ScriptedDesktop

/-- What fails, and the reason. -/
structure Failures where
  eventLoop : Option String
  display : Option String
  gles : Option String
  desktop : Option String
  surface : Option String
  current : Option String
  vsync : Option String
  swap : Option String
  run : Option String

/-- A desktop on which nothing fails. -/
def Failures.none : Failures :=
  ⟨.none, .none, .none, .none, .none, .none, .none, .none, .none⟩

/-- A call of the desktop or of its context. -/
inductive Call where
  | gl (call : OpenGL.Call)
  | config (place alpha : Nat)
  | openWindow (size : Size) (title : String)
  | createContext (config : Nat) (flavour : ContextFlavour)
  | createSurface (config : Nat) (size : Size)
  | makeCurrent
  | setSwapInterval (interval : Nat)
  | resizeSurface (size : Size)
  | swapBuffers
  | setFullscreen (borderless : Bool)
  | requestInnerSize (size : Size)
  | requestRedraw
  | waitForEvents
  | exitLoop

/-- What the desktop remembers. -/
structure Memory where
  failures : Failures
  samples : List Nat
  hasWindow : Bool
  /-- The size that the window gets whatever is asked for. -/
  forcedSize : Option Size
  size : Size
  context : OpenGL.Context
  /-- The calls, the latest first. -/
  calls : List Call

/-- Writes a call down. -/
def record (call : Call) (memory : Memory) : Memory :=
  { memory with calls := call :: memory.calls }

/-- Writes a call down and answers with the reason why it fails, if it does. -/
def attempt (call : Call) (reason : Failures → Option String) (memory : Memory) :
    Option String × Memory :=
  (reason memory.failures, record call memory)

/-- The desktop over its memory. -/
def desktop : Desktop Memory :=
  { createEventLoop := fun memory => (memory.failures.eventLoop, memory)
    openDisplay := fun memory =>
      match memory.failures.display with
      | some reason => (.error reason, memory)
      | none => (.ok memory.samples, memory)
    chooseConfig := fun place alpha => record (.config place alpha)
    openWindow := fun title size memory =>
      if memory.hasWindow then
        (true, record (.openWindow size title)
          { memory with size := memory.forcedSize.getD size })
      else (false, memory)
    createContext := fun config flavour =>
      attempt (.createContext config flavour) fun failures =>
        match flavour with
        | .gles => failures.gles
        | .desktop => failures.desktop
    createSurface := fun config size => attempt (.createSurface config size) (·.surface)
    makeCurrent := fun memory =>
      match memory.failures.current with
      | some reason => (some reason, memory)
      | none => (none, record .makeCurrent memory)
    setSwapInterval := fun interval => attempt (.setSwapInterval interval) (·.vsync)
    innerSize := (·.size)
    resizeSurface := fun size => record (.resizeSurface size)
    swapBuffers := attempt .swapBuffers (·.swap)
    setFullscreen := fun borderless => record (.setFullscreen borderless)
    requestInnerSize := fun size => record (.requestInnerSize size)
    requestRedraw := record .requestRedraw
    runLoop := fun memory => (memory.failures.run, memory)
    waitForEvents := record .waitForEvents
    exitLoop := record .exitLoop
    gl := OpenGL.Context.entryPoints.watched (·.context)
      (fun context memory => { memory with context }) (fun call => record (.gl call))
      fun _ memory => memory }

end LiveShader.ScriptedDesktop

import LiveShader.Graphics.Driver
import LiveShader.Headless.Source

/-!
# A driver without a screen

A driver that keeps stages, programs and uploads in memory, and a canvas that only counts. Handles
are numbers, which count up over stages, programs and quads together. Uploads can be told to fail
by name.
-/
namespace LiveShader.Headless

/-- The handles of the driver; a location is the uniform's name. -/
abbrev handles : Handles := ⟨Nat, Nat, Nat, String⟩

/-- A compiled stage. -/
structure CompiledStage where
  uniforms : List ActiveUniform
  failsToLink : Bool

/-- An accepted upload. -/
structure Upload where
  name : String
  shape : Shape
  values : List Float32

/-- What the driver remembers. -/
structure Memory where
  /-- The last handle that was given out, and 0 before the first. It is counted without a limit,
  where the counter of such a driver has 32 bits: handles are only ever compared, and no log, no
  reply and no frame shows one, so nothing depends on the number but that it is new. -/
  lastHandle : Nat
  stages : List (Nat × CompiledStage)
  programs : List (Nat × List ActiveUniform)
  current : Option Nat
  quads : Nat
  /-- The accepted uploads, the latest first. -/
  uploads : List Upload
  rejected : List String
  viewport : Size
  clears : Nat
  draws : Nat

/-- The memory of a driver that has not been called. -/
def Memory.initial : Memory := ⟨0, [], [], none, 0, [], [], ⟨0, 0⟩, 0, 0⟩

/-- Makes all uploads to a name fail. -/
def Memory.rejectUploads (memory : Memory) (name : String) : Memory :=
  { memory with rejected := name :: memory.rejected }

/-- Compiles a stage, unless one of its lines holds an `#error`. -/
def compileStage (source : String) (memory : Memory) : Except String Nat × Memory :=
  let sourceLines := Text.lines source.toList
  match firstError? 1 sourceLines with
  | some (number, line) => (.error (errorLog number line), memory)
  | none =>
    let handle := memory.lastHandle + 1
    let stage : CompiledStage :=
      ⟨activeUniforms sourceLines, Text.stringHolds "// link-error" source⟩
    (.ok handle,
      { memory with lastHandle := handle, stages := memory.stages ++ [(handle, stage)] })

/-- The uniforms of two stages; one that both declare is the first stage's. -/
def joinUniforms (vertex fragment : List ActiveUniform) : List ActiveUniform :=
  fragment.foldl (fun known uniform =>
    if known.any fun other => other.name == uniform.name then known else known ++ [uniform]) vertex

/-- Links two stages that are still there. -/
def link (vertex fragment : Nat) (memory : Memory) : Except String Nat × Memory :=
  match memory.stages.lookup vertex, memory.stages.lookup fragment with
  | some vertexStage, some fragmentStage =>
    if vertexStage.failsToLink || fragmentStage.failsToLink then
      (.error "error: fragment shader output not consumed", memory)
    else
      let handle := memory.lastHandle + 1
      let uniforms := joinUniforms vertexStage.uniforms fragmentStage.uniforms
      (.ok handle,
        { memory with lastHandle := handle, programs := memory.programs ++ [(handle, uniforms)] })
  | _, _ => (.error "error: attempt to link a released shader", memory)

/-- The entries of a list without those of a key. -/
def without {α : Type} (key : Nat) (entries : List (Nat × α)) : List (Nat × α) :=
  entries.filter fun entry => entry.1 != key

/-- Forgets a program; if it was bound, none is. -/
def releaseProgram (program : Nat) (memory : Memory) : Memory :=
  { memory with
    programs := without program memory.programs
    current := if memory.current = some program then none else memory.current }

/-- The uniforms of a program, and none of a program that is gone. -/
def uniformsOf (program : Nat) (memory : Memory) : List ActiveUniform :=
  (memory.programs.lookup program).getD []

/-- The location of a uniform, which is its name without the suffix of arrays. -/
def locate (program : Nat) (name : String) (memory : Memory) : Option String :=
  if (uniformsOf program memory).any fun uniform => uniform.name == name then
    some (String.ofList (Text.dropBacks "[0]".toList name.toList))
  else none

/-- Accepts whole elements, unless the name was told to fail. -/
def upload (location : String) (shape : Shape) (values : List Float32) (memory : Memory) :
    Except UploadError Unit × Memory :=
  match checkShape shape values.length with
  | .error mismatch => (.error mismatch, memory)
  | .ok () =>
    if memory.rejected.contains location then (.error (.driver 0x0502), memory)
    else (.ok (), { memory with uploads := ⟨location, shape, values⟩ :: memory.uploads })

/-- The driver over its memory. -/
def driver : Driver handles Memory :=
  { compileStage := fun _ => compileStage
    releaseStage := fun stage memory =>
      { memory with stages := without stage memory.stages }
    link
    releaseProgram
    useProgram := fun program memory => { memory with current := some program }
    activeUniforms := fun program memory => (uniformsOf program memory, memory)
    uniformLocation := fun program name memory => (locate program name memory, memory)
    upload
    createQuad := fun memory =>
      (.ok (memory.lastHandle + 1),
        { memory with lastHandle := memory.lastHandle + 1, quads := memory.quads + 1 })
    releaseQuad := fun _ memory => { memory with quads := memory.quads - 1 }
    setViewport := fun size memory => { memory with viewport := size }
    beginFrame := fun program _ memory =>
      { memory with clears := memory.clears + 1, current := some program }
    drawQuad := fun memory => { memory with draws := memory.draws + 1 } }

/-- What the canvas remembers. -/
structure Surface where
  client : Size
  drawable : Size
  /-- The presentations asked for, the oldest first. -/
  presentations : List Presentation
  presents : Nat

/-- A surface of a size that nothing was asked of. -/
def Surface.sized (size : Size) : Surface := ⟨size, size, [], 0⟩

/-- The canvas over its memory. -/
def canvas : Canvas Surface :=
  { clientSize := (·.client)
    drawableSize := (·.drawable)
    resizeDrawable := fun size surface => { surface with drawable := size }
    setPresentation := fun mode surface =>
      { surface with presentations := surface.presentations ++ [mode] }
    present := fun surface => (none, { surface with presents := surface.presents + 1 }) }

/-- The driver and the canvas together. -/
def rig : Rig handles (Memory × Surface) := Rig.pair driver canvas

end LiveShader.Headless

import LiveShader.Graphics.Driver

/-!
# Scripted drivers

A script says how the next builds end and which uniforms the next programs have. A driver that
follows a script shows how a session takes the answers of drivers that no source text explains:
logs of any kind, uniforms without a location, arrays of any size.
-/
namespace LiveShader

/-- A uniform of a scripted program. -/
structure ScriptedUniform where
  name : String
  type : UniformType
  size : Int
  /-- Whether the driver tells where it is. -/
  located : Bool

/-- How a driver answers until it is given another script. -/
structure Script where
  vertexError : Option String
  fragmentError : Option String
  linkError : Option String
  quadError : Option String
  uniforms : List ScriptedUniform

namespace Script

/-- The script in which all succeeds and no program has uniforms. -/
def plain : Script := ⟨none, none, none, none, []⟩

/-- The log with which a stage fails. -/
def stageError (script : Script) : Stage → Option String
  | .vertex => script.vertexError
  | .fragment => script.fragmentError

/-- The first uniform of a name, with its place in the list. -/
def find? (name : String) (uniforms : List ScriptedUniform) : Option (Nat × ScriptedUniform) :=
  go 0 uniforms
where
  go (place : Nat) : List ScriptedUniform → Option (Nat × ScriptedUniform)
    | [] => none
    | uniform :: rest => if uniform.name = name then some (place, uniform) else go (place + 1) rest

end Script

namespace Scripted

/-- The handles of the driver; a location is a program and a name. -/
abbrev handles : Handles := ⟨Nat, Nat, Nat, Nat × String⟩

/-- What the driver remembers. A program keeps the uniforms of the script it was linked under. -/
structure Memory where
  script : Script
  lastHandle : Nat
  programs : List (Nat × List ScriptedUniform)
  rejected : List String

/-- The memory of a driver that has not been called. -/
def Memory.initial : Memory := ⟨.plain, 0, [], []⟩

/-- A new handle, unless the script has an error for it. -/
def allocate (error : Option String) (memory : Memory) : Except String Nat × Memory :=
  match error with
  | some log => (.error log, memory)
  | none => (.ok (memory.lastHandle + 1), { memory with lastHandle := memory.lastHandle + 1 })

/-- The uniforms of a program. -/
def uniformsOf (program : Nat) (memory : Memory) : List ScriptedUniform :=
  (memory.programs.lookup program).getD []

/-- Links two stages; the program takes the uniforms of the script along. -/
def link (_vertex _fragment : Nat) (memory : Memory) : Except String Nat × Memory :=
  match allocate memory.script.linkError memory with
  | (.error log, memory) => (.error log, memory)
  | (.ok program, memory) =>
    (.ok program,
      { memory with programs := memory.programs ++ [(program, memory.script.uniforms)] })

/-- The location of the first uniform of a name, if the script gives it one. -/
def locate (program : Nat) (name : String) (memory : Memory) : Option (Nat × String) :=
  match Script.find? name (uniformsOf program memory) with
  | some (_, uniform) => if uniform.located then some (program, name) else none
  | none => none

/-- Accepts whole elements, unless the name was told to fail. -/
def upload (location : Nat × String) (shape : Shape) (values : List Float32) (memory : Memory) :
    Except UploadError Unit × Memory :=
  match checkShape shape values.length with
  | .error mismatch => (.error mismatch, memory)
  | .ok () =>
    (if memory.rejected.contains location.2 then .error (.driver 0x0502) else .ok (), memory)

/-- The driver that follows the script. -/
def driver : Driver handles Memory :=
  { compileStage := fun stage _ memory => allocate (memory.script.stageError stage) memory
    releaseStage := fun _ memory => memory
    link
    releaseProgram := fun _ memory => memory
    useProgram := fun _ memory => memory
    activeUniforms := fun program memory =>
      ((uniformsOf program memory).map fun uniform =>
        ⟨uniform.name, uniform.type, uniform.size⟩, memory)
    uniformLocation := fun program name memory => (locate program name memory, memory)
    upload
    createQuad := fun memory => allocate memory.script.quadError memory
    releaseQuad := fun _ memory => memory
    setViewport := fun _ memory => memory
    beginFrame := fun _ _ memory => memory
    drawQuad := fun memory => memory }

end Scripted

end LiveShader

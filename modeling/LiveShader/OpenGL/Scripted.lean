import LiveShader.Graphics.Scripted
import LiveShader.OpenGL.EntryPoints

/-!
# A context that follows a script

Entry points that answer from a script, with a queue of errors that can be filled from outside. A
program keeps the script that was followed when it was created. What a location stood for stays
known after its program is deleted, so that a list of calls can be read later.
-/
namespace LiveShader.OpenGL

/-- What the context remembers. -/
structure Context where
  script : Script
  lastName : Nat
  shaders : List (Nat × Stage)
  programs : List (Nat × Script)
  /-- The errors to be reported, the oldest first. -/
  errors : List UInt32
  rejected : List String

namespace Context

/-- A context that has not been called. -/
def initial : Context := ⟨.plain, 0, [], [], [], []⟩

/-- The next name. -/
def allocate (context : Context) : Except String Nat × Context :=
  (.ok (context.lastName + 1), { context with lastName := context.lastName + 1 })

/-- Creates a shader of a stage. -/
def createShader (kind : UInt32) (context : Context) : Except String Nat × Context :=
  let name := context.lastName + 1
  let stage := if kind = vertexShader then Stage.vertex else Stage.fragment
  (.ok name, { context with lastName := name, shaders := context.shaders ++ [(name, stage)] })

/-- Creates a program that keeps the script. -/
def createProgram (context : Context) : Except String Nat × Context :=
  let name := context.lastName + 1
  (.ok name,
    { context with lastName := name, programs := context.programs ++ [(name, context.script)] })

/-- The log of a shader that does not compile. -/
def shaderError (context : Context) (shader : Nat) : Option String :=
  (context.shaders.lookup shader).bind context.script.stageError

/-- The script of a program. -/
def scriptOf (context : Context) (program : Nat) : Script :=
  (context.programs.lookup program).getD .plain

/-- Names of uniforms and their codes as the context describes them. -/
def uniformInfo (uniform : ScriptedUniform) : UniformInfo :=
  let code := match uniform.type with
    | .float => floatCode
    | .vec2 => 0x8B50
    | .vec3 => 0x8B51
    | .vec4 => 0x8B52
    | .other code => code
  ⟨uniform.name, code, uniform.size⟩

/-- The location of the first uniform of a name: ten times the program plus the place. -/
def locate (context : Context) (program : Nat) (name : String) : Option Int :=
  match Script.find? name (context.scriptOf program).uniforms with
  | some (place, uniform) => if uniform.located then some (10 * program + place : Nat) else none
  | none => none

/-- Whether a location is, in some program, that of the first uniform of a name. -/
def isLocationOf (context : Context) (name : String) (location : Int) : Bool :=
  context.programs.any fun (program, script) =>
    match Script.find? name script.uniforms with
    | some (place, _) => location == (10 * program + place : Nat)
    | none => false

/-- Whether a location belongs to a rejected uniform. -/
def rejects (context : Context) (location : Int) : Bool :=
  context.rejected.any fun name => context.isLocationOf name location

/-- Adds an error to the queue. -/
def raise (code : UInt32) (context : Context) : Context :=
  { context with errors := context.errors ++ [code] }

/-- The oldest error of the queue, or none. -/
def takeError (context : Context) : UInt32 × Context :=
  match context.errors with
  | [] => (noError, context)
  | code :: rest => (code, { context with errors := rest })

/-- The entry points of the context. -/
def entryPoints : EntryPoints Context :=
  { createShader
    shaderSource := fun _ _ context => context
    compileShader := fun _ context => context
    shaderCompiled := fun shader context => ((context.shaderError shader).isNone, context)
    shaderLog := fun shader context => ((context.shaderError shader).getD "", context)
    deleteShader := fun shader context =>
      { context with shaders := context.shaders.filter fun entry => entry.1 != shader }
    createProgram
    attachShader := fun _ _ context => context
    detachShader := fun _ _ context => context
    linkProgram := fun _ context => context
    programLinked := fun program context =>
      ((context.scriptOf program).linkError.isNone, context)
    programLog := fun program context =>
      ((context.scriptOf program).linkError.getD "", context)
    deleteProgram := fun _ context => context
    useProgram := fun _ context => context
    activeUniforms := fun program context =>
      ((context.scriptOf program).uniforms.map uniformInfo, context)
    uniformLocation := fun program name context => (context.locate program name, context)
    getError := takeError
    uniformValues := fun _ location _ context =>
      if context.rejects location then context.raise invalidOperation else context
    createBuffer := allocate
    bindBuffer := fun _ _ context => context
    bufferData := fun _ _ _ context => context
    deleteBuffer := fun _ context => context
    createVertexArray := allocate
    bindVertexArray := fun _ context => context
    enableAttribute := fun _ context => context
    attributePointer := fun _ _ _ _ _ _ context => context
    deleteVertexArray := fun _ context => context
    viewport := fun _ _ _ _ context => context
    clearColor := fun _ _ _ _ context => context
    clear := fun _ context => context
    drawArrays := fun _ _ _ context => context }

end Context

/-- A context and the calls made to it, the latest first. -/
structure CalledContext where
  context : Context
  calls : List Call

/-- The entry points of a context that write their calls down. -/
def CalledContext.entryPoints : EntryPoints CalledContext :=
  Context.entryPoints.watched CalledContext.context (fun context called => { called with context })
    (fun call called => { called with calls := call :: called.calls }) fun _ called => called

end LiveShader.OpenGL

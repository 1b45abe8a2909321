import LiveShader.Graphics.Driver
import LiveShader.OpenGL.EntryPoints

/-!
# OpenGL as a driver

The driver that a context of OpenGL makes. Objects that a failed build leaves half made are deleted
before the failure is answered. An upload first empties the queue of errors, at most sixteen of
them, so that the error it asks for afterwards is its own; a context that reports errors without
end costs no more than that.
-/
namespace LiveShader.OpenGL

/-- The array of vertices of the picture's corners, and the buffer that holds them. -/
structure QuadGeometry where
  vertexArray : Nat
  buffer : Nat

/-- The handles of the driver. -/
abbrev handles : Handles := ⟨Nat, Nat, QuadGeometry, Int⟩

/-- The corners of the picture as a strip of triangles. -/
def quadCorners : List Float32 := [-1, -1, 1, -1, -1, 1, 1, 1]

/-- The four bytes of a number, the lowest first. -/
def bytesOf (value : Float32) : List UInt8 :=
  let bits := value.toBits
  [bits.toUInt8, (bits >>> 8).toUInt8, (bits >>> 16).toUInt8, (bits >>> 24).toUInt8]

/-- How many errors of earlier calls an upload takes off the queue. -/
def staleErrorLimit : Nat := 16

/-- The type that a code stands for. -/
def typeOfCode (code : UInt32) : UniformType :=
  if code = floatCode then .float
  else if code = 0x8B50 then .vec2
  else if code = 0x8B51 then .vec3
  else if code = 0x8B52 then .vec4
  else .other code

/-- The code for shaders of a stage. -/
def kindOf : Stage → UInt32
  | .vertex => vertexShader
  | .fragment => fragmentShader

variable {State : Type}

/-- Compiles a stage; a shader that does not compile is deleted. -/
def compileStage (gl : EntryPoints State) (stage : Stage) (source : String) (state : State) :
    Except String Nat × State :=
  match gl.createShader (kindOf stage) state with
  | (.error log, state) => (.error log, state)
  | (.ok shader, state) =>
    let state := gl.compileShader shader (gl.shaderSource shader source state)
    match gl.shaderCompiled shader state with
    | (true, state) => (.ok shader, state)
    | (false, state) =>
      let (log, state) := gl.shaderLog shader state
      (.error log, gl.deleteShader shader state)

/-- Links two stages; a program that does not link is deleted. -/
def link (gl : EntryPoints State) (vertex fragment : Nat) (state : State) :
    Except String Nat × State :=
  match gl.createProgram state with
  | (.error log, state) => (.error log, state)
  | (.ok program, state) =>
    let state := gl.attachShader program fragment (gl.attachShader program vertex state)
    match gl.programLinked program (gl.linkProgram program state) with
    | (true, state) =>
      (.ok program, gl.detachShader program fragment (gl.detachShader program vertex state))
    | (false, state) =>
      let (log, state) := gl.programLog program state
      (.error log, gl.deleteProgram program state)

/-- Takes errors off the queue until none is left, at most so many. -/
def drainErrors (gl : EntryPoints State) : Nat → State → State
  | 0, state => state
  | bound + 1, state =>
    let (code, state) := gl.getError state
    if code = noError then state else drainErrors gl bound state

/-- Uploads whole elements and asks for the error of just this call. -/
def upload (gl : EntryPoints State) (location : Int) (shape : Shape) (values : List Float32)
    (state : State) : Except UploadError Unit × State :=
  match checkShape shape values.length with
  | .error mismatch => (.error mismatch, state)
  | .ok () =>
    let state := drainErrors gl staleErrorLimit state
    let (code, state) := gl.getError (gl.uniformValues shape.components location values state)
    (if code = noError then .ok () else .error (.driver code), state)

/-- Creates the corners of the picture; without an array of vertices the buffer is deleted. -/
def createQuad (gl : EntryPoints State) (state : State) : Except String QuadGeometry × State :=
  match gl.createBuffer state with
  | (.error log, state) => (.error log, state)
  | (.ok buffer, state) =>
    let state := gl.bufferData arrayBuffer (quadCorners.flatMap bytesOf) staticDraw
      (gl.bindBuffer arrayBuffer buffer state)
    match gl.createVertexArray state with
    | (.error log, state) => (.error log, gl.deleteBuffer buffer state)
    | (.ok vertexArray, state) =>
      let state := gl.enableAttribute 0 (gl.bindVertexArray vertexArray state)
      (.ok ⟨vertexArray, buffer⟩, gl.attributePointer 0 2 floatCode false 0 0 state)

/-- The driver over a context. -/
def driver (gl : EntryPoints State) : Driver handles State :=
  { compileStage := compileStage gl
    releaseStage := gl.deleteShader
    link := link gl
    releaseProgram := gl.deleteProgram
    useProgram := gl.useProgram
    activeUniforms := fun program state =>
      let (infos, state) := gl.activeUniforms program state
      (infos.map fun info => ⟨info.name, typeOfCode info.code, info.size⟩, state)
    uniformLocation := gl.uniformLocation
    upload := upload gl
    createQuad := createQuad gl
    releaseQuad := fun quad state =>
      gl.deleteBuffer quad.buffer (gl.deleteVertexArray quad.vertexArray state)
    setViewport := fun size =>
      gl.viewport 0 0 size.width.toInt32.toInt size.height.toInt32.toInt
    beginFrame := fun program quad state =>
      let cleared := gl.clear colorBit (gl.clearColor 0 0 0 0 state)
      gl.bindVertexArray quad.vertexArray (gl.useProgram program cleared)
    drawQuad := gl.drawArrays triangleStrip 0 4 }

end LiveShader.OpenGL

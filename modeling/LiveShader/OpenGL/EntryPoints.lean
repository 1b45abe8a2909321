/-!
# Entry points of OpenGL

The functions of an OpenGL context that the binding calls. Like a driver, a context is known by
its answers, each given from a state of its own. A trace holds the calls that change something and
every query for an error; plain queries stand apart from it.
-/
namespace LiveShader.OpenGL

/-- The codes that the binding passes and receives. -/
def noError : UInt32 := 0
/-- The shader of the vertex stage. -/
def vertexShader : UInt32 := 0x8B31
/-- The shader of the fragment stage. -/
def fragmentShader : UInt32 := 0x8B30
/-- The buffer of vertices. -/
def arrayBuffer : UInt32 := 0x8892
/-- Data that is written once and drawn often. -/
def staticDraw : UInt32 := 0x88E4
/-- A 32-bit floating-point number. -/
def floatCode : UInt32 := 0x1406
/-- The colours of the picture. -/
def colorBit : UInt32 := 0x4000
/-- Triangles that share edges. -/
def triangleStrip : UInt32 := 0x0005
/-- A call that the state of the context does not allow. -/
def invalidOperation : UInt32 := 0x0502

/-- A uniform as a context describes it. -/
structure UniformInfo where
  name : String
  code : UInt32
  size : Int

/-- The functions of a context. Objects are named by numbers, uniforms by integers. -/
structure EntryPoints (State : Type) where
  createShader : UInt32 → State → Except String Nat × State
  shaderSource : Nat → String → State → State
  compileShader : Nat → State → State
  shaderCompiled : Nat → State → Bool × State
  shaderLog : Nat → State → String × State
  deleteShader : Nat → State → State
  createProgram : State → Except String Nat × State
  attachShader : Nat → Nat → State → State
  detachShader : Nat → Nat → State → State
  linkProgram : Nat → State → State
  programLinked : Nat → State → Bool × State
  programLog : Nat → State → String × State
  deleteProgram : Nat → State → State
  useProgram : Nat → State → State
  activeUniforms : Nat → State → List UniformInfo × State
  uniformLocation : Nat → String → State → Option Int × State
  getError : State → UInt32 × State
  /-- Sets values of a uniform; the number is the values per element. -/
  uniformValues : Nat → Int → List Float32 → State → State
  createBuffer : State → Except String Nat × State
  bindBuffer : UInt32 → Nat → State → State
  bufferData : UInt32 → List UInt8 → UInt32 → State → State
  deleteBuffer : Nat → State → State
  createVertexArray : State → Except String Nat × State
  bindVertexArray : Nat → State → State
  enableAttribute : Nat → State → State
  /-- Index, values per vertex, type, whether normalised, stride and offset. -/
  attributePointer : Nat → Nat → UInt32 → Bool → Nat → Nat → State → State
  deleteVertexArray : Nat → State → State
  viewport : Int → Int → Int → Int → State → State
  clearColor : Float32 → Float32 → Float32 → Float32 → State → State
  clear : UInt32 → State → State
  drawArrays : UInt32 → Nat → Nat → State → State

/-- A call of a context, with its answer where it has one. -/
inductive Call where
  | createShader (kind : UInt32) (answer : Except String Nat)
  | shaderSource (shader : Nat) (source : String)
  | compileShader (shader : Nat)
  | deleteShader (shader : Nat)
  | createProgram (answer : Except String Nat)
  | attachShader (program shader : Nat)
  | detachShader (program shader : Nat)
  | linkProgram (program : Nat)
  | deleteProgram (program : Nat)
  | useProgram (program : Nat)
  | getError (answer : UInt32)
  | uniformValues (width : Nat) (location : Int) (values : List Float32)
  | createBuffer (answer : Except String Nat)
  | bindBuffer (target : UInt32) (buffer : Nat)
  | bufferData (target : UInt32) (bytes : List UInt8) (usage : UInt32)
  | deleteBuffer (buffer : Nat)
  | createVertexArray (answer : Except String Nat)
  | bindVertexArray (vertexArray : Nat)
  | enableAttribute (index : Nat)
  | attributePointer (index size : Nat) (type : UInt32) (normalized : Bool) (stride offset : Nat)
  | deleteVertexArray (vertexArray : Nat)
  | viewport (x y width height : Int)
  | clearColor (red green blue alpha : Float32)
  | clear (mask : UInt32)
  | drawArrays (mode : UInt32) (first count : Nat)

/-- A plain query, by the object it is about. -/
inductive Query where
  | shader (shader : Nat)
  | program (program : Nat)

/-- Lets a context act on one part of a larger state, which is also told of each call and of each
plain query. -/
def EntryPoints.watched {Part Whole : Type} (gl : EntryPoints Part)
    (part : Whole → Part) (replace : Part → Whole → Whole) (log : Call → Whole → Whole)
    (look : Query → Whole → Whole) : EntryPoints Whole :=
  let query {Answer : Type} (entry : Query) (call : Part → Answer × Part) (whole : Whole) :
      Answer × Whole :=
    let (answer, changed) := call (part whole)
    (answer, look entry (replace changed whole))
  let ask {Answer : Type} (entry : Answer → Call) (call : Part → Answer × Part) (whole : Whole) :
      Answer × Whole :=
    let (answer, changed) := call (part whole)
    (answer, log (entry answer) (replace changed whole))
  let tell (entry : Call) (call : Part → Part) (whole : Whole) : Whole :=
    log entry (replace (call (part whole)) whole)
  { createShader := fun kind => ask (.createShader kind) (gl.createShader kind)
    shaderSource := fun shader source =>
      tell (.shaderSource shader source) (gl.shaderSource shader source)
    compileShader := fun shader => tell (.compileShader shader) (gl.compileShader shader)
    shaderCompiled := fun shader => query (.shader shader) (gl.shaderCompiled shader)
    shaderLog := fun shader => query (.shader shader) (gl.shaderLog shader)
    deleteShader := fun shader => tell (.deleteShader shader) (gl.deleteShader shader)
    createProgram := ask .createProgram gl.createProgram
    attachShader := fun program shader =>
      tell (.attachShader program shader) (gl.attachShader program shader)
    detachShader := fun program shader =>
      tell (.detachShader program shader) (gl.detachShader program shader)
    linkProgram := fun program => tell (.linkProgram program) (gl.linkProgram program)
    programLinked := fun program => query (.program program) (gl.programLinked program)
    programLog := fun program => query (.program program) (gl.programLog program)
    deleteProgram := fun program => tell (.deleteProgram program) (gl.deleteProgram program)
    useProgram := fun program => tell (.useProgram program) (gl.useProgram program)
    activeUniforms := fun program => query (.program program) (gl.activeUniforms program)
    uniformLocation := fun program name =>
      query (.program program) (gl.uniformLocation program name)
    getError := ask .getError gl.getError
    uniformValues := fun width location values =>
      tell (.uniformValues width location values) (gl.uniformValues width location values)
    createBuffer := ask .createBuffer gl.createBuffer
    bindBuffer := fun target buffer =>
      tell (.bindBuffer target buffer) (gl.bindBuffer target buffer)
    bufferData := fun target bytes usage =>
      tell (.bufferData target bytes usage) (gl.bufferData target bytes usage)
    deleteBuffer := fun buffer => tell (.deleteBuffer buffer) (gl.deleteBuffer buffer)
    createVertexArray := ask .createVertexArray gl.createVertexArray
    bindVertexArray := fun vertexArray =>
      tell (.bindVertexArray vertexArray) (gl.bindVertexArray vertexArray)
    enableAttribute := fun index => tell (.enableAttribute index) (gl.enableAttribute index)
    attributePointer := fun index size type normalized stride offset =>
      tell (.attributePointer index size type normalized stride offset)
        (gl.attributePointer index size type normalized stride offset)
    deleteVertexArray := fun vertexArray =>
      tell (.deleteVertexArray vertexArray) (gl.deleteVertexArray vertexArray)
    viewport := fun x y width height =>
      tell (.viewport x y width height) (gl.viewport x y width height)
    clearColor := fun red green blue alpha =>
      tell (.clearColor red green blue alpha) (gl.clearColor red green blue alpha)
    clear := fun mask => tell (.clear mask) (gl.clear mask)
    drawArrays := fun mode first count =>
      tell (.drawArrays mode first count) (gl.drawArrays mode first count) }

end LiveShader.OpenGL

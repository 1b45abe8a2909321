import LiveShader.Text.Hexadecimal

/-!
# Shapes of uniforms

The types under which a driver reports uniforms, the shapes in which values are uploaded, and the
check that a list of values is a whole number of elements of a shape. Two names belong to the
runtime: hosts neither see nor set them.
-/
namespace LiveShader

/-- Seconds since the session started. -/
def timeUniform : String := "iTime"

/-- The size of the drawable surface in pixels. -/
def resolutionUniform : String := "iResolution"

/-- Whether the runtime computes a uniform itself. -/
def isReserved (name : String) : Bool :=
  name == timeUniform || name == resolutionUniform

/-- The type a driver reports for a uniform. -/
inductive UniformType where
  | float
  | vec2
  | vec3
  | vec4
  /-- Any other type, by its code. -/
  | other (code : UInt32)
  deriving DecidableEq

/-- How the values of a uniform are uploaded. -/
inductive Shape where
  | scalar
  | vec2
  | vec3
  | vec4
  deriving DecidableEq

namespace Shape

/-- Values per element. -/
def components : Shape → Nat
  | .scalar => 1
  | .vec2 => 2
  | .vec3 => 3
  | .vec4 => 4

/-- An element of any shape has a component. As a slot has one element at least, it has a component,
too, and the indices of a command can wrap around its values. -/
theorem components_pos (shape : Shape) : 0 < shape.components := by
  cases shape <;> decide

/-- The shape for a reported type. What is no float or vector of floats is uploaded as a scalar. -/
def ofType : UniformType → Shape
  | .vec2 => .vec2
  | .vec3 => .vec3
  | .vec4 => .vec4
  | .float | .other _ => .scalar

/-- The word for a shape. -/
def name : Shape → String
  | .scalar => "scalar"
  | .vec2 => "vec2"
  | .vec3 => "vec3"
  | .vec4 => "vec4"

end Shape

/-- A uniform as the driver reports it: arrays carry `[0]` behind the name, and the size is the
declared number of elements. -/
structure ActiveUniform where
  name : String
  type : UniformType
  size : Int
  deriving DecidableEq

/-- Why an upload was refused. -/
inductive UploadError where
  /-- The values are no whole number of elements. -/
  | shapeMismatch (components length : Nat)
  /-- The driver reported an error. -/
  | driver (code : UInt32)
  deriving DecidableEq

/-- A code in hexadecimal with at least four digits. -/
def hexCode (code : UInt32) : String := "0x" ++ Text.hexText 4 code.toNat

/-- The words for a refused upload. -/
def UploadError.message : UploadError → String
  | .shapeMismatch components length =>
    "expected a multiple of " ++ toString components ++ " values, got " ++ toString length
  | .driver code => "driver rejected upload (GL error " ++ hexCode code ++ ")"

/-- Whether a number of values can be uploaded in a shape: at least one element, and no part of
one left over. -/
def checkShape (shape : Shape) (length : Nat) : Except UploadError Unit :=
  if length = 0 ∨ length % shape.components ≠ 0 then
    .error (.shapeMismatch shape.components length)
  else .ok ()

end LiveShader

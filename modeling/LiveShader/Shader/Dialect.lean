/-!
# Stages, dialects and presentations

The two stages of the pipeline, the two flavours of the shading language, and the two ways the
picture is presented.
-/
namespace LiveShader

/-- A programmable stage of the pipeline. -/
inductive Stage where
  | vertex
  | fragment
  deriving DecidableEq

/-- The word for a stage. -/
def Stage.name : Stage → String
  | .vertex => "vertex"
  | .fragment => "fragment"

/-- A flavour of the shading language. -/
inductive Dialect where
  /-- The flavour of embedded systems and browsers. -/
  | gles300
  /-- The core flavour of desktop drivers. -/
  | glsl330
  deriving DecidableEq

/-- The line that announces a dialect to the driver. -/
def Dialect.versionLine : Dialect → String
  | .gles300 => "#version 300 es"
  | .glsl330 => "#version 330 core"

/-- How the picture is presented. -/
inductive Presentation where
  | fullscreen
  | small
  deriving DecidableEq

/-- The word for a presentation. -/
def Presentation.name : Presentation → String
  | .fullscreen => "fullscreen"
  | .small => "small"

/-- A width and a height in pixels. -/
structure Size where
  width : UInt32
  height : UInt32
  deriving DecidableEq

end LiveShader

import LiveShader.Shader.Dialect
import LiveShader.Text.Find

/-!
# The shader template

A user writes the body of a fragment shader. Eight lines go in front of it and a closing function
behind it, so the driver's line numbers are the user's plus eight. A comment in the body may ask
for a presentation.
-/
namespace LiveShader

/-- The lines in front of the user's source. -/
def headerLines (dialect : Dialect) : List String :=
  [dialect.versionLine,
   "precision highp float;",
   "out vec4 oColor;",
   "uniform float iTime;",
   "uniform vec2 iResolution;",
   "",
   "#define SHADELIVE 1",
   ""]

/-- How many lines stand in front of the user's source. -/
def headerSize : Nat := 8

/-- Both dialects have a header of as many lines, so one number translates the lines that a driver
counts to those of the source. -/
theorem length_header_lines (dialect : Dialect) : (headerLines dialect).length = headerSize := rfl

/-- The lines behind the user's source, which call the user's function for every pixel. -/
def footerLines : List String :=
  ["void main(void) \x7b",
   "  mainImage(oColor, gl_FragCoord.xy);",
   "\x7d"]

/-- Lines, each ended by a newline. -/
def joinLines (lines : List String) : String :=
  String.join (lines.map fun line => line ++ "\n")

/-- The complete fragment shader around the user's source. -/
def wrapFragment (source : String) (dialect : Dialect) : String :=
  joinLines (headerLines dialect) ++ (source ++ ("\n" ++ joinLines footerLines))

/-- The lines of the vertex shader. -/
def vertexLines (dialect : Dialect) : List String :=
  [dialect.versionLine,
   "precision highp float;",
   "layout(location=0) in vec2 position;",
   "void main() \x7b",
   "  gl_Position = vec4(position, 1.0, 1.0);",
   "\x7d"]

/-- The vertex shader, which passes the corners of the picture through. -/
def vertexSource (dialect : Dialect) : String := joinLines (vertexLines dialect)

/-- The presentation a source asks for. The request for the whole screen wins, wherever it
stands. -/
def sizeDirective? (source : String) : Option Presentation :=
  if Text.stringHolds "// size: fullscreen" source then some .fullscreen
  else if Text.stringHolds "// size: small" source then some .small
  else none

end LiveShader

import LiveShader.Shader.Dialect
import LiveShader.Text.Blank

/-!
# OpenGL contexts

The flavours of context that a window can draw with, and which of them a user accepts. A choice has
one word of its own, and typed choices may also use the words of other toolkits.
-/
namespace LiveShader

/-- A flavour of OpenGL context. -/
inductive ContextFlavour where
  /-- OpenGL ES 3.0. -/
  | gles
  /-- OpenGL 3.3 with the core profile. -/
  | desktop
  deriving DecidableEq

namespace ContextFlavour

/-- The dialect that a flavour understands. -/
def dialect : ContextFlavour → Dialect
  | .gles => .gles300
  | .desktop => .glsl330

/-- A version in the words of an error. -/
def versionWords (minor : String) : String :=
  "(Some(Version \x7b major: 3, minor: " ++ minor ++ " \x7d))"

/-- A flavour in the words of an error. -/
def words : ContextFlavour → String
  | .gles => "Gles" ++ versionWords "0"
  | .desktop => "OpenGl" ++ versionWords "3"

end ContextFlavour

/-- Which flavours a user accepts. -/
inductive ContextChoice where
  | auto
  | gles
  | desktop
  deriving DecidableEq

namespace ContextChoice

/-- The flavours of a choice, in the order in which they are tried. -/
def flavours : ContextChoice → List ContextFlavour
  | .auto => [.gles, .desktop]
  | .gles => [.gles]
  | .desktop => [.desktop]

/-- The word for a choice. -/
def name : ContextChoice → String
  | .auto => "auto"
  | .gles => "gles"
  | .desktop => "desktop"

/-- The choices by their words. -/
def all : List (String × ContextChoice) :=
  [("auto", .auto), ("gles", .gles), ("desktop", .desktop)]

/-- Why a typed choice is refused. -/
inductive WordFault where
  | blank
  | unknown (word : String)
  deriving DecidableEq

/-- The words for a refused choice. -/
def WordFault.message : WordFault → String
  | .blank => "dialect must not be empty"
  | .unknown word => s!"unknown dialect '{word}' (expected auto, gles, or desktop)"

/-- Reads a typed choice. Blanks around it and the case of ASCII letters do not count. -/
def ofTyped (text : String) : Except WordFault ContextChoice :=
  match Text.trim text.toList with
  | [] => .error .blank
  | trimmed =>
    let word := String.ofList (trimmed.map Char.toLower)
    match word with
    | "auto" => .ok .auto
    | "gles" | "es" | "webgl" => .ok .gles
    | "desktop" | "gl" | "core" => .ok .desktop
    | _ => .error (.unknown word)

end ContextChoice

end LiveShader

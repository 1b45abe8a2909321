import LiveShader.Config.Document
import LiveShader.Desktop.Proxy
import LiveShader.Files.Fault

/-!
# Why a run fails

Everything that can end the program with an error. An error has a text of its own and may have
causes, the nearest first; both are shown to the user.
-/
namespace LiveShader

/-- Why the program ends with an error. -/
inductive RunError where
  | noShader
  | unreadableConfig (path : String) (fault : ReadFault)
  | refusedConfig (path : String) (error : ConfigError)
  | unreadableShader (path : String) (fault : ReadFault)
  /-- The path of a shader that is to be watched leads nowhere. -/
  | unresolvedShader (path : String) (fault : ReadFault)
  /-- What is to be watched stands in no folder. -/
  | noFolder (path : String)
  | window (error : WindowError)
  | request (error : ProxyError)
  deriving DecidableEq

namespace RunError

/-- The words for an error. -/
def message : RunError → String
  | .noShader => "no shader given; pass a path to a fragment shader"
  | .unreadableConfig path _ => s!"failed to read config {path}"
  | .refusedConfig path _ => s!"failed to load config {path}"
  | .unreadableShader path _ => s!"failed to read shader {path}"
  | .unresolvedShader path _ => s!"failed to resolve {path}"
  | .noFolder path => s!"{path} has no parent directory"
  | .window error => error.message
  | .request error => error.message

/-- The words for the causes of an error, the nearest first. -/
def causes : RunError → List String
  | .unreadableConfig _ fault | .unreadableShader _ fault | .unresolvedShader _ fault =>
    [fault.message]
  | .refusedConfig _ .malformed =>
    ["failed to parse configuration: not a TOML document", "not a TOML document"]
  | .refusedConfig _ (.misfit misfit) =>
    ["failed to parse configuration: " ++ misfit.message, misfit.message]
  | .refusedConfig _ (.invalid fault) => [fault.message]
  | _ => []

/-- The lines of a text, the first behind one text and the others behind another. -/
def indented (first others text : String) : List String :=
  match Text.pieces (· == '\n') text.toList with
  | [] => [first]
  | line :: more => (first ++ String.ofList line) :: more.map (others ++ String.ofList ·)

/-- Causes as they are shown: one by itself, several with their numbers. -/
def causeLines : List String → List String
  | [] => []
  | [cause] => "" :: "Caused by:" :: indented "    " "    " cause
  | several =>
    "" :: "Caused by:" :: (several.mapIdx fun number cause =>
      indented s!"    {number}: " "       " cause).flatten

/-- The lines that the program ends with. -/
def report (error : RunError) : List String :=
  indented "Error: " "" error.message ++ causeLines error.causes

end RunError

end LiveShader

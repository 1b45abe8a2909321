import LiveShader.Graphics.Driver

/-!
# Building programs

A vertex and a fragment source become a linked program that is bound for drawing. The stages are
released whatever happens, and a stage that fails ends the build at once.
-/
namespace LiveShader

/-- Why no program was built. -/
inductive BuildError where
  | compile (stage : Stage) (log : String)
  | link (log : String)
  deriving DecidableEq

namespace BuildError

/-- The driver's log. -/
def log : BuildError → String
  | .compile _ log => log
  | .link log => log

/-- The words for a failed build. -/
def message : BuildError → String
  | .compile stage log => stage.name ++ " shader failed to compile: " ++ log
  | .link log => "program failed to link: " ++ log

end BuildError

/-- Compiles both stages, links them and binds the program. -/
def Driver.build {handles : Handles} {State : Type} (driver : Driver handles State)
    (vertexSource fragmentSource : String) (state : State) :
    Except BuildError handles.Program × State :=
  match driver.compileStage .vertex vertexSource state with
  | (.error log, state) => (.error (.compile .vertex log), state)
  | (.ok vertex, state) =>
    match driver.compileStage .fragment fragmentSource state with
    | (.error log, state) =>
      (.error (.compile .fragment log), driver.releaseStage vertex state)
    | (.ok fragment, state) =>
      let (linked, state) := driver.link vertex fragment state
      let state := driver.releaseStage fragment (driver.releaseStage vertex state)
      match linked with
      | .error log => (.error (.link log), state)
      | .ok program => (.ok program, driver.useProgram program state)

end LiveShader

import LiveShader.Launch.Run

/-!
# The program

The command line is read first. One that is not followed ends the program at once; otherwise a
shader is run or listed. How the program ends says which code it leaves, what it prints last and
what it complains about.
-/
namespace LiveShader

/-- How the program ends. -/
inductive Ending where
  /-- The command line is not followed. -/
  | refused (refusal : CommandLine.Refusal)
  /-- A shader has been listed. -/
  | listed (listing : String)
  /-- A shader has been run. -/
  | ran
  | failed (error : RunError)

namespace Ending

/-- The code that is left to the caller. Requests for help and for the version are answered, so
they are no failures. -/
def code : Ending → Nat
  | .refused .help | .refused .version | .listed _ | .ran => 0
  | .failed _ => 1
  | .refused _ => 2

/-- The answer to a request for the version. -/
def versionText : String := "shadelive 0.1.0\n"

/-- What is printed last. -/
def output : Ending → String
  | .refused .version => versionText
  | .listed listing => listing
  | _ => ""

/-- The lines of complaint at the end. -/
def complaints : Ending → List String
  | .failed error => error.report
  | _ => []

end Ending

/-- The whole program over its surroundings. -/
def Launch.program {m : Type → Type} [Monad m] (system : System m) (environment : Environment)
    (words : List String) : m Ending := do
  match CommandLine.read environment words with
  | .error refusal => pure (.refused refusal)
  | .ok (.wrap path context) =>
    match ← (Launch.wrap system.files path context).run with
    | .ok listing => pure (.listed listing)
    | .error error => pure (.failed error)
  | .ok (.run _ arguments) =>
    match ← (Launch.run system environment arguments).run with
    | .ok () => pure .ran
    | .error error => pure (.failed error)

end LiveShader

import LiveShader.Session.Basic

/-!
# Operations on a session

Everything that a host can do with a session once it is started, one operation at a time, and what
a session has become after any number of them. The surroundings need no operations of their own:
a canvas whose size changes meanwhile is one that answers differently from a later state.
-/
namespace LiveShader

/-- What a host does with a session. -/
inductive Operation where
  /-- Builds a source and shows it. -/
  | eval (source document : String)
  /-- Makes a request about the uniforms. -/
  | apply (command : Command)
  /-- Changes a component through a handle on its uniform, if there is one. -/
  | edit (name : String) (index : Nat) (edit : Edit Modifier)
  /-- Draws a scheduled frame. -/
  | tick
  /-- Draws a frame at once. -/
  | redraw
  /-- Fits everything to the size of the canvas. -/
  | resize
  /-- Chooses the presentation of the canvas. -/
  | present (presentation : Presentation)
  /-- Gives everything back to the driver. -/
  | release

/-- Whether an operation builds a source. -/
def Operation.evaluates : Operation → Bool
  | .eval _ _ => true
  | _ => false

/-- What a session answers to an operation. -/
inductive Answer where
  | outcome (outcome : EvalOutcome)
  | reply (reply : Reply)
  /-- Whether there was a handle on the uniform. -/
  | edited (held : Bool)
  /-- The state of the loop after the frame, if one was drawn. -/
  | drawn (state : Option LoopState)
  | done

namespace Session

variable {handles : Handles} {State : Type}

/-- Does one operation. -/
def perform (rig : Rig handles State) (session : Session handles State) :
    Operation → Answer × Session handles State
  | .eval source document =>
    let (outcome, session) := session.eval rig source document
    (.outcome outcome, session)
  | .apply command =>
    let (reply, session) := session.apply command
    (.reply reply, session)
  | .edit name index edit =>
    match session.edit? name index edit with
    | none => (.edited false, session)
    | some changed => (.edited true, changed)
  | .tick =>
    let (state, session) := session.tick rig
    (.drawn state, session)
  | .redraw =>
    let (state, session) := session.redraw rig
    (.drawn state, session)
  | .resize => (.done, session.resize rig)
  | .present presentation =>
    (.done, { session with state := rig.canvas.setPresentation presentation session.state })
  | .release => (.done, session.release rig)

/-- What a session has become after operations, the first of them done first. -/
def after (rig : Rig handles State) (session : Session handles State) :
    List Operation → Session handles State
  | [] => session
  | operation :: rest => (session.perform rig operation).2.after rig rest

end Session

end LiveShader

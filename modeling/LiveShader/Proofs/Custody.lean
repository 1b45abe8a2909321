import LiveShader.Proofs.Accounts
import LiveShader.Proofs.Operations

/-!
# Sessions and the objects behind their handles

Each handle of a driver stands for objects: a stage and a program for one each, a quad for one or
several. A rig keeps an account when every call adds to a list of events what the call does to the
objects behind the handles that it is given and answers. Nothing else is assumed of it, and
different rigs keep different accounts: of the handles themselves, or of what a driver does below
them.

Over any rig that keeps an account a session passes objects on without losing, doubling or
forgetting one: between operations it holds the program and the quad of its running shader and
nothing more, and that program is the one bound last. Each step of a build, a frame and a reload
is followed with the objects that it takes and leaves; the rest is composition.
-/
namespace LiveShader

variable {handles : Handles} {State Object : Type}

/-- The objects behind the handles of a driver. -/
structure Custody (handles : Handles) (Object : Type) where
  stage : handles.Stage → Object
  program : handles.Program → Object
  quad : handles.Quad → Multiset Object

namespace Custody

/-- The objects of a running shader. -/
def shader (custody : Custody handles Object) (shader : RunningShader handles) :
    Multiset Object :=
  {custody.program shader.program} + custody.quad shader.quad

/-- The objects of the running shader, if there is one. -/
def running (custody : Custody handles Object) : Option (RunningShader handles) → Multiset Object
  | none => 0
  | some shader => custody.shader shader

/-- The program that a running shader is drawn with. -/
def target (custody : Custody handles Object) (shader : Option (RunningShader handles)) :
    Option Object :=
  shader.map fun shader => custody.program shader.program

end Custody

/-- The objects that an answer hands out; a failure hands out none. -/
def granted {Handle : Type} (objects : Handle → Multiset Object) :
    Except String Handle → Multiset Object
  | .ok handle => objects handle
  | .error _ => 0

/-- The events between two states lead from the objects `held` to the objects `left`, and bind
`bound` last. -/
def Moves (events : State → List (ObjectEvent Object)) (held left : Multiset Object)
    (bound : Option Object) (before after : State) : Prop :=
  ∃ made, events after = events before ++ made ∧ Accounted held made left ∧
    lastBound made = bound

/-- Every call of a rig adds to the events what it does to the objects behind its handles. -/
structure Rig.KeepsAccount (rig : Rig handles State) (custody : Custody handles Object)
    (events : State → List (ObjectEvent Object)) : Prop where
  compileStage : ∀ stage source state,
    Moves events 0
      (granted (fun handle => {custody.stage handle})
        (rig.driver.compileStage stage source state).1)
      none state (rig.driver.compileStage stage source state).2
  releaseStage : ∀ stage state,
    Moves events {custody.stage stage} 0 none state (rig.driver.releaseStage stage state)
  link : ∀ vertex fragment state,
    Moves events ({custody.stage vertex} + {custody.stage fragment})
      ({custody.stage vertex} + {custody.stage fragment} +
        granted (fun handle => {custody.program handle})
          (rig.driver.link vertex fragment state).1)
      none state (rig.driver.link vertex fragment state).2
  releaseProgram : ∀ program state,
    Moves events {custody.program program} 0 none state (rig.driver.releaseProgram program state)
  useProgram : ∀ program state,
    Moves events {custody.program program} {custody.program program}
      (some (custody.program program)) state (rig.driver.useProgram program state)
  activeUniforms : ∀ program state,
    Moves events {custody.program program} {custody.program program} none state
      (rig.driver.activeUniforms program state).2
  uniformLocation : ∀ program name state,
    Moves events {custody.program program} {custody.program program} none state
      (rig.driver.uniformLocation program name state).2
  upload : ∀ location shape values state,
    Moves events 0 0 none state (rig.driver.upload location shape values state).2
  createQuad : ∀ state,
    Moves events 0 (granted custody.quad (rig.driver.createQuad state).1) none state
      (rig.driver.createQuad state).2
  releaseQuad : ∀ quad state,
    Moves events (custody.quad quad) 0 none state (rig.driver.releaseQuad quad state)
  setViewport : ∀ size state, Moves events 0 0 none state (rig.driver.setViewport size state)
  beginFrame : ∀ program quad state,
    Moves events ({custody.program program} + custody.quad quad)
      ({custody.program program} + custody.quad quad) (some (custody.program program)) state
      (rig.driver.beginFrame program quad state)
  drawQuad : ∀ state, Moves events 0 0 none state (rig.driver.drawQuad state)
  resizeDrawable : ∀ size state,
    Moves events 0 0 none state (rig.canvas.resizeDrawable size state)
  setPresentation : ∀ presentation state,
    Moves events 0 0 none state (rig.canvas.setPresentation presentation state)
  present : ∀ state, Moves events 0 0 none state (rig.canvas.present state).2

namespace Moves

variable {events : State → List (ObjectEvent Object)} {held between left : Multiset Object}
  {earlier later bound : Option Object} {before middle after : State}

/-- Where nothing happens, nothing moves. -/
theorem refl (held : Multiset Object) (state : State) : Moves events held held none state state :=
  ⟨[], by simp, .settled held, rfl⟩

/-- One step after another; what the later one binds counts first. -/
theorem trans (first : Moves events held between earlier before middle)
    (second : Moves events between left later middle after) :
    Moves events held left (later.or earlier) before after := by
  obtain ⟨made, grown, accounted, rfl⟩ := first
  obtain ⟨more, grownMore, accountedMore, rfl⟩ := second
  refine ⟨made ++ more, ?_, accounted.append accountedMore, last_bound_append made more⟩
  rw [grownMore, grown, List.append_assoc]

/-- A step leaves alone what is held beside the objects it needs. -/
theorem beside (step : Moves events held left bound before after) (others : Multiset Object) :
    Moves events (held + others) (left + others) bound before after := by
  obtain ⟨made, grown, accounted, last⟩ := step
  exact ⟨made, grown, accounted.beside others, last⟩

/-- A step that needs nothing, with any objects held. -/
theorem idle (step : Moves events 0 0 bound before after) (others : Multiset Object) :
    Moves events others others bound before after := by
  simpa only [Multiset.zero_add] using step.beside others

end Moves

section Sessions

variable {rig : Rig handles State} {custody : Custody handles Object}
  {events : State → List (ObjectEvent Object)} (account : rig.KeepsAccount custody events)
include account

/-- A build leaves its program and nothing else; a failed build leaves nothing.

Each way out of the build is followed in turn. After a failing second stage the first is given
back, and after the link, whether or not it succeeds, both stages are. -/
theorem build_moves (vertexSource fragmentSource : String) (state : State) :
    match rig.driver.build vertexSource fragmentSource state with
    | (.ok program, after) =>
      Moves events 0 {custody.program program} (some (custody.program program)) state after
    | (.error _, after) => Moves events 0 0 none state after := by
  have vertexMoves := account.compileStage .vertex vertexSource state
  unfold Driver.build
  rcases vertexAnswer : rig.driver.compileStage .vertex vertexSource state with
    ⟨log | vertex, afterVertex⟩
  · simpa only [vertexAnswer, granted] using vertexMoves
  have fragmentMoves := account.compileStage .fragment fragmentSource afterVertex
  rcases fragmentAnswer : rig.driver.compileStage .fragment fragmentSource afterVertex with
    ⟨log | fragment, afterFragment⟩
  · rw [vertexAnswer] at vertexMoves
    rw [fragmentAnswer] at fragmentMoves
    simp only [fragmentAnswer]
    exact (vertexMoves.trans (fragmentMoves.idle _)).trans (account.releaseStage vertex _)
  rw [vertexAnswer] at vertexMoves
  rw [fragmentAnswer] at fragmentMoves
  simp only [granted] at vertexMoves fragmentMoves
  have compiled : Moves events 0 ({custody.stage vertex} + {custody.stage fragment}) none
      state afterFragment := by
    have beside := fragmentMoves.beside {custody.stage vertex}
    rw [Multiset.zero_add, Multiset.add_comm] at beside
    exact vertexMoves.trans beside
  have linkMoves := account.link vertex fragment afterFragment
  rcases linkAnswer : rig.driver.link vertex fragment afterFragment with ⟨linked, afterLink⟩
  rw [linkAnswer] at linkMoves
  -- Whatever the link answers, it is what stays once both stages are given back.
  have released (answer : Multiset Object)
      (linkStep : Moves events ({custody.stage vertex} + {custody.stage fragment})
        ({custody.stage vertex} + {custody.stage fragment} + answer) none afterFragment afterLink) :
      Moves events 0 answer none state
        (rig.driver.releaseStage fragment (rig.driver.releaseStage vertex afterLink)) := by
    have first := (account.releaseStage vertex afterLink).beside
      ({custody.stage fragment} + answer)
    have second := (account.releaseStage fragment
      (rig.driver.releaseStage vertex afterLink)).beside answer
    rw [Multiset.zero_add, ← Multiset.add_assoc] at first
    rw [Multiset.zero_add] at second
    exact ((compiled.trans linkStep).trans first).trans second
  simp only [fragmentAnswer, linkAnswer]
  cases linked with
  | error log => exact released 0 linkMoves
  | ok program =>
    exact (released {custody.program program} linkMoves).trans (account.useProgram program _)

/-- Asking for the uniforms of a program only uses the program. -/
theorem declared_moves (program : handles.Program) (state : State) :
    Moves events {custody.program program} {custody.program program} none state
      (rig.driver.declared program state).2 := by
  exact (account.activeUniforms program state).trans
    (locate_follows rig.driver (Moves.refl _) Moves.trans program
      (account.uniformLocation program) _ _)

/-- Uploads need no object: a location is enough for them. -/
theorem send_moves (registry : Registry handles.Location) (inputs : FrameInputs) (state : State) :
    Moves events 0 0 none state (registry.send rig.driver inputs state).2.2 :=
  send_follows rig.driver (Moves.refl 0) Moves.trans account.upload registry inputs state

/-- A frame uses the objects of its shader and binds its program. -/
theorem draw_moves (session : Session handles State) (shader : RunningShader handles) :
    Moves events (custody.shader shader) (custody.shader shader)
      (some (custody.program shader.program)) session.state
      (session.drawShader rig shader).2.state := by
  have begun := account.beginFrame shader.program shader.quad session.state
  exact ((begun.trans ((send_moves account _ _ _).idle _)).trans
    ((account.drawQuad _).idle _)).trans ((account.present _).idle _)

/-- Drawing at once keeps the running shader's objects and binds its program. -/
theorem redraw_moves (session : Session handles State) :
    Moves events (custody.running session.shader) (custody.running session.shader)
      (custody.target session.shader) session.state (session.redraw rig).2.state := by
  unfold Session.redraw
  cases running : session.shader with
  | none => exact .refl _ _
  | some shader => exact draw_moves account session shader

end Sessions

end LiveShader

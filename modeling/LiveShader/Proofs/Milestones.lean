import LiveShader.Graphics.Trace
import LiveShader.Proofs.Operations

/-!
# Milestones of a trace

Of the calls that a traced rig writes down some tell how an operation went: a call that fails, the
list of a program's uniforms, a drawn frame, and anything asked of the canvas. The rest, releases
and uploads among them, are left out here.

Every part of an operation is told once with the milestones that it adds. A failed build adds its
failure and nothing else; taking in a program adds the program's list; a frame is drawn once and
then shown.
-/
namespace LiveShader

variable {handles : Handles} {State Answer : Type}

/-- A call that tells how an operation went. What is left out leaves no trace in the answer of an
operation. -/
inductive Milestone (handles : Handles) where
  /-- A stage, a program or a quad could not be made, and this is what is wrong. -/
  | failed (diagnostic : Diagnostic)
  /-- A program was asked for its uniforms. -/
  | listed (program : handles.Program) (actives : List ActiveUniform)
  | drawn
  /-- Something was asked of the canvas: a size, a presentation, or to show a frame. -/
  | canvas

/-- The milestone of a call, if it is one. A failure is kept as the diagnostic that is made of it,
which is what an evaluation reports. -/
def Call.milestone? : Call handles → Option (Milestone handles)
  | .compileStage _ _ (.error log) => some (.failed (.ofLog log headerSize))
  | .link _ _ (.error log) => some (.failed (.ofLog log headerSize))
  | .createQuad (.error text) => some (.failed (.raw text))
  | .activeUniforms program actives => some (.listed program actives)
  | .drawQuad => some .drawn
  | .resizeDrawable _ | .setPresentation _ | .present _ => some .canvas
  | _ => none

/-- The milestones so far, the oldest first, read off the list of calls. -/
def Traced.milestones (traced : Traced handles State) : List (Milestone handles) :=
  traced.calls.filterMap Call.milestone?

/-- The milestones that were added between two states. -/
def Marks (made : List (Milestone handles)) (before after : Traced handles State) : Prop :=
  after.milestones = before.milestones ++ made

namespace Marks

variable {made more : List (Milestone handles)} {before middle after : Traced handles State}

/-- Where nothing happens, nothing is added. Parts without calls are dealt with by this. -/
theorem refl (traced : Traced handles State) : Marks [] traced traced := (List.append_nil _).symm

/-- One part after another. -/
theorem trans (first : Marks made before middle) (second : Marks more middle after) :
    Marks (made ++ more) before after := by
  unfold Marks at first second ⊢
  rw [second, first, List.append_assoc]

/-- A call without an answer adds its milestone, if it has one. -/
theorem told (call : Call handles) (act : State → State) (traced : Traced handles State) :
    Marks call.milestone?.toList traced (Traced.tell call act traced) := by
  cases milestone : call.milestone? <;>
    simp [Marks, Traced.milestones, Traced.tell, milestone]

/-- A call with an answer adds its milestone, which may depend on the answer. -/
theorem asked (call : Answer → Call handles) (act : State → Answer × State)
    (traced : Traced handles State) :
    Marks (call (act traced.state).1).milestone?.toList traced (Traced.ask call act traced).2 := by
  cases milestone : (call (act traced.state).1).milestone? <;>
    simp [Marks, Traced.milestones, Traced.ask, milestone]

/-- A call with an answer adds the milestone that it has with this answer: whether a stage that was
compiled is one depends on whether it failed. -/
theorem answered (call : Answer → Call handles) {act : State → Answer × State} {answer : Answer}
    (asked : Traced.ask call act before = (answer, after)) :
    Marks (call answer).milestone?.toList before after := by
  have told := Marks.asked call act before
  have same : (act before.state).1 = answer := congrArg Prod.fst asked
  rwa [asked, same] at told

end Marks

/-- The milestones of a build: its failure, if it fails. The failure is the one that the build ends
with, translated to the lines of the source. -/
def failures : Except BuildError handles.Program → List (Milestone handles)
  | .ok _ => []
  | .error failure => [.failed (.ofLog failure.log headerSize)]

variable (rig : Rig handles State)

/-- A build adds its failure and nothing else. It goes on to the next call only after a success, so
there is one failure at most, and taking the stages down again is no milestone. -/
theorem build_marks (vertexSource fragmentSource : String) (traced : Traced handles State) :
    Marks (failures (rig.traced.driver.build vertexSource fragmentSource traced).1) traced
      (rig.traced.driver.build vertexSource fragmentSource traced).2 := by
  unfold Driver.build
  rcases vertexAnswer : rig.traced.driver.compileStage .vertex vertexSource traced with
    ⟨log | vertex, afterVertex⟩
  · exact .answered (Call.compileStage .vertex vertexSource) vertexAnswer
  have vertexMade : Marks [] traced afterVertex :=
    .answered (Call.compileStage .vertex vertexSource) vertexAnswer
  dsimp only
  rcases fragmentAnswer : rig.traced.driver.compileStage .fragment fragmentSource afterVertex with
    ⟨log | fragment, afterFragment⟩
  · have fragmentFailed : Marks [.failed (.ofLog log headerSize)] afterVertex afterFragment :=
      .answered (Call.compileStage .fragment fragmentSource) fragmentAnswer
    exact (vertexMade.trans fragmentFailed).trans (.told (.releaseStage vertex) _ _)
  have fragmentMade : Marks [] afterVertex afterFragment :=
    .answered (Call.compileStage .fragment fragmentSource) fragmentAnswer
  have released (state : Traced handles State) :
      Marks [] state
        (rig.traced.driver.releaseStage fragment (rig.traced.driver.releaseStage vertex state)) :=
    (Marks.told (.releaseStage vertex) _ state).trans (.told (.releaseStage fragment) _ _)
  have compiled := vertexMade.trans fragmentMade
  rcases linkAnswer : rig.traced.driver.link vertex fragment afterFragment with
    ⟨log | program, afterLink⟩
  · have linkFailed : Marks [.failed (.ofLog log headerSize)] afterFragment afterLink :=
      .answered (Call.link vertex fragment) linkAnswer
    simp only [linkAnswer]
    exact (compiled.trans linkFailed).trans (released afterLink)
  · have linked : Marks [] afterFragment afterLink :=
      .answered (Call.link vertex fragment) linkAnswer
    simp only [linkAnswer]
    exact ((compiled.trans linked).trans (released afterLink)).trans
      (.told (.useProgram program) _ _)

/-- The build of an evaluation adds its failure and nothing else, as both of its sources are wrapped
before any call is made. -/
theorem built_marks (session : Session handles (Traced handles State)) (source : String) :
    Marks (failures (session.built rig.traced source).1) session.state
      (session.built rig.traced source).2 :=
  build_marks rig _ _ session.state

/-- Taking in a program adds the list of its uniforms. -/
theorem declared_marks (program : handles.Program) (traced : Traced handles State) :
    Marks [.listed program (rig.driver.activeUniforms program traced.state).1] traced
      (rig.traced.driver.declared program traced).2 := by
  have listed := Marks.asked (Call.activeUniforms program) (rig.driver.activeUniforms program)
    traced
  have located := locate_follows rig.traced.driver Marks.refl
    (fun first second => first.trans second) program
    (fun name traced => Marks.asked (Call.uniformLocation program name)
      (rig.driver.uniformLocation program name) traced)
  exact listed.trans (located _ _)

/-- Uploads are no milestones, whether they succeed or fail. -/
theorem send_marks (registry : Registry handles.Location) (inputs : FrameInputs)
    (traced : Traced handles State) :
    Marks [] traced (registry.send rig.traced.driver inputs traced).2.2 :=
  send_follows rig.traced.driver Marks.refl (fun first second => first.trans second)
    (fun location shape values traced => Marks.asked (Call.upload location shape values)
      (rig.driver.upload location shape values) traced) registry inputs traced

/-- A frame is drawn once and then shown, however many uploads go before and whatever the canvas
answers. -/
theorem draw_marks (session : Session handles (Traced handles State))
    (shader : RunningShader handles) :
    Marks [.drawn, .canvas] session.state
      (session.drawShader rig.traced shader).2.state := by
  have begun := Marks.told (.beginFrame shader.program shader.quad)
    (rig.driver.beginFrame shader.program shader.quad) session.state
  unfold Session.drawShader
  exact ((begun.trans (send_marks rig _ _ _)).trans (.told .drawQuad rig.driver.drawQuad _)).trans
    (.asked Call.present rig.canvas.present _)

/-- The milestones after a program was taken in: its source may ask for a presentation, and it is
drawn and shown. -/
def installed (source : String) : List (Milestone handles) :=
  (sizeDirective? source).toList.map (fun _ => .canvas) ++ [.drawn, .canvas]

/-- An installation takes in the shader's program and draws it once. -/
theorem install_marks (session : Session handles (Traced handles State))
    (shader : RunningShader handles) (source document : String) (outcome : EvalOutcome) :
    Marks (.listed shader.program
        (rig.driver.activeUniforms shader.program session.state.state).1 :: installed source)
      session.state
      ((session.adopt rig.traced shader).install rig.traced source document outcome).2.state := by
  have taken := declared_marks rig shader.program session.state
  unfold Session.install installed
  cases sizeDirective? source with
  | none => exact taken.trans (draw_marks rig _ _)
  | some mode =>
    have asked := taken.trans (.told (.setPresentation mode) (rig.canvas.setPresentation mode) _)
    exact asked.trans (draw_marks rig _ _)

end LiveShader

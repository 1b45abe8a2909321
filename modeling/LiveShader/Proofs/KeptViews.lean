import LiveShader.OpenGL.Binding
import LiveShader.Proofs.Operations

/-!
# What a session leaves alone

A view is something that a state shows. Where every call of a rig keeps a view, apart from the two
that fit the viewport and the drawable memory to a size, every operation of a session but a resize
keeps it too. The driver that a context of OpenGL makes keeps whatever the context's entry points
keep.
-/
namespace LiveShader

variable {handles : Handles} {State View : Type} {view : State → View}

/-- Whether two states show the same. -/
def Same (view : State → View) (before after : State) : Prop := view after = view before

namespace Same

/-- Every view of a state is the same as itself. -/
theorem refl (state : State) : Same view state state := rfl

/-- What two steps leave the same, both together do. The views of a whole operation are compared by
going along its calls with this. -/
theorem trans {before middle after : State} (first : Same view before middle)
    (second : Same view middle after) : Same view before after :=
  Eq.trans second first

end Same

/-- Every call of a rig keeps a view, but for the two that fit sizes. -/
structure Rig.Keeps (rig : Rig handles State) (view : State → View) : Prop where
  compileStage : ∀ stage source state,
    Same view state (rig.driver.compileStage stage source state).2
  releaseStage : ∀ stage state, Same view state (rig.driver.releaseStage stage state)
  link : ∀ vertex fragment state, Same view state (rig.driver.link vertex fragment state).2
  releaseProgram : ∀ program state, Same view state (rig.driver.releaseProgram program state)
  useProgram : ∀ program state, Same view state (rig.driver.useProgram program state)
  activeUniforms : ∀ program state, Same view state (rig.driver.activeUniforms program state).2
  uniformLocation : ∀ program name state,
    Same view state (rig.driver.uniformLocation program name state).2
  upload : ∀ location shape values state,
    Same view state (rig.driver.upload location shape values state).2
  createQuad : ∀ state, Same view state (rig.driver.createQuad state).2
  releaseQuad : ∀ quad state, Same view state (rig.driver.releaseQuad quad state)
  beginFrame : ∀ program quad state, Same view state (rig.driver.beginFrame program quad state)
  drawQuad : ∀ state, Same view state (rig.driver.drawQuad state)
  setPresentation : ∀ presentation state,
    Same view state (rig.canvas.setPresentation presentation state)
  present : ∀ state, Same view state (rig.canvas.present state).2

section Operations

variable {rig : Rig handles State} (keeps : rig.Keeps view)
include keeps

/-- A frame keeps the view. -/
theorem redraw_same (session : Session handles State) :
    Same view session.state (session.redraw rig).2.state := by
  unfold Session.redraw
  cases session.shader with
  | none => exact .refl _
  | some shader =>
    have sent := send_follows rig.driver Same.refl Same.trans keeps.upload
    exact (((keeps.beginFrame shader.program shader.quad session.state).trans (sent _ _ _)).trans
      (keeps.drawQuad _)).trans (keeps.present _)

/-- An installation keeps the view. -/
theorem install_same (session : Session handles State) (shader : RunningShader handles)
    (source document : String) (outcome : EvalOutcome) :
    Same view session.state
      ((session.adopt rig shader).install rig source document outcome).2.state := by
  have listed := keeps.activeUniforms shader.program session.state
  have located := locate_follows rig.driver Same.refl Same.trans shader.program
    (keeps.uniformLocation shader.program)
  have adopted : Same view session.state (session.adopt rig shader).state :=
    listed.trans (located _ _)
  unfold Session.install
  cases sizeDirective? source with
  | none => exact adopted.trans (redraw_same keeps _)
  | some mode => exact (adopted.trans (keeps.setPresentation mode _)).trans (redraw_same keeps _)

/-- An evaluation keeps the view, however it ends. -/
theorem eval_same (session : Session handles State) (source document : String) :
    Same view session.state (session.eval rig source document).2.state := by
  have built : Same view session.state (session.built rig source).2 :=
    build_follows rig.driver Same.trans keeps.compileStage keeps.releaseStage keeps.link
      keeps.useProgram _ _ session.state
  have ends := eval_ends rig session source document
  generalize session.eval rig source document = result at ends
  cases ends with
  | unbuilt failure state failed =>
    rw [failed] at built
    exact built
  | withoutQuad program ready state text stopped succeeded failed =>
    rw [succeeded] at built
    have quad := keeps.createQuad ready
    rw [failed] at quad
    exact (built.trans quad).trans (keeps.releaseProgram program state)
  | reloaded shader program ready running succeeded =>
    rw [succeeded] at built
    exact (built.trans (keeps.releaseProgram shader.program ready)).trans
      (install_same keeps _ _ source document .reloaded)
  | started program quad ready state stopped succeeded placed =>
    rw [succeeded] at built
    have corners := keeps.createQuad ready
    rw [placed] at corners
    exact (built.trans corners).trans (install_same keeps _ _ source document .started)

/-- Every operation but a resize keeps the view. -/
theorem perform_same (session : Session handles State) (operation : Operation)
    (other : operation ≠ .resize) :
    Same view session.state (session.perform rig operation).2.state := by
  have ends := perform_ends rig session operation
  generalize session.perform rig operation = result at ends
  cases ends with
  | evaluated source document => exact eval_same keeps session source document
  | passed operation answer notices _ _ _ => exact .refl _
  | changed operation answer name index edit changed _ _ edited =>
    obtain ⟨shader, slot, -, -, rfl⟩ := edit_ends edited
    exact .refl _
  | drawn operation _ _ => exact redraw_same keeps session
  | resized => exact absurd rfl other
  | presented presentation => exact keeps.setPresentation presentation session.state
  | released shader _ =>
    exact (keeps.releaseProgram shader.program session.state).trans
      (keeps.releaseQuad shader.quad _)

end Operations

namespace OpenGL

/-- Every entry point keeps a view, but for the one that sets the viewport. -/
structure EntryPoints.Keeps (gl : EntryPoints State) (view : State → View) : Prop where
  createShader : ∀ kind state, Same view state (gl.createShader kind state).2
  shaderSource : ∀ shader source state, Same view state (gl.shaderSource shader source state)
  compileShader : ∀ shader state, Same view state (gl.compileShader shader state)
  shaderCompiled : ∀ shader state, Same view state (gl.shaderCompiled shader state).2
  shaderLog : ∀ shader state, Same view state (gl.shaderLog shader state).2
  deleteShader : ∀ shader state, Same view state (gl.deleteShader shader state)
  createProgram : ∀ state, Same view state (gl.createProgram state).2
  attachShader : ∀ program shader state, Same view state (gl.attachShader program shader state)
  detachShader : ∀ program shader state, Same view state (gl.detachShader program shader state)
  linkProgram : ∀ program state, Same view state (gl.linkProgram program state)
  programLinked : ∀ program state, Same view state (gl.programLinked program state).2
  programLog : ∀ program state, Same view state (gl.programLog program state).2
  deleteProgram : ∀ program state, Same view state (gl.deleteProgram program state)
  useProgram : ∀ program state, Same view state (gl.useProgram program state)
  activeUniforms : ∀ program state, Same view state (gl.activeUniforms program state).2
  uniformLocation : ∀ program name state, Same view state (gl.uniformLocation program name state).2
  getError : ∀ state, Same view state (gl.getError state).2
  uniformValues : ∀ width location values state,
    Same view state (gl.uniformValues width location values state)
  createBuffer : ∀ state, Same view state (gl.createBuffer state).2
  bindBuffer : ∀ target buffer state, Same view state (gl.bindBuffer target buffer state)
  bufferData : ∀ target bytes usage state, Same view state (gl.bufferData target bytes usage state)
  deleteBuffer : ∀ buffer state, Same view state (gl.deleteBuffer buffer state)
  createVertexArray : ∀ state, Same view state (gl.createVertexArray state).2
  bindVertexArray : ∀ vertexArray state, Same view state (gl.bindVertexArray vertexArray state)
  enableAttribute : ∀ index state, Same view state (gl.enableAttribute index state)
  attributePointer : ∀ index size type normalized stride offset state,
    Same view state (gl.attributePointer index size type normalized stride offset state)
  deleteVertexArray : ∀ vertexArray state, Same view state (gl.deleteVertexArray vertexArray state)
  clearColor : ∀ red green blue alpha state,
    Same view state (gl.clearColor red green blue alpha state)
  clear : ∀ mask state, Same view state (gl.clear mask state)
  drawArrays : ∀ mode first count state, Same view state (gl.drawArrays mode first count state)

section Binding

variable {gl : EntryPoints State} (keeps : gl.Keeps view)
include keeps

/-- Compiling a stage leaves the view the same, whether it succeeds or not: the entry points it goes
through do, and it calls no others. -/
theorem compile_stage_same (stage : Stage) (source : String) (state : State) :
    Same view state (compileStage gl stage source state).2 := by
  have created := keeps.createShader (kindOf stage) state
  unfold compileStage
  rcases answer : gl.createShader (kindOf stage) state with ⟨log | shader, made⟩
  · rwa [answer] at created
  rw [answer] at created
  have ready := (created.trans (keeps.shaderSource shader source made)).trans
    (keeps.compileShader shader _)
  have asked := ready.trans (keeps.shaderCompiled shader _)
  dsimp only
  rcases verdict : gl.shaderCompiled shader
    (gl.compileShader shader (gl.shaderSource shader source made)) with ⟨_ | _, judged⟩
  · rw [verdict] at asked
    exact (asked.trans (keeps.shaderLog shader judged)).trans (keeps.deleteShader shader _)
  · rwa [verdict] at asked

/-- Linking a program leaves the view the same, also when it fails and the program is taken down
again. -/
theorem link_same (vertex fragment : Nat) (state : State) :
    Same view state (link gl vertex fragment state).2 := by
  have created := keeps.createProgram state
  unfold link
  rcases answer : gl.createProgram state with ⟨log | program, made⟩
  · rwa [answer] at created
  rw [answer] at created
  have ready := ((created.trans (keeps.attachShader program vertex made)).trans
    (keeps.attachShader program fragment _)).trans (keeps.linkProgram program _)
  have asked := ready.trans (keeps.programLinked program _)
  dsimp only
  rcases verdict : gl.programLinked program (gl.linkProgram program
    (gl.attachShader program fragment (gl.attachShader program vertex made))) with ⟨_ | _, judged⟩
  · rw [verdict] at asked
    exact (asked.trans (keeps.programLog program judged)).trans (keeps.deleteProgram program _)
  · rw [verdict] at asked
    exact (asked.trans (keeps.detachShader program vertex judged)).trans
      (keeps.detachShader program fragment _)

/-- Errors are taken off the queue one by one. -/
theorem drain_errors_same (bound : Nat) (state : State) :
    Same view state (drainErrors gl bound state) := by
  induction bound generalizing state with
  | zero => exact .refl state
  | succ bound induction =>
    have asked := keeps.getError state
    unfold drainErrors
    dsimp only
    split
    · exact asked
    · exact asked.trans (induction _)

/-- An upload leaves the view the same, and so do the queries for errors around it, however many of
them there are. -/
theorem upload_same (location : Int) (shape : Shape) (values : List Float32) (state : State) :
    Same view state (upload gl location shape values state).2 := by
  unfold upload
  cases checkShape shape values.length with
  | error mismatch => exact .refl state
  | ok fits =>
    exact ((drain_errors_same keeps staleErrorLimit state).trans
      (keeps.uniformValues shape.components location values _)).trans (keeps.getError _)

/-- Making the quad leaves the view the same, also when only a part of it could be made. -/
theorem create_quad_same (state : State) : Same view state (createQuad gl state).2 := by
  have created := keeps.createBuffer state
  unfold createQuad
  rcases answer : gl.createBuffer state with ⟨log | buffer, made⟩
  · rwa [answer] at created
  rw [answer] at created
  have filled := (created.trans (keeps.bindBuffer arrayBuffer buffer made)).trans
    (keeps.bufferData arrayBuffer (quadCorners.flatMap bytesOf) staticDraw _)
  have listed := filled.trans (keeps.createVertexArray _)
  dsimp only
  rcases corners : gl.createVertexArray (gl.bufferData arrayBuffer (quadCorners.flatMap bytesOf)
    staticDraw (gl.bindBuffer arrayBuffer buffer made)) with ⟨log | vertexArray, placed⟩
  · rw [corners] at listed
    exact listed.trans (keeps.deleteBuffer buffer placed)
  · rw [corners] at listed
    exact ((listed.trans (keeps.bindVertexArray vertexArray placed)).trans
      (keeps.enableAttribute 0 _)).trans (keeps.attributePointer 0 2 floatCode false 0 0 _)

end Binding

end OpenGL

end LiveShader

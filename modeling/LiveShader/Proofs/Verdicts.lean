import LiveShader.Proofs.Frames
import LiveShader.Proofs.Reload
import LiveShader.Proofs.Unwarned

/-!
# Verdicts on uploads

Two drivers that answer everything alike but their uploads. A session over the one and a session
over the other give the same answers, make the same calls and have the same standing after any
operations: a refused upload is told to the log and to no one else.

The two runs are compared by a relation of the drivers' states that every pair of calls keeps, an
upload whatever the verdicts are. It is carried to states with their calls written down, the
verdicts put aside, and from the calls to each part of an operation.
-/
namespace LiveShader

variable {handles : Handles} {Left Right Answer : Type}

/-- Two calls are answered alike from related states, and leave related states. The states may be of
different kinds, one for each driver. -/
def AnswersAlike (related : Left → Right → Prop) (left : Left → Answer × Left)
    (right : Right → Answer × Right) : Prop :=
  ∀ ⦃before other⦄, related before other →
    (left before).1 = (right other).1 ∧ related (left before).2 (right other).2

/-- The one answer to two calls, and what they leave. -/
theorem AnswersAlike.both {related : Left → Right → Prop} {left : Left → Answer × Left}
    {right : Right → Answer × Right} (alike : AnswersAlike related left right) {before : Left}
    {other : Right} (states : related before other) :
    ∃ answer after otherAfter, left before = (answer, after) ∧
      right other = (answer, otherAfter) ∧ related after otherAfter := by
  obtain ⟨same, after⟩ := alike states
  exact ⟨_, _, _, rfl, Prod.ext same.symm rfl, after⟩

/-- Two calls leave related states, whatever they are answered. It is what can be asked of an
upload. -/
def LeavesAlike (related : Left → Right → Prop) (left : Left → Left) (right : Right → Right) :
    Prop :=
  ∀ ⦃before other⦄, related before other → related (left before) (right other)

/-- Two rigs that answer alike, but for their verdicts on uploads. -/
structure Rig.Alike (left : Rig handles Left) (right : Rig handles Right)
    (related : Left → Right → Prop) : Prop where
  compileStage : ∀ stage source, AnswersAlike related
    (left.driver.compileStage stage source) (right.driver.compileStage stage source)
  releaseStage : ∀ stage, LeavesAlike related
    (left.driver.releaseStage stage) (right.driver.releaseStage stage)
  link : ∀ vertex fragment, AnswersAlike related
    (left.driver.link vertex fragment) (right.driver.link vertex fragment)
  releaseProgram : ∀ program, LeavesAlike related
    (left.driver.releaseProgram program) (right.driver.releaseProgram program)
  useProgram : ∀ program, LeavesAlike related
    (left.driver.useProgram program) (right.driver.useProgram program)
  activeUniforms : ∀ program, AnswersAlike related
    (left.driver.activeUniforms program) (right.driver.activeUniforms program)
  uniformLocation : ∀ program name, AnswersAlike related
    (left.driver.uniformLocation program name) (right.driver.uniformLocation program name)
  /-- The verdicts may differ. -/
  upload : ∀ location shape values, LeavesAlike related
    (fun state => (left.driver.upload location shape values state).2)
    (fun state => (right.driver.upload location shape values state).2)
  createQuad : AnswersAlike related left.driver.createQuad right.driver.createQuad
  releaseQuad : ∀ quad, LeavesAlike related
    (left.driver.releaseQuad quad) (right.driver.releaseQuad quad)
  setViewport : ∀ size, LeavesAlike related
    (left.driver.setViewport size) (right.driver.setViewport size)
  beginFrame : ∀ program quad, LeavesAlike related
    (left.driver.beginFrame program quad) (right.driver.beginFrame program quad)
  drawQuad : LeavesAlike related left.driver.drawQuad right.driver.drawQuad
  clientSize : ∀ ⦃before other⦄, related before other →
    left.canvas.clientSize before = right.canvas.clientSize other
  drawableSize : ∀ ⦃before other⦄, related before other →
    left.canvas.drawableSize before = right.canvas.drawableSize other
  resizeDrawable : ∀ size, LeavesAlike related
    (left.canvas.resizeDrawable size) (right.canvas.resizeDrawable size)
  setPresentation : ∀ presentation, LeavesAlike related
    (left.canvas.setPresentation presentation) (right.canvas.setPresentation presentation)
  present : AnswersAlike related left.canvas.present right.canvas.present

section Traces

variable {related : Left → Right → Prop}

/-- Related states after the same calls, the verdicts put aside. That the calls are the same is a
part of the relation, so it is carried through every operation with it. -/
def TracedAlike (related : Left → Right → Prop) (left : Traced handles Left)
    (right : Traced handles Right) : Prop :=
  related left.state right.state ∧ left.calls.map Call.unjudged = right.calls.map Call.unjudged

/-- A call without an answer is written down. -/
theorem told_alike {left : Left → Left} {right : Right → Right}
    (alike : LeavesAlike related left right) (call : Call handles) :
    LeavesAlike (TracedAlike related) (Traced.tell call left) (Traced.tell call right) := by
  rintro before other ⟨states, calls⟩
  refine ⟨alike states, ?_⟩
  show (before.calls ++ [call]).map _ = (other.calls ++ [call]).map _
  rw [List.map_append, List.map_append, calls]

/-- A call is written down with its answer, which is the same on both sides and so makes the same
call. -/
theorem asked_alike {left : Left → Answer × Left} {right : Right → Answer × Right}
    (alike : AnswersAlike related left right) (call : Answer → Call handles) :
    AnswersAlike (TracedAlike related) (Traced.ask call left) (Traced.ask call right) := by
  rintro before other ⟨states, calls⟩
  obtain ⟨answers, after⟩ := alike states
  refine ⟨answers, after, ?_⟩
  show (before.calls ++ [call (left before.state).1]).map _ =
    (other.calls ++ [call (right other.state).1]).map _
  rw [List.map_append, List.map_append, calls, answers]

/-- An upload is written down with its verdict, which is put aside. Place, shape and values are the
same on both sides. -/
theorem uploaded_alike {left : Rig handles Left} {right : Rig handles Right}
    (alike : left.Alike right related) (location : handles.Location) (shape : Shape)
    (values : List Float32) :
    LeavesAlike (TracedAlike related)
      (fun traced => (left.traced.driver.upload location shape values traced).2)
      (fun traced => (right.traced.driver.upload location shape values traced).2) := by
  rintro before other ⟨states, calls⟩
  refine ⟨alike.upload location shape values states, ?_⟩
  show (before.calls ++ [_]).map _ = (other.calls ++ [_]).map _
  rw [List.map_append, List.map_append, calls]
  rfl

/-- Rigs that answer alike answer alike when their calls are written down. All that follows is
therefore shown for any such rigs, and holds of the traced ones. -/
theorem Rig.Alike.traced {left : Rig handles Left} {right : Rig handles Right}
    (alike : left.Alike right related) :
    left.traced.Alike right.traced (TracedAlike related) where
  compileStage stage source := asked_alike (alike.compileStage stage source) _
  releaseStage stage := told_alike (alike.releaseStage stage) _
  link vertex fragment := asked_alike (alike.link vertex fragment) _
  releaseProgram program := told_alike (alike.releaseProgram program) _
  useProgram program := told_alike (alike.useProgram program) _
  activeUniforms program := asked_alike (alike.activeUniforms program) _
  uniformLocation program name := asked_alike (alike.uniformLocation program name) _
  upload location shape values := uploaded_alike alike location shape values
  createQuad := asked_alike alike.createQuad _
  releaseQuad quad := told_alike (alike.releaseQuad quad) _
  setViewport size := told_alike (alike.setViewport size) _
  beginFrame program quad := told_alike (alike.beginFrame program quad) _
  drawQuad := told_alike alike.drawQuad _
  clientSize _ _ states := alike.clientSize states.1
  drawableSize _ _ states := alike.drawableSize states.1
  resizeDrawable size := told_alike (alike.resizeDrawable size) _
  setPresentation presentation := told_alike (alike.setPresentation presentation) _
  present := asked_alike alike.present _

end Traces

section Runs

variable {left : Rig handles Left} {right : Rig handles Right} {related : Left → Right → Prop}
  (alike : left.Alike right related)
include alike

/-- A build ends alike: both sides take the same way through it, as they get the same answers. -/
theorem build_alike (vertexSource fragmentSource : String) :
    AnswersAlike related (left.driver.build vertexSource fragmentSource)
      (right.driver.build vertexSource fragmentSource) := by
  intro before other states
  obtain ⟨vertexAnswer, before, other, here, there, states⟩ :=
    (alike.compileStage .vertex vertexSource).both states
  unfold Driver.build
  simp only [here, there]
  cases vertexAnswer with
  | error log => exact ⟨rfl, states⟩
  | ok vertex =>
    obtain ⟨fragmentAnswer, before, other, here, there, states⟩ :=
      (alike.compileStage .fragment fragmentSource).both states
    simp only [here, there]
    cases fragmentAnswer with
    | error log => exact ⟨rfl, alike.releaseStage vertex states⟩
    | ok fragment =>
      obtain ⟨linkAnswer, before, other, here, there, states⟩ :=
        (alike.link vertex fragment).both states
      have freed := alike.releaseStage fragment (alike.releaseStage vertex states)
      simp only [here, there]
      cases linkAnswer with
      | error log => exact ⟨rfl, freed⟩
      | ok program => exact ⟨rfl, alike.useProgram program freed⟩

/-- The uniforms of a program are declared alike, by induction on those that the driver lists. -/
theorem declared_alike (program : handles.Program) :
    AnswersAlike related (left.driver.declared program) (right.driver.declared program) := by
  have located (actives : List ActiveUniform) : AnswersAlike related
      (locateAll left.driver program actives) (locateAll right.driver program actives) := by
    induction actives with
    | nil =>
      intro before other states
      exact ⟨rfl, states⟩
    | cons active rest induction =>
      intro before other states
      obtain ⟨place, after⟩ := alike.uniformLocation program active.name states
      obtain ⟨declared, last⟩ := induction after
      refine ⟨?_, last⟩
      simp only [locateAll, place, declared]
  intro before other states
  obtain ⟨actives, after⟩ := alike.activeUniforms program states
  unfold Driver.declared
  simp only [actives]
  exact located _ after

omit alike in
/-- What sending a slot does to the driver's state: its upload, if it has a place. -/
theorem send_slot_state {State : Type} (driver : Driver handles State) (inputs : FrameInputs)
    (name : String) (slot : Slot handles.Location) (state : State × List FailedUpload) :
    (Registry.sendSlot driver inputs name slot state).2.1 =
      match slot.location with
      | none => state.1
      | some location =>
        (driver.upload location slot.shape (Registry.payload inputs name slot) state.1).2 := by
  unfold Registry.sendSlot
  cases slot.location with
  | none => rfl
  | some location =>
    rcases answer : driver.upload location slot.shape (Registry.payload inputs name slot) state.1
      with ⟨refused | _, after⟩ <;> simp only [answer]

/-- Slots that differ in their notes only are sent alike: the same values go to the same places in
the same order. The verdicts may differ, and with them the notes that are left. -/
theorem send_alike {slots others : Registry handles.Location}
    (same : slots.unwarned = others.unwarned) (inputs : FrameInputs) :
    LeavesAlike related (fun state => (slots.send left.driver inputs state).2.2)
      (fun state => (others.send right.driver inputs state).2.2) := by
  have sent (name : String) {slot counterpart : Slot handles.Location}
      (same : slot.unwarned = counterpart.unwarned) {before : Left × List FailedUpload}
      {other : Right × List FailedUpload} (states : related before.1 other.1) :
      related (Registry.sendSlot left.driver inputs name slot before).2.1
        (Registry.sendSlot right.driver inputs name counterpart other).2.1 := by
    have location := congrArg Slot.location same
    have shape := congrArg Slot.shape same
    have payload := congrArg (Registry.payload inputs name) same
    change slot.location = counterpart.location at location
    change slot.shape = counterpart.shape at shape
    change Registry.payload inputs name slot = Registry.payload inputs name counterpart at payload
    rw [send_slot_state, send_slot_state, ← location, ← shape, ← payload]
    cases slot.location with
    | none => exact states
    | some place => exact alike.upload place slot.shape _ states
  have steps (entries others : List (String × Slot handles.Location))
      (same : entries.map (fun entry => (entry.1, entry.2.unwarned)) =
        others.map fun entry => (entry.1, entry.2.unwarned))
      {before : Left × List FailedUpload} {other : Right × List FailedUpload}
      (states : related before.1 other.1) :
      related
        (NameTable.stepEntries (Registry.sendSlot left.driver inputs) entries before).2.1
        (NameTable.stepEntries (Registry.sendSlot right.driver inputs) others other).2.1 := by
    induction entries generalizing others before other with
    | nil =>
      rw [List.map_nil, eq_comm, List.map_eq_nil_iff] at same
      subst same
      exact states
    | cons entry rest induction =>
      obtain ⟨counterpart, tail, rfl, first, later⟩ := List.map_eq_cons_iff.mp same.symm
      obtain ⟨name, slot⟩ := entry
      obtain ⟨otherName, otherSlot⟩ := counterpart
      rw [Prod.mk.injEq] at first
      obtain ⟨rfl, slots⟩ := first
      exact induction tail later.symm (sent otherName slots.symm states)
  intro before other states
  exact steps _ _ (congrArg (fun registry => registry.slots.entries) same) states

end Runs

/-- Two sessions of one standing, over related states. This is the invariant of both runs together.
-/
structure SameStanding (related : Left → Right → Prop) (left : Session handles Left)
    (right : Session handles Right) : Prop where
  states : related left.state right.state
  standing : left.standing = right.standing

namespace SameStanding

variable {related : Left → Right → Prop} {session : Session handles Left}
  {counterpart : Session handles Right} (same : SameStanding related session counterpart)
include same

/-- The clocks are the same, and give the same readings from here on. -/
theorem clock : session.clock = counterpart.clock := congrArg Session.clock same.standing

/-- The options are the same. -/
theorem options : session.options = counterpart.options := congrArg Session.options same.standing

/-- The shaders are the same but for the notes. -/
theorem shader :
    session.shader.map RunningShader.unwarned = counterpart.shader.map RunningShader.unwarned :=
  congrArg Session.shader same.standing

/-- Without a shader there is none on the other side, so both sides do nothing where there is
nothing to draw. -/
theorem stopped (without : session.shader = none) : counterpart.shader = none := by
  have shaders := same.shader
  rw [without] at shaders
  exact Option.map_eq_none_iff.mp shaders.symm

/-- With a shader there is one on the other side, the same but for the notes. -/
theorem running {shader : RunningShader handles} (runs : session.shader = some shader) :
    ∃ other, counterpart.shader = some other ∧ shader.unwarned = other.unwarned := by
  have shaders := same.shader
  rw [runs, Option.map_some] at shaders
  obtain ⟨other, held, alike⟩ := Option.map_eq_some_iff.mp shaders.symm
  exact ⟨other, held, alike.symm⟩

/-- The driver acts on both sides, and leaves what the sessions have in common. -/
theorem moved {state : Left} {other : Right} (states : related state other) :
    SameStanding related { session with state } { counterpart with state := other } :=
  ⟨states, same.standing⟩

/-- Both sides report what is no failed upload. -/
theorem noted {notice : Notice} (other : notice.tellsUpload = false) :
    SameStanding related (session.note notice) (counterpart.note notice) := by
  refine ⟨same.states, ?_⟩
  rw [Session.standing_note _ other, Session.standing_note _ other, same.standing]

end SameStanding

section Operations

variable {left : Rig handles Left} {right : Rig handles Right} {related : Left → Right → Prop}
  (alike : left.Alike right related) {session : Session handles Left}
  {counterpart : Session handles Right}
include alike

/-- A frame is drawn alike, and the loop says the same of it: it goes by the clock and by what the
shader reads, which is the same on both sides. -/
theorem draw_alike (same : SameStanding related session counterpart)
    {shader other : RunningShader handles} (shaders : shader.unwarned = other.unwarned) :
    (session.drawShader left shader).1 = (counterpart.drawShader right other).1 ∧
      SameStanding related (session.drawShader left shader).2
        (counterpart.drawShader right other).2 := by
  obtain ⟨programs, quads, frames, registries⟩ := unwarned_parts shaders
  have unshown : related (session.unshown left shader) (counterpart.unshown right other) := by
    have advanced : (shader.registry.advance (shader.frames.elapsed
        session.clock.sample.1)).unwarned =
        (other.registry.advance (shader.frames.elapsed session.clock.sample.1)).unwarned := by
      rw [Registry.advance_unwarned, Registry.advance_unwarned, registries]
    have begun := alike.beginFrame shader.program shader.quad same.states
    have sent := alike.drawQuad (send_alike alike advanced
      ⟨session.clock.sample.1.toFloat32, left.canvas.drawableSize session.state⟩ begun)
    rw [alike.drawableSize same.states, same.clock, programs, quads, frames] at sent
    unfold Session.unshown
    rw [alike.drawableSize same.states, same.clock, programs, quads, frames]
    exact sent
  obtain ⟨answers, shown⟩ := alike.present unshown
  have here := session.standing_draw left shader
  have there := counterpart.standing_draw right other
  rw [← answers, ← same.standing, ← shaders, ← here] at there
  rw [Prod.mk.injEq] at there
  exact ⟨there.1.symm, shown, there.2.symm⟩

/-- A frame is drawn alike, if there is a shader on one side and so on the other. -/
theorem redraw_alike (same : SameStanding related session counterpart) :
    (session.redraw left).1 = (counterpart.redraw right).1 ∧
      SameStanding related (session.redraw left).2 (counterpart.redraw right).2 := by
  cases runs : session.shader with
  | none =>
    rw [redraw_without_shader runs, redraw_without_shader (same.stopped runs)]
    exact ⟨rfl, same⟩
  | some shader =>
    obtain ⟨other, otherRuns, shaders⟩ := same.running runs
    obtain ⟨states, drawn⟩ := draw_alike alike same shaders
    rw [redraw_of_shader runs, redraw_of_shader otherRuns]
    exact ⟨congrArg some states, drawn⟩

/-- The uniforms of a program are taken in alike, as the two drivers list the same. -/
theorem adopt_alike (same : SameStanding related session counterpart)
    {shader other : RunningShader handles} (shaders : shader.unwarned = other.unwarned) :
    SameStanding related (session.adopt left shader) (counterpart.adopt right other) := by
  obtain ⟨programs, -, -, -⟩ := unwarned_parts shaders
  obtain ⟨declared, states⟩ := declared_alike alike shader.program same.states
  refine ⟨?_, ?_⟩
  · show related (left.driver.declared shader.program session.state).2
      (right.driver.declared other.program counterpart.state).2
    rw [← programs]
    exact states
  · rw [Session.standing_adopt, Session.standing_adopt, same.standing, shaders, ← programs,
      declared]

omit alike in
/-- What is installed is reported alike: both sides have the same number of uniforms. -/
theorem installation_noted (same : SameStanding related session counterpart) (document : String)
    (outcome : EvalOutcome) :
    let told (running : Option (RunningShader handles)) : Notice :=
      let uniforms := match running with
        | none => 0
        | some shader => shader.registry.names.length
      match outcome with
      | .started => .started document uniforms
      | _ => .reloaded document uniforms
    SameStanding related (session.note (told session.shader))
      (counterpart.note (told counterpart.shader)) := by
  intro told
  have plain (running : Option (RunningShader handles)) : (told running).tellsUpload = false := by
    cases outcome <;> rfl
  have agree : told session.shader = told counterpart.shader := by
    cases runs : session.shader with
    | none => rw [same.stopped runs]
    | some shader =>
      obtain ⟨other, otherRuns, shaders⟩ := same.running runs
      have names := congrArg (fun shader => shader.registry.names.length) shaders
      simp only [RunningShader.unwarned, Registry.names_unwarned] at names
      rw [otherRuns]
      simp only [told, names]
  rw [← agree]
  exact same.noted (plain session.shader)

/-- An installation ends alike, with the same presentation and the same first frame. -/
theorem install_alike (same : SameStanding related session counterpart)
    (source document : String) (outcome : EvalOutcome) :
    (session.install left source document outcome).1 =
        (counterpart.install right source document outcome).1 ∧
      SameStanding related (session.install left source document outcome).2
        (counterpart.install right source document outcome).2 := by
  refine ⟨rfl, ?_⟩
  have told := installation_noted same document outcome
  unfold Session.install
  cases sizeDirective? source with
  | none => exact (redraw_alike alike told).2
  | some mode =>
    have presented := told.moved (alike.setPresentation mode told.states)
    exact (redraw_alike alike (presented.noted rfl)).2

/-- An evaluation ends alike. A refused upload cannot make it fail: the sources are built and the
quad is made before anything is uploaded. -/
theorem eval_alike (same : SameStanding related session counterpart)
    (source document : String) :
    (session.eval left source document).1 = (counterpart.eval right source document).1 ∧
      SameStanding related (session.eval left source document).2
        (counterpart.eval right source document).2 := by
  have building : AnswersAlike related (left.driver.build _ _) (right.driver.build _ _) :=
    build_alike alike (vertexSource session.options.dialect)
      (wrapFragment source session.options.dialect)
  obtain ⟨answer, ready, otherReady, here, there, states⟩ := building.both same.states
  have otherBuilt : counterpart.built right source = (answer, otherReady) := by
    unfold Session.built
    rw [← same.options]
    exact there
  -- Each way in which one evaluation ends is a way for the other.
  have ends := eval_ends left session source document
  generalize session.eval left source document = result at ends
  cases ends with
  | unbuilt failure state failed =>
    cases here.symm.trans failed
    rw [(Evaluated.unbuilt failure otherReady otherBuilt).decides]
    exact ⟨rfl, ((same.moved states).noted rfl).noted rfl⟩
  | withoutQuad program built state text stopped succeeded failed =>
    cases here.symm.trans succeeded
    obtain ⟨quad, after, otherAfter, hereQuad, thereQuad, states⟩ :=
      alike.createQuad.both states
    cases hereQuad.symm.trans failed
    rw [(Evaluated.withoutQuad program otherReady otherAfter text (same.stopped stopped) otherBuilt
      thereQuad).decides]
    exact ⟨rfl, (same.moved (alike.releaseProgram program states)).noted rfl⟩
  | reloaded shader program built running succeeded =>
    cases here.symm.trans succeeded
    obtain ⟨other, otherRunning, shaders⟩ := same.running running
    obtain ⟨programs, -, -, -⟩ := unwarned_parts shaders
    rw [(Evaluated.reloaded other program otherReady otherRunning otherBuilt).decides]
    have released := alike.releaseProgram shader.program states
    have replaced : (shader.replaced program).unwarned = (other.replaced program).unwarned :=
      congrArg (fun shader => shader.replaced program) shaders
    rw [← programs]
    have adopted := adopt_alike alike (same.moved released) replaced
    exact install_alike alike adopted source document _
  | started program quad built state stopped succeeded placed =>
    cases here.symm.trans succeeded
    obtain ⟨answer, after, otherAfter, hereQuad, thereQuad, states⟩ :=
      alike.createQuad.both states
    cases hereQuad.symm.trans placed
    rw [(Evaluated.started program quad otherReady otherAfter (same.stopped stopped) otherBuilt
      thereQuad).decides]
    have limits := congrArg SessionOptions.idleFrames same.options
    have fresh := congrArg (fun limit =>
      (RunningShader.fresh program quad limit : RunningShader handles).unwarned) limits
    exact install_alike alike (adopt_alike alike (same.moved states) fresh) source document _

omit alike in
/-- A change through a handle asks nothing of the driver, so the states stay related. -/
theorem edit_keeps_state {Whole : Type} {session changed : Session handles Whole} {name : String}
    {index : Nat} {edit : Edit Modifier} (edited : session.edit? name index edit = some changed) :
    changed.state = session.state := by
  obtain ⟨shader, slot, running, seen, rfl⟩ := edit_ends edited
  rfl

omit alike in
/-- A change through a handle is made alike, or there is nothing to change on either side. -/
theorem edit_alike (same : SameStanding related session counterpart) (name : String)
    (index : Nat) (edit : Edit Modifier) :
    (session.edit? name index edit = none ∧ counterpart.edit? name index edit = none) ∨
      ∃ changed other, session.edit? name index edit = some changed ∧
        counterpart.edit? name index edit = some other ∧ SameStanding related changed other := by
  have edited := session.standing_edit name index edit
  rw [same.standing, ← counterpart.standing_edit name index edit] at edited
  cases here : session.edit? name index edit with
  | none =>
    rw [here] at edited
    exact .inl ⟨rfl, Option.map_eq_none_iff.mp edited.symm⟩
  | some changed =>
    rw [here, Option.map_some] at edited
    obtain ⟨other, there, standing⟩ := Option.map_eq_some_iff.mp edited.symm
    refine .inr ⟨changed, other, rfl, there, ?_, standing.symm⟩
    rw [edit_keeps_state here, edit_keeps_state there]
    exact same.states

omit alike in
/-- A request is answered alike, since replies are made of the standing alone. -/
theorem apply_alike (same : SameStanding related session counterpart) (command : Command) :
    (session.apply command).1 = (counterpart.apply command).1 ∧
      SameStanding related (session.apply command).2 (counterpart.apply command).2 := by
  have untouched {Whole : Type} (session : Session handles Whole) :
      (session.apply command).2.state = session.state := by
    have ends := apply_ends session command
    generalize session.apply command = result at ends
    cases ends with
    | answered command reply other => rfl
    | unknown command name => rfl
    | changed name index edit changed edited => exact edit_keeps_state edited
  have applied := session.standing_apply command
  rw [same.standing, ← counterpart.standing_apply command, Prod.mk.injEq] at applied
  refine ⟨applied.1, ?_, applied.2⟩
  rw [untouched, untouched]
  exact same.states

/-- Every operation is answered alike and leaves sessions of one standing. This is the step of the
induction over runs. -/
theorem perform_alike (same : SameStanding related session counterpart) (operation : Operation) :
    (session.perform left operation).1 = (counterpart.perform right operation).1 ∧
      SameStanding related (session.perform left operation).2
        (counterpart.perform right operation).2 := by
  cases operation with
  | eval source document =>
    obtain ⟨outcome, after⟩ := eval_alike alike same source document
    exact ⟨congrArg Answer.outcome outcome, after⟩
  | apply command =>
    obtain ⟨reply, after⟩ := apply_alike same command
    exact ⟨congrArg Answer.reply reply, after⟩
  | edit name index edit =>
    simp only [Session.perform]
    rcases edit_alike same name index edit with ⟨here, there⟩ | ⟨changed, other, here, there, after⟩
    · rw [here, there]
      exact ⟨rfl, same⟩
    · rw [here, there]
      exact ⟨rfl, after⟩
  | tick =>
    have wanted : session.wantsTick = counterpart.wantsTick := by
      rw [← session.standing_wants_tick, same.standing, counterpart.standing_wants_tick]
    obtain ⟨states, drawn⟩ := redraw_alike alike same
    simp only [Session.perform, Session.tick, ← wanted]
    split
    · exact ⟨congrArg Answer.drawn states, drawn⟩
    · exact ⟨rfl, same⟩
  | redraw =>
    obtain ⟨states, drawn⟩ := redraw_alike alike same
    exact ⟨congrArg Answer.drawn states, drawn⟩
  | resize =>
    refine ⟨rfl, ?_⟩
    simp only [Session.perform, Session.resize, ← alike.clientSize same.states]
    generalize left.canvas.clientSize session.state = size
    have sized := alike.setViewport size (alike.resizeDrawable size same.states)
    have told : (Notice.resized size).tellsUpload = false := rfl
    exact (redraw_alike alike ((same.moved sized).noted told)).2
  | present presentation =>
    exact ⟨rfl, same.moved (alike.setPresentation presentation same.states)⟩
  | release =>
    refine ⟨rfl, ?_⟩
    simp only [Session.perform, Session.release]
    cases runs : session.shader with
    | none =>
      rw [same.stopped runs]
      exact same
    | some shader =>
      obtain ⟨other, otherRuns, shaders⟩ := same.running runs
      obtain ⟨programs, quads, -, -⟩ := unwarned_parts shaders
      have released := alike.releaseQuad shader.quad
        (alike.releaseProgram shader.program same.states)
      rw [otherRuns]
      have stopped := congrArg (fun standing : Session handles Unit =>
        ({ standing with shader := none } : Session handles Unit)) same.standing
      refine ⟨?_, stopped⟩
      show related _ (right.driver.releaseQuad other.quad
        (right.driver.releaseProgram other.program counterpart.state))
      rw [← programs, ← quads]
      exact released

/-- Sessions of one standing have one standing after any operations, by induction on these. -/
theorem run_alike (same : SameStanding related session counterpart) (operations : List Operation) :
    SameStanding related (session.after left operations) (counterpart.after right operations) := by
  induction operations generalizing session counterpart with
  | nil => exact same
  | cons operation rest induction => exact induction (perform_alike alike same operation).2

end Operations

/-- Refused uploads disturb nothing.

Take two rigs that answer alike but for their verdicts on uploads, and do the same operations with
a session of each. Every operation is answered the same. After any number of them hosts see the
same, the loops are in the same state, the users have been told of the same sources, and the shaders
differ at most in their notes of failed uploads. The same calls have been made with the same
arguments, so that every other slot is uploaded and the picture is drawn and shown as if nothing had
been refused; and nothing but the events in the log that tell of failed uploads differs. -/
theorem refused_uploads_disturb_nothing {left : Rig handles Left} {right : Rig handles Right}
    {related : Left → Right → Prop} (alike : left.Alike right related) {state : Left}
    {other : Right} (states : related state other) (options : SessionOptions) (clock : Clock)
    (operations : List Operation) (operation : Operation) :
    let session :=
      (Session.start left.traced options clock (.begin state)).after left.traced operations
    let counterpart :=
      (Session.start right.traced options clock (.begin other)).after right.traced operations
    (session.perform left.traced operation).1 = (counterpart.perform right.traced operation).1 ∧
    session.snapshot = counterpart.snapshot ∧
    session.loopState? = counterpart.loopState? ∧
    session.wantsTick = counterpart.wantsTick ∧
    session.rejections = counterpart.rejections ∧
    session.clock = counterpart.clock ∧
    session.shader.map RunningShader.unwarned = counterpart.shader.map RunningShader.unwarned ∧
    session.state.calls.map Call.unjudged = counterpart.state.calls.map Call.unjudged ∧
    session.otherNotices = counterpart.otherNotices := by
  intro session counterpart
  have began : TracedAlike related (Traced.begin state : Traced handles Left) (.begin other) :=
    ⟨states, rfl⟩
  have started : SameStanding (TracedAlike related)
      (Session.start left.traced options clock (.begin state))
      (Session.start right.traced options clock (.begin other)) :=
    ⟨alike.traced.setPresentation .fullscreen began, rfl⟩
  have same : SameStanding (TracedAlike related) session counterpart :=
    run_alike alike.traced started operations
  have seen {View : Type} (view : Session handles Unit → View) :
      view session.standing = view counterpart.standing := congrArg view same.standing
  refine ⟨(perform_alike alike.traced same operation).1, ?_, ?_, ?_, ?_, same.clock, same.shader,
    same.states.2, seen Session.journal⟩
  · rw [← session.standing_snapshot, seen Session.snapshot, counterpart.standing_snapshot]
  · rw [← session.standing_loop_state, seen Session.loopState?, counterpart.standing_loop_state]
  · rw [← session.standing_wants_tick, seen Session.wantsTick, counterpart.standing_wants_tick]
  · rw [← session.standing_rejections, seen Session.rejections, counterpart.standing_rejections]

/-- Memories of scripted drivers that differ at most in the names they refuse. Two such drivers
answer everything alike but uploads. -/
def SameScript (left right : Scripted.Memory × Headless.Surface) : Prop :=
  ({ left.1 with rejected := [] } : Scripted.Memory) = { right.1 with rejected := [] } ∧
    left.2 = right.2

/-- What only allocates a handle is answered alike. -/
theorem allocate_alike (error : Script → Option String) :
    AnswersAlike SameScript
      (fun whole => ((Scripted.allocate (error whole.1.script) whole.1).1,
        (Scripted.allocate (error whole.1.script) whole.1).2, whole.2))
      (fun whole => ((Scripted.allocate (error whole.1.script) whole.1).1,
        (Scripted.allocate (error whole.1.script) whole.1).2, whole.2)) := by
  rintro ⟨⟨script, last, programs, refused⟩, surface⟩ ⟨⟨_, _, _, others⟩, _⟩ ⟨memories, surfaces⟩
  cases memories
  cases surfaces
  unfold Scripted.allocate
  cases failure : error script <;> simp [failure, SameScript]

/-- Scripted drivers that differ in the names they refuse answer alike but for their verdicts. -/
theorem scripted_alike : scriptedRig.Alike scriptedRig SameScript where
  compileStage stage _ := allocate_alike fun script => script.stageError stage
  releaseStage _ _ _ same := same
  link vertex fragment := by
    rintro ⟨⟨script, last, programs, refused⟩, surface⟩ ⟨⟨_, _, _, others⟩, _⟩
      ⟨memories, surfaces⟩
    cases memories
    cases surfaces
    cases failure : script.linkError <;>
      simp [scriptedRig, Rig.pair, Driver.lift, Scripted.driver, Scripted.link, Scripted.allocate,
        failure, SameScript]
  releaseProgram _ _ _ same := same
  useProgram _ _ _ same := same
  activeUniforms program := by
    rintro ⟨⟨script, last, programs, refused⟩, surface⟩ ⟨⟨_, _, _, others⟩, _⟩
      ⟨memories, surfaces⟩
    cases memories
    exact ⟨rfl, rfl, surfaces⟩
  uniformLocation program name := by
    rintro ⟨⟨script, last, programs, refused⟩, surface⟩ ⟨⟨_, _, _, others⟩, _⟩
      ⟨memories, surfaces⟩
    cases memories
    exact ⟨rfl, rfl, surfaces⟩
  upload location shape values := by
    have kept (memory : Scripted.Memory) :
        (Scripted.upload location shape values memory).2 = memory := by
      unfold Scripted.upload
      split <;> rfl
    rintro before other ⟨memories, surfaces⟩
    refine ⟨?_, surfaces⟩
    show ({ (Scripted.upload location shape values before.1).2 with rejected := [] } :
      Scripted.Memory) = { (Scripted.upload location shape values other.1).2 with rejected := [] }
    rw [kept, kept]
    exact memories
  createQuad := allocate_alike Script.quadError
  releaseQuad _ _ _ same := same
  setViewport _ _ _ same := same
  beginFrame _ _ _ _ same := same
  drawQuad _ _ same := same
  clientSize _ _ same := congrArg Headless.Surface.client same.2
  drawableSize _ _ same := congrArg Headless.Surface.drawable same.2
  resizeDrawable size _ _ same :=
    ⟨same.1, congrArg (fun surface : Headless.Surface => { surface with drawable := size }) same.2⟩
  setPresentation presentation _ _ same :=
    ⟨same.1, congrArg (Headless.canvas.setPresentation presentation) same.2⟩
  present _ _ same :=
    ⟨rfl, same.1, congrArg (fun surface => (Headless.canvas.present surface).2) same.2⟩

/-- A memory of a scripted driver that refuses some names, beside a canvas on which nothing was done
yet. -/
def refusing (names : List String) : Scripted.Memory × Headless.Surface :=
  (⟨⟨none, none, none, none, [⟨"level", .float, 1, true⟩]⟩, 0, [], names⟩, .sized ⟨8, 6⟩)

/-- A session whose driver refuses some names, after a source was shown and drawn again. -/
def refusedSession (names : List String) :
    Session Scripted.handles
      (Traced Scripted.handles (Scripted.Memory × Headless.Surface)) :=
  (Session.start scriptedRig.traced .standard (.stepped 0 1) (.begin (refusing names))).after
    scriptedRig.traced [.eval "" "first", .redraw]

/-- That a driver refuses a name is told in the log, and all else is as with one that does not. -/
theorem refused_name_disturbs_nothing :
    SameScript (refusing []) (refusing ["level"]) ∧
    (refusedSession []).journal.any Notice.tellsUpload = false ∧
    (refusedSession ["level"]).journal.any Notice.tellsUpload = true ∧
    ((refusedSession []).perform scriptedRig.traced .tick).1 =
      ((refusedSession ["level"]).perform scriptedRig.traced .tick).1 ∧
    (refusedSession []).snapshot = (refusedSession ["level"]).snapshot ∧
    (refusedSession []).state.calls.map Call.unjudged =
      (refusedSession ["level"]).state.calls.map Call.unjudged ∧
    (refusedSession []).otherNotices = (refusedSession ["level"]).otherNotices := by
  have states : SameScript (refusing []) (refusing ["level"]) := ⟨rfl, rfl⟩
  obtain ⟨answers, snapshots, -, -, -, -, -, calls, notices⟩ :=
    refused_uploads_disturb_nothing scripted_alike states .standard (.stepped 0 1)
      [.eval "" "first", .redraw] .tick
  exact ⟨states, rfl, rfl, answers, snapshots, calls, notices⟩

end LiveShader

import LiveShader.Session.Operation

/-!
# What operations do

Each operation of a session is told once with everything that it can do, so that a statement about
all operations follows from these few. A frame is drawn if there is a shader. A request is
answered without a change, or changes one component and wakes the loop. An evaluation ends in one
of four ways: no program is built; a first program is built but has no quad; a program replaces
that of the running shader; or a first shader starts.

The last two of the four install a shader in the same manner. A reload may restart the loop before
the new uniforms are taken in, since taking them in does not touch the loop. The ways in which any
operation ends are put together at the end.
-/
namespace LiveShader

variable {handles : Handles} {State : Type} {rig : Rig handles State}

/-- Without a shader there is nothing to draw, and drawing does nothing at all: the clock is not
read either. -/
theorem redraw_without_shader {session : Session handles State} (stopped : session.shader = none) :
    session.redraw rig = (none, session) := by
  unfold Session.redraw
  split
  · rfl
  · simp_all

/-- A frame starts no shader, and stops none. -/
theorem redraw_stopped {session : Session handles State} (stopped : session.shader = none) :
    (session.redraw rig).2.shader = none := by
  rwa [redraw_without_shader stopped]

/-- With a shader one frame of it is drawn. -/
theorem redraw_of_shader {session : Session handles State} {shader : RunningShader handles}
    (running : session.shader = some shader) :
    session.redraw rig =
      (some (session.drawShader rig shader).1, (session.drawShader rig shader).2) := by
  unfold Session.redraw
  split
  · simp_all
  · rename_i other same
    cases running.symm.trans same
    rfl

/-- What a frame makes of its shader: the modifiers run for the time since the frame before, the
slots are sent, and the loop is a frame older. -/
theorem draw_ends (rig : Rig handles State) (session : Session handles State)
    (shader : RunningShader handles) :
    ∃ now inputs state,
      (session.drawShader rig shader).2.shader = some { shader with
        registry :=
          ((shader.registry.advance (shader.frames.elapsed now)).send rig.driver inputs state).1
        frames := (shader.frames.beginFrame now).endFrame
          ((shader.registry.advance (shader.frames.elapsed now)).send rig.driver inputs
            state).1.readsTime } :=
  ⟨_, _, _, rfl⟩

section Follows

variable (driver : Driver handles State) {follows : State → State → Prop}
  (refl : ∀ state, follows state state)
  (trans : ∀ {before middle after}, follows before middle → follows middle after →
    follows before after)
include refl trans

/-- Whatever follows from every upload follows from sending all slots. The relation has to be one
that steps can be put together with. -/
theorem send_follows
    (upload : ∀ location shape values state,
      follows state (driver.upload location shape values state).2)
    (registry : Registry handles.Location) (inputs : FrameInputs) (state : State) :
    follows state (registry.send driver inputs state).2.2 := by
  have sent (slot : Slot handles.Location) (name : String) (state : State × List FailedUpload) :
      follows state.1 (Registry.sendSlot driver inputs name slot state).2.1 := by
    unfold Registry.sendSlot
    cases slot.location with
    | none => exact refl _
    | some location =>
      have uploaded := upload location slot.shape (Registry.payload inputs name slot) state.1
      rcases answer : driver.upload location slot.shape (Registry.payload inputs name slot) state.1
        with ⟨refused | _, after⟩ <;> simpa only [answer] using uploaded
  have steps (entries : List (String × Slot handles.Location))
      (state : State × List FailedUpload) :
      follows state.1
        (NameTable.stepEntries (Registry.sendSlot driver inputs) entries state).2.1 := by
    induction entries generalizing state with
    | nil => exact refl _
    | cons entry rest induction => exact trans (sent entry.2 entry.1 state) (induction _)
  exact steps registry.slots.entries (state, [])

omit refl in
/-- Whatever follows from every call of a build follows from the build, on each of its ways: a stage
that fails, a link that fails, and success. -/
theorem build_follows
    (compiled : ∀ stage source state, follows state (driver.compileStage stage source state).2)
    (released : ∀ stage state, follows state (driver.releaseStage stage state))
    (linked : ∀ vertex fragment state, follows state (driver.link vertex fragment state).2)
    (used : ∀ program state, follows state (driver.useProgram program state))
    (vertexSource fragmentSource : String) (state : State) :
    follows state (driver.build vertexSource fragmentSource state).2 := by
  have vertexStep := compiled .vertex vertexSource state
  unfold Driver.build
  rcases vertexAnswer : driver.compileStage .vertex vertexSource state with
    ⟨log | vertex, afterVertex⟩
  · simpa only [vertexAnswer] using vertexStep
  rw [vertexAnswer] at vertexStep
  have fragmentStep := compiled .fragment fragmentSource afterVertex
  rcases fragmentAnswer : driver.compileStage .fragment fragmentSource afterVertex with
    ⟨log | fragment, afterFragment⟩ <;> rw [fragmentAnswer] at fragmentStep
  · simp only [fragmentAnswer]
    exact trans (trans vertexStep fragmentStep) (released vertex afterFragment)
  have linkStep := linked vertex fragment afterFragment
  rcases linkAnswer : driver.link vertex fragment afterFragment with ⟨answer, afterLink⟩
  rw [linkAnswer] at linkStep
  have freed := trans (trans (trans vertexStep fragmentStep) linkStep)
    (trans (released vertex afterLink) (released fragment _))
  simp only [fragmentAnswer, linkAnswer]
  cases answer with
  | error log => exact freed
  | ok program => exact trans freed (used program _)

/-- Whatever follows from asking for one location follows from asking for all, by induction on the
uniforms that are asked for. -/
theorem locate_follows (program : handles.Program)
    (located : ∀ name state, follows state (driver.uniformLocation program name state).2)
    (actives : List ActiveUniform) (state : State) :
    follows state (locateAll driver program actives state).2 := by
  induction actives generalizing state with
  | nil => exact refl _
  | cons active rest induction => exact trans (located active.name state) (induction _)

end Follows

/-- The running shader after a change of one component, which wakes its loop. The change itself is
left to the registry. -/
def RunningShader.changed (shader : RunningShader handles) (name : String) (index : Nat)
    (edit : Edit Modifier) : RunningShader handles :=
  { shader with registry := shader.registry.edit name index edit, frames := shader.frames.wake }

/-- What a change reports: that the loop is woken, if it was idle. -/
def RunningShader.wakeNotices (shader : RunningShader handles) : List Notice :=
  if shader.frames.isAnimating then [] else [.woken]

/-- A change through a handle needs a shader and a uniform that hosts see, and changes only the
shader. -/
theorem edit_ends {session changed : Session handles State} {name : String} {index : Nat}
    {edit : Edit Modifier} (edited : session.edit? name index edit = some changed) :
    ∃ shader slot, session.shader = some shader ∧ shader.registry.get? name = some slot ∧
      changed = { session with
        shader := some (shader.changed name index edit)
        journal := session.journal ++ shader.wakeNotices } := by
  unfold Session.edit? at edited
  cases running : session.shader with
  | none => simp [running] at edited
  | some shader =>
    cases seen : shader.registry.get? name with
    | none => simp [running, seen] at edited
    | some slot =>
      refine ⟨shader, slot, rfl, seen, ?_⟩
      simp only [running, seen, Option.some.injEq] at edited
      subst edited
      unfold RunningShader.wakeNotices
      split
      · simp [RunningShader.changed]
      · rfl

/-- An answer to a request with the session after it, in one of the ways in which a request can end.
A change needs a shader and a name that hosts see. -/
inductive Applied (session : Session handles State) :
    Command → Reply × Session handles State → Prop where
  /-- The request is answered, or there is no shader. -/
  | answered (command : Command) (reply : Reply) (other : reply ≠ .applied) :
      Applied session command (reply, session)
  /-- Hosts see no uniform of the name. -/
  | unknown (command : Command) (name : String) :
      Applied session command (.unknown name, session.note (.unknownUniform name))
  /-- One component was changed. -/
  | changed (name : String) (index : Nat) (edit : Edit Formula) (changed : Session handles State)
      (edited : session.edit? name index (edit.map Formula.modifier) = some changed) :
      Applied session (.change name index edit) (.applied, changed)

/-- Every request ends in one of the three ways. Proofs about requests split into these and do not
look at the requests again. -/
theorem apply_ends (session : Session handles State) (command : Command) :
    Applied session command (session.apply command) := by
  unfold Session.apply
  split
  · exact .answered command .noShader (by simp)
  · split
    · exact .answered _ _ (by simp)
    · split
      · exact .unknown _ _
      · exact .answered _ _ (by simp)
    · split
      · exact .unknown _ _
      · rename_i edited
        exact .changed _ _ _ _ edited

/-- The build that an evaluation starts with, of the vertex shader and of the wrapped source in the
dialect of the session. -/
def Session.built (rig : Rig handles State) (session : Session handles State) (source : String) :
    Except BuildError handles.Program × State :=
  rig.driver.build (vertexSource session.options.dialect)
    (wrapFragment source session.options.dialect) session.state

/-- The running shader with another program and its loop restarted. -/
def RunningShader.replaced (shader : RunningShader handles) (program : handles.Program) :
    RunningShader handles :=
  { shader with program, frames := shader.frames.restart }

/-- A shader that has just been built: no uniforms yet, and no frames. Its uniforms are taken in
before it first draws. -/
def RunningShader.fresh (program : handles.Program) (quad : handles.Quad) (idleFrames : Nat) :
    RunningShader handles :=
  ⟨program, quad, .empty, .start idleFrames⟩

/-- An outcome with the session after it, told by what the driver answered. -/
inductive Evaluated (rig : Rig handles State) (session : Session handles State)
    (source document : String) : EvalOutcome × Session handles State → Prop where
  /-- No program was built. -/
  | unbuilt (failure : BuildError) (state : State)
      (failed : session.built rig source = (.error failure, state)) :
      Evaluated rig session source document
        ((({ session with state } : Session handles State).note
          (.buildFailed document failure)).reject
          (Diagnostic.ofLog failure.log headerSize) document)
  /-- The first program was built, but there is no quad to draw it on. -/
  | withoutQuad (program : handles.Program) (ready state : State) (text : String)
      (stopped : session.shader = none)
      (succeeded : session.built rig source = (.ok program, ready))
      (failed : rig.driver.createQuad ready = (.error text, state)) :
      Evaluated rig session source document
        (({ session with state := rig.driver.releaseProgram program state } :
          Session handles State).reject (.raw text) document)
  /-- A program replaced that of the running shader. -/
  | reloaded (shader : RunningShader handles) (program : handles.Program) (ready : State)
      (running : session.shader = some shader)
      (succeeded : session.built rig source = (.ok program, ready)) :
      Evaluated rig session source document
        ((({ session with state := rig.driver.releaseProgram shader.program ready } :
          Session handles State).adopt rig (shader.replaced program)).install rig source document
          .reloaded)
  /-- A first shader started. -/
  | started (program : handles.Program) (quad : handles.Quad) (ready state : State)
      (stopped : session.shader = none)
      (succeeded : session.built rig source = (.ok program, ready))
      (placed : rig.driver.createQuad ready = (.ok quad, state)) :
      Evaluated rig session source document
        ((({ session with state } : Session handles State).adopt rig
          (.fresh program quad session.options.idleFrames)).install rig source document .started)

/-- Every evaluation ends in one of the four ways, which are read off the definition once and for
all here. -/
theorem eval_ends (rig : Rig handles State) (session : Session handles State)
    (source document : String) :
    Evaluated rig session source document (session.eval rig source document) := by
  obtain ⟨state, clock, options, running, journal⟩ := session
  unfold Session.eval
  rcases answer : rig.driver.build (vertexSource options.dialect)
    (wrapFragment source options.dialect) state with ⟨failure | program, ready⟩
  · simp only [answer]
    exact .unbuilt failure ready answer
  · simp only [answer]
    cases running with
    | some shader => exact .reloaded shader program ready rfl answer
    | none =>
      rcases placed : rig.driver.createQuad ready with ⟨text | quad, state⟩
      · exact .withoutQuad program ready state text rfl answer placed
      · exact .started program quad ready state rfl answer placed

/-- The four ways exclude each other, so what leads to one of them is what the evaluation ends in.
-/
theorem Evaluated.decides {rig : Rig handles State} {session : Session handles State}
    {source document : String} {result : EvalOutcome × Session handles State}
    (ends : Evaluated rig session source document result) :
    session.eval rig source document = result := by
  obtain ⟨state, clock, options, running, journal⟩ := session
  unfold Session.eval
  cases ends with
  | unbuilt failure state failed =>
    unfold Session.built at failed
    simp only [failed]
  | withoutQuad program ready state text stopped succeeded failed =>
    cases stopped
    unfold Session.built at succeeded
    simp only [succeeded, failed]
  | reloaded shader program ready running succeeded =>
    cases running
    unfold Session.built at succeeded
    simp only [succeeded]
    rfl
  | started program quad ready state stopped succeeded placed =>
    cases stopped
    unfold Session.built at succeeded
    simp only [succeeded, placed]
    rfl

/-- Whether an operation draws whatever the state of the loop is. -/
def Operation.isForced : Operation → Bool
  | .redraw | .resize => true
  | _ => false

/-- Whether an answer says that an operation renewed the loop: a source was installed, or a
component was changed. -/
def Answer.renews : Answer → Bool
  | .outcome .started | .outcome .reloaded => true
  | .reply .applied => true
  | .edited held => held
  | _ => false

/-- An answer to an operation with the session after it. Operations that end alike have one case, so
that a redraw and a tick that draws are the same from here on. -/
inductive Performed (rig : Rig handles State) (session : Session handles State) :
    Operation → Answer × Session handles State → Prop where
  /-- A source was evaluated. -/
  | evaluated (source document : String) :
      Performed rig session (.eval source document)
        (.outcome (session.eval rig source document).1, (session.eval rig source document).2)
  /-- Nothing was done, though something may have been answered or noted for the log. -/
  | passed (operation : Operation) (answer : Answer) (notices : List Notice)
      (other : operation.evaluates = false) (unrenewed : answer.renews = false)
      (unreported : notices.filterMap Notice.rejection? = []) :
      Performed rig session operation
        (answer, { session with journal := session.journal ++ notices })
  /-- A component was changed. -/
  | changed (operation : Operation) (answer : Answer) (name : String) (index : Nat)
      (edit : Edit Modifier) (changed : Session handles State) (other : operation.evaluates = false)
      (renewed : answer.renews = true) (edited : session.edit? name index edit = some changed) :
      Performed rig session operation (answer, changed)
  /-- A frame was drawn, if there is a shader. -/
  | drawn (operation : Operation) (other : operation.evaluates = false)
      (awake : operation.isForced = true ∨ session.wantsTick = true) :
      Performed rig session operation
        (.drawn (session.redraw rig).1, (session.redraw rig).2)
  | resized : Performed rig session .resize (.done, session.resize rig)
  | presented (presentation : Presentation) :
      Performed rig session (.present presentation)
        (.done, { session with state := rig.canvas.setPresentation presentation session.state })
  /-- The program and the quad of the running shader were given back. -/
  | released (shader : RunningShader handles) (running : session.shader = some shader) :
      Performed rig session .release
        (.done, { session with
          state := rig.driver.releaseQuad shader.quad
            (rig.driver.releaseProgram shader.program session.state)
          shader := none })

/-- Every operation ends in one of these ways. It is the case split of all proofs that go along a
run without looking at frames. -/
theorem perform_ends (rig : Rig handles State) (session : Session handles State)
    (operation : Operation) : Performed rig session operation (session.perform rig operation) := by
  have idle (operation : Operation) (answer : Answer) (other : operation.evaluates = false)
      (unrenewed : answer.renews = false) : Performed rig session operation (answer, session) := by
    have passed : Performed rig session operation
        (answer, { session with journal := session.journal ++ [] }) :=
      .passed operation answer [] other unrenewed rfl
    rwa [List.append_nil] at passed
  cases operation with
  | eval source document => exact .evaluated source document
  | apply command =>
    have ends := apply_ends session command
    show Performed rig session _ (.reply (session.apply command).1, (session.apply command).2)
    generalize session.apply command = result at ends
    cases ends with
    | answered command reply other =>
      have unrenewed : (Answer.reply reply).renews = false := by
        cases reply <;> first | rfl | exact absurd rfl other
      exact idle _ _ rfl unrenewed
    | unknown command name => exact .passed _ _ [.unknownUniform name] rfl rfl rfl
    | changed name index edit changed edited =>
      exact .changed _ _ name index (edit.map Formula.modifier) changed rfl rfl edited
  | edit name index edit =>
    cases edited : session.edit? name index edit with
    | none =>
      simp only [Session.perform, edited]
      exact idle _ _ rfl rfl
    | some changed =>
      simp only [Session.perform, edited]
      exact .changed _ _ name index edit changed rfl rfl edited
  | tick =>
    show Performed rig session .tick (.drawn (session.tick rig).1, (session.tick rig).2)
    unfold Session.tick
    split
    · rename_i wanted
      exact .drawn .tick rfl (.inr wanted)
    · exact idle _ _ rfl rfl
  | redraw => exact .drawn .redraw rfl (.inl rfl)
  | resize => exact .resized
  | present presentation => exact .presented presentation
  | release =>
    show Performed rig session .release (.done, session.release rig)
    unfold Session.release
    cases running : session.shader with
    | none => exact idle _ _ rfl rfl
    | some shader => exact .released shader running

end LiveShader

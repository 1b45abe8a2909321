import LiveShader.Graphics.Trace
import LiveShader.Proofs.Operations
import LiveShader.Proofs.Tables

/-!
# Tracing changes nothing

A session over a traced rig is the session over the rig itself, with a list of calls beside its
state. What is shown of traced sessions is therefore shown of all: the answers are the same, and
so are the shader, the clock, the reports and the state once the list is put aside.

Each part of an operation is followed in turn. A single call agrees by definition, so a part needs
an argument only where it goes on by what it was answered, or from one uniform to the next.
-/
namespace LiveShader

variable {handles : Handles} {State Answer : Type}

/-- An answer with the state after it, the list of calls put aside. -/
def untracedAnswer (result : Answer × Traced handles State) : Answer × State :=
  (result.1, result.2.state)

/-- A session with the list of calls put aside. -/
def Session.untraced (session : Session handles (Traced handles State)) : Session handles State :=
  { session with state := session.state.state }

/-- An answer with the session after it, the list of calls put aside. -/
def untracedSession (result : Answer × Session handles (Traced handles State)) :
    Answer × Session handles State :=
  (result.1, result.2.untraced)

variable (rig : Rig handles State)

/-- A traced build ends as the build it traces: it goes on by the answers, and these are the same.
-/
theorem build_untraced (vertexSource fragmentSource : String) (traced : Traced handles State) :
    untracedAnswer (rig.traced.driver.build vertexSource fragmentSource traced) =
      rig.driver.build vertexSource fragmentSource traced.state := by
  unfold Driver.build untracedAnswer
  rcases vertexAnswer : rig.driver.compileStage .vertex vertexSource traced.state with
    ⟨log | vertex, afterVertex⟩
  · simp only [Rig.traced, Driver.traced, Traced.ask, vertexAnswer]
  rcases fragmentAnswer : rig.driver.compileStage .fragment fragmentSource afterVertex with
    ⟨log | fragment, afterFragment⟩
  · simp only [Rig.traced, Driver.traced, Traced.ask, Traced.tell, vertexAnswer, fragmentAnswer]
  rcases linkAnswer : rig.driver.link vertex fragment afterFragment with ⟨log | program, afterLink⟩
  all_goals
    simp only [Rig.traced, Driver.traced, Traced.ask, Traced.tell, vertexAnswer, fragmentAnswer,
      linkAnswer]

/-- The uniforms of a program and their places are the same, by induction on what the driver lists.
-/
theorem declared_untraced (program : handles.Program) (traced : Traced handles State) :
    untracedAnswer (rig.traced.driver.declared program traced) =
      rig.driver.declared program traced.state := by
  have located (actives : List ActiveUniform) (traced : Traced handles State) :
      untracedAnswer (locateAll rig.traced.driver program actives traced) =
        locateAll rig.driver program actives traced.state := by
    induction actives generalizing traced with
    | nil => rfl
    | cons active rest induction =>
      have later := induction (rig.traced.driver.uniformLocation program active.name traced).2
      simp only [untracedAnswer, Prod.ext_iff] at later ⊢
      exact ⟨congrArg (List.cons _) later.1, later.2⟩
  exact located _ _

/-- Uploads are answered the same, and leave the same slots and failures. The slots are sent in the
order of their names, so the argument goes along the entries of the table. -/
theorem send_untraced (registry : Registry handles.Location) (inputs : FrameInputs)
    (traced : Traced handles State) :
    ((registry.send rig.traced.driver inputs traced).1,
        (registry.send rig.traced.driver inputs traced).2.1,
        (registry.send rig.traced.driver inputs traced).2.2.state) =
      registry.send rig.driver inputs traced.state := by
  have sent (name : String) (slot : Slot handles.Location)
      (state : Traced handles State × List FailedUpload) :
      ((Registry.sendSlot rig.traced.driver inputs name slot state).1,
          (Registry.sendSlot rig.traced.driver inputs name slot state).2.1.state,
          (Registry.sendSlot rig.traced.driver inputs name slot state).2.2) =
        Registry.sendSlot rig.driver inputs name slot (state.1.state, state.2) := by
    unfold Registry.sendSlot
    cases slot.location with
    | none => rfl
    | some location =>
      rcases answer : rig.driver.upload location slot.shape (Registry.payload inputs name slot)
        state.1.state with ⟨refused | _, after⟩
      all_goals simp only [Rig.traced, Driver.traced, Traced.ask, answer]
  have steps := NameTable.step_through_view registry.slots
    (Registry.sendSlot rig.traced.driver inputs) (Registry.sendSlot rig.driver inputs)
    (fun state => (state.1.state, state.2)) (traced, []) sent
  simp only [Prod.ext_iff] at steps ⊢
  exact ⟨congrArg Registry.mk steps.1, steps.2.2, steps.2.1⟩

/-- A frame of a shader is drawn the same, with the same answer of the canvas at its end. -/
theorem draw_untraced (session : Session handles (Traced handles State))
    (shader : RunningShader handles) :
    untracedSession (session.drawShader rig.traced shader) =
      session.untraced.drawShader rig shader := by
  have sent := send_untraced rig
    (shader.registry.advance (shader.frames.elapsed session.clock.sample.1))
    ⟨session.clock.sample.1.toFloat32, rig.canvas.drawableSize session.state.state⟩
    (rig.traced.driver.beginFrame shader.program shader.quad session.state)
  change _ = Registry.send rig.driver _ _
    (rig.driver.beginFrame shader.program shader.quad session.state.state) at sent
  unfold Session.drawShader untracedSession Session.untraced
  dsimp only
  rw [← sent]
  rfl

/-- A frame is drawn the same, be there a shader to draw or none. -/
theorem redraw_untraced (session : Session handles (Traced handles State)) :
    untracedSession (session.redraw rig.traced) = session.untraced.redraw rig := by
  cases running : session.shader with
  | none =>
    have stopped : session.untraced.shader = none := running
    rw [redraw_without_shader running, redraw_without_shader stopped]
    rfl
  | some shader =>
    have runs : session.untraced.shader = some shader := running
    rw [redraw_of_shader running, redraw_of_shader runs, ← draw_untraced]
    rfl

/-- The uniforms of a program are taken in the same, since they are rebuilt from what the driver
lists. -/
theorem adopt_untraced (session : Session handles (Traced handles State))
    (shader : RunningShader handles) :
    (session.adopt rig.traced shader).untraced = session.untraced.adopt rig shader := by
  have declared := declared_untraced rig shader.program session.state
  unfold Session.adopt
  change _ = rig.driver.declared shader.program session.untraced.state at declared
  rw [← declared]
  rfl

/-- An installation ends the same: the canvas is told of the presentation if the source asks for
one, and the first frame is drawn. -/
theorem install_untraced (session : Session handles (Traced handles State))
    (source document : String) (outcome : EvalOutcome) :
    untracedSession (session.install rig.traced source document outcome) =
      session.untraced.install rig source document outcome := by
  unfold Session.install
  cases sizeDirective? source with
  | none => exact congrArg (fun drawn => (outcome, drawn.2)) (redraw_untraced rig _)
  | some mode => exact congrArg (fun drawn => (outcome, drawn.2)) (redraw_untraced rig _)

/-- An evaluation ends the same, whichever of its four ways it takes. -/
theorem eval_untraced (session : Session handles (Traced handles State))
    (source document : String) :
    untracedSession (session.eval rig.traced source document) =
      session.untraced.eval rig source document := by
  have built : untracedAnswer (session.built rig.traced source) =
      session.untraced.built rig source := build_untraced rig _ _ session.state
  -- Each way in which the traced evaluation ends is a way for the one it traces.
  have ends := eval_ends rig.traced session source document
  generalize session.eval rig.traced source document = result at ends
  symm
  cases ends with
  | unbuilt failure state failed =>
    rw [failed] at built
    exact (Evaluated.unbuilt failure state.state built.symm).decides
  | withoutQuad program ready state text stopped succeeded failed =>
    rw [succeeded] at built
    have unplaced := congrArg untracedAnswer failed
    exact (Evaluated.withoutQuad program ready.state state.state text stopped built.symm
      unplaced).decides
  | reloaded shader program ready running succeeded =>
    rw [succeeded] at built
    refine (Evaluated.reloaded shader program ready.state running built.symm).decides.trans ?_
    refine Eq.trans ?_ (install_untraced rig _ source document .reloaded).symm
    rw [adopt_untraced]
    rfl
  | started program quad ready state stopped succeeded placed =>
    rw [succeeded] at built
    have handed := congrArg untracedAnswer placed
    refine (Evaluated.started program quad ready.state state.state stopped built.symm
      handed).decides.trans ?_
    refine Eq.trans ?_ (install_untraced rig _ source document .started).symm
    rw [adopt_untraced]
    rfl

/-- A change through a handle is the same, as it makes no call at all. -/
theorem edit_untraced (session : Session handles (Traced handles State)) (name : String)
    (index : Nat) (edit : Edit Modifier) :
    (session.edit? name index edit).map Session.untraced =
      session.untraced.edit? name index edit := by
  obtain ⟨traced, clock, options, running, journal⟩ := session
  cases running with
  | none => rfl
  | some shader =>
    simp only [Session.edit?, Session.untraced]
    cases shader.registry.get? name with
    | none => rfl
    | some slot => cases shader.frames.isAnimating <;> rfl

/-- A request is answered the same and changes the same, as it makes no call either. -/
theorem apply_untraced (session : Session handles (Traced handles State)) (command : Command) :
    ((session.apply command).1, (session.apply command).2.untraced) =
      session.untraced.apply command := by
  have changes (name : String) (index : Nat) (edit : Edit Modifier) :=
    edit_untraced session name index edit
  obtain ⟨traced, clock, options, running, journal⟩ := session
  unfold Session.apply
  cases running with
  | none => rfl
  | some shader =>
    cases command with
    | dump => rfl
    | get name index =>
      simp only [Session.untraced]
      cases shader.registry.get? name <;> rfl
    | change name index edit =>
      simp only [Session.untraced] at changes ⊢
      rw [← changes]
      cases Session.edit? _ name index (edit.map Formula.modifier) <;> rfl

/-- Every operation is answered the same and leaves the same session. With this a run over the rig
may be taken for a traced one wherever its calls are to be spoken of. -/
theorem perform_untraced (session : Session handles (Traced handles State))
    (operation : Operation) :
    untracedSession (session.perform rig.traced operation) =
      session.untraced.perform rig operation := by
  cases operation with
  | eval source document =>
    exact congrArg (fun result => (Answer.outcome result.1, result.2))
      (eval_untraced rig session source document)
  | apply command =>
    exact congrArg (fun result => (Answer.reply result.1, result.2))
      (apply_untraced session command)
  | edit name index edit =>
    have changes := edit_untraced session name index edit
    simp only [Session.perform]
    rw [← changes]
    cases session.edit? name index edit <;> rfl
  | tick =>
    have ticks : untracedSession (session.tick rig.traced) = session.untraced.tick rig := by
      have wanted : session.untraced.wantsTick = session.wantsTick := rfl
      unfold Session.tick
      rw [wanted]
      split
      · exact redraw_untraced rig session
      · rfl
    exact congrArg (fun result => (Answer.drawn result.1, result.2)) ticks
  | redraw =>
    exact congrArg (fun result => (Answer.drawn result.1, result.2)) (redraw_untraced rig session)
  | resize => exact congrArg (fun result => (Answer.done, result.2)) (redraw_untraced rig _)
  | present presentation => rfl
  | release =>
    obtain ⟨traced, clock, options, running, journal⟩ := session
    cases running <;> rfl

/-- What a traced session has become after operations is what the session that it traces has
become after them. -/
theorem after_untraced (session : Session handles (Traced handles State))
    (operations : List Operation) :
    (session.after rig.traced operations).untraced = session.untraced.after rig operations := by
  induction operations generalizing session with
  | nil => rfl
  | cons operation rest induction =>
    have first := congrArg Prod.snd (perform_untraced rig session operation)
    refine (induction _).trans ?_
    exact congrArg (fun session => Session.after rig session rest) first

end LiveShader

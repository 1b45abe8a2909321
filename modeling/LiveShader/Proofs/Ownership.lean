import LiveShader.Proofs.Custody

/-!
# What a session owns

Every operation takes a session that owns the program and the quad of its running shader to one
that owns those of the shader running then, over any rig that keeps an account. An evaluation
passes through one of its four ends: a failed build leaves nothing, a first program without a quad
is given back, and a reload gives the old program back once the new one is bound.

A run is one operation after another. At its end the session owns exactly the objects of its
running shader, that shader's program is the one bound last, and once it has been released it owns
nothing until something is evaluated again.
-/
namespace LiveShader

variable {handles : Handles} {State Object : Type} {rig : Rig handles State}
  {custody : Custody handles Object} {events : State → List (ObjectEvent Object)}

/-- A step takes what the session owns before it to what it owns after it, and the program of a
shader that runs after it is the one bound last. -/
def Passes (custody : Custody handles Object) (events : State → List (ObjectEvent Object))
    (before after : Session handles State) : Prop :=
  ∃ bound,
    Moves events (custody.running before.shader) (custody.running after.shader) bound
      before.state after.state ∧
    (after.isRunning → bound.or (custody.target before.shader) = custody.target after.shader)

/-- Where the objects and the state stay as they are, everything passes. -/
theorem Passes.same {before after : Session handles State} (state : after.state = before.state)
    (running : custody.running after.shader = custody.running before.shader)
    (target : custody.target after.shader = custody.target before.shader) :
    Passes custody events before after := by
  refine ⟨none, ?_, fun _ => ?_⟩
  · rw [state, running]
    exact .refl _ _
  · rw [target, Option.none_or]

/-- One step after another. -/
theorem Passes.trans {before middle after : Session handles State}
    (first : Passes custody events before middle) (second : Passes custody events middle after) :
    Passes custody events before after := by
  obtain ⟨bound, moves, binds⟩ := first
  obtain ⟨boundLater, movesLater, bindsLater⟩ := second
  refine ⟨_, moves.trans movesLater, fun isRunning => ?_⟩
  specialize bindsLater isRunning
  rw [Option.or_assoc]
  by_cases running : middle.isRunning
  · rw [binds running, bindsLater]
  · -- A shader that runs now and not before was bound in the meantime.
    obtain ⟨shader, started⟩ := Option.isSome_iff_exists.mp isRunning
    simp only [Session.isRunning, Option.not_isSome_iff_eq_none] at running
    simp only [Custody.target, running, started, Option.map_none, Option.or_none,
      Option.map_some] at bindsLater ⊢
    rw [bindsLater, Option.some_or]

/-- A frame keeps the objects of the running shader. -/
theorem redraw_running (session : Session handles State) :
    custody.running (session.redraw rig).2.shader = custody.running session.shader := by
  cases running : session.shader with
  | none => rw [redraw_without_shader running, running]
  | some shader =>
    rw [redraw_of_shader running]
    rfl

/-- A frame keeps the program of the running shader. -/
theorem redraw_target (session : Session handles State) :
    custody.target (session.redraw rig).2.shader = custody.target session.shader := by
  cases running : session.shader with
  | none => rw [redraw_without_shader running, running]
  | some shader =>
    rw [redraw_of_shader running]
    rfl

/-- A change through a handle touches no object. -/
theorem edit_passes {session changed : Session handles State} {name : String} {index : Nat}
    {edit : Edit Modifier} (edited : session.edit? name index edit = some changed) :
    Passes custody events session changed := by
  obtain ⟨shader, slot, running, -, rfl⟩ := edit_ends edited
  refine .same rfl ?_ ?_ <;> rw [running] <;> rfl

section Steps

variable (account : rig.KeepsAccount custody events)
include account

/-- Whatever has passed to a session is still owned once that session has drawn, and the frame
binds the program. -/
theorem Passes.redrawn {before after : Session handles State} {bound : Option Object}
    (moves : Moves events (custody.running before.shader) (custody.running after.shader) bound
      before.state after.state) :
    Passes custody events before (after.redraw rig).2 := by
  have drawn := moves.trans (redraw_moves account after)
  refine ⟨_, by rwa [redraw_running], fun isRunning => ?_⟩
  rw [redraw_target]
  cases running : after.shader with
  | none => simp [redraw_without_shader running, Session.isRunning, running] at isRunning
  | some shader => rfl

/-- A shader whose program and quad have passed to the session is installed with them. -/
theorem install_passes (before session : Session handles State) (shader : RunningShader handles)
    {bound : Option Object} (source document : String) (outcome : EvalOutcome)
    (moves : Moves events (custody.running before.shader) (custody.shader shader) bound
      before.state session.state) :
    Passes custody events before
      ((session.adopt rig shader).install rig source document outcome).2 := by
  have asked := (declared_moves account shader.program session.state).beside
    (custody.quad shader.quad)
  have adopted := moves.trans asked
  unfold Session.install
  cases sizeDirective? source with
  | none => exact .redrawn account adopted
  | some mode =>
    exact .redrawn account (adopted.trans ((account.setPresentation mode _).idle _))

/-- The build of an evaluation leaves its program, or nothing. -/
theorem built_moves (session : Session handles State) (source : String) :
    match session.built rig source with
    | (.ok program, after) =>
      Moves events 0 {custody.program program} (some (custody.program program)) session.state after
    | (.error _, after) => Moves events 0 0 none session.state after :=
  build_moves account _ _ session.state

/-- An evaluation passes the objects on, however it ends. -/
theorem eval_passes (session : Session handles State) (source document : String) :
    Passes custody events session (session.eval rig source document).2 := by
  have ends := eval_ends rig session source document
  have built := built_moves account session source
  generalize session.eval rig source document = result at ends
  cases ends with
  | unbuilt failure state failed =>
    rw [failed] at built
    exact ⟨none, built.idle _, fun _ => Option.none_or⟩
  | withoutQuad program ready state text stopped succeeded failed =>
    rw [succeeded] at built
    have quad := account.createQuad ready
    rw [failed] at quad
    have released := (built.trans (quad.idle _)).trans (account.releaseProgram program state)
    refine ⟨some (custody.program program), ?_, fun isRunning => ?_⟩
    · rwa [Session.reject, Session.note, stopped]
    · simp [Session.reject, Session.note, Session.isRunning, stopped] at isRunning
  | reloaded shader program ready running succeeded =>
    rw [succeeded] at built
    have both := built.beside (custody.shader shader)
    have released := (account.releaseProgram shader.program ready).beside
      ({custody.program program} + custody.quad shader.quad)
    rw [Multiset.zero_add] at both released
    rw [Custody.shader, ← Multiset.add_assoc, Multiset.add_comm {custody.program program},
      Multiset.add_assoc] at both
    have moved := both.trans released
    exact install_passes account session _ (shader.replaced program) source document .reloaded
      (by rwa [running])
  | started program quad ready state stopped succeeded placed =>
    rw [succeeded] at built
    have corners := (account.createQuad ready).beside {custody.program program}
    rw [placed, Multiset.zero_add, Multiset.add_comm] at corners
    have moved := built.trans corners
    exact install_passes account session _ (.fresh program quad session.options.idleFrames)
      source document .started (by rwa [stopped])

/-- Every operation passes the objects on. -/
theorem perform_passes (session : Session handles State) (operation : Operation) :
    Passes custody events session (session.perform rig operation).2 := by
  have ends := perform_ends rig session operation
  generalize session.perform rig operation = result at ends
  cases ends with
  | evaluated source document => exact eval_passes account session source document
  | passed operation answer notices other unrenewed unreported => exact .same rfl rfl rfl
  | changed operation answer name index edit changed other renewed edited =>
    exact edit_passes edited
  | drawn operation other awake => exact .redrawn account (.refl _ _)
  | resized =>
    have fitted := (account.resizeDrawable (rig.canvas.clientSize session.state)
      session.state).trans (account.setViewport (rig.canvas.clientSize session.state) _)
    exact .redrawn account (fitted.idle _)
  | presented presentation =>
    exact ⟨none, (account.setPresentation presentation _).idle _, fun _ => Option.none_or⟩
  | released shader running =>
    have program := (account.releaseProgram shader.program session.state).beside
      (custody.quad shader.quad)
    have quad := account.releaseQuad shader.quad
      (rig.driver.releaseProgram shader.program session.state)
    rw [Multiset.zero_add] at program
    refine ⟨none, ?_, fun isRunning => by simp [Session.isRunning] at isRunning⟩
    rw [running]
    exact program.trans quad

/-- A run passes the objects on from its first session to its last. -/
theorem after_passes (session : Session handles State) (operations : List Operation) :
    Passes custody events session (session.after rig operations) := by
  induction operations generalizing session with
  | nil => exact .same rfl rfl rfl
  | cons operation rest induction =>
    exact (perform_passes account session operation).trans (induction _)

end Steps

/-- Without an evaluation a session that is not running stays so. -/
theorem stays_stopped {session : Session handles State} {operations : List Operation}
    (stopped : session.shader = none)
    (quiet : ∀ operation ∈ operations, operation.evaluates = false) :
    (session.after rig operations).shader = none := by
  induction operations generalizing session with
  | nil => exact stopped
  | cons operation rest induction =>
    obtain ⟨still, later⟩ := List.forall_mem_cons.mp quiet
    refine induction ?_ later
    have ends := perform_ends rig session operation
    generalize session.perform rig operation = result at ends
    cases ends with
    | evaluated source document => cases still
    | passed operation answer notices other unrenewed unreported => exact stopped
    | changed operation answer name index edit changed other renewed edited =>
      obtain ⟨shader, slot, running, -⟩ := edit_ends edited
      cases stopped.symm.trans running
    | drawn operation other awake => exact redraw_stopped stopped
    | resized => exact redraw_stopped stopped
    | presented presentation => exact stopped
    | released shader running => rfl

/-- What a session has become after operations and more operations. -/
theorem after_append (session : Session handles State) (first second : List Operation) :
    session.after rig (first ++ second) = (session.after rig first).after rig second := by
  induction first generalizing session with
  | nil => rfl
  | cons operation rest induction => exact induction _

/-- Released and not started again, a session does not run. -/
theorem released_stays_stopped (session : Session handles State)
    {earlier later : List Operation}
    (quiet : ∀ operation ∈ later, operation.evaluates = false) :
    (session.after rig (earlier ++ .release :: later)).shader = none := by
  rw [after_append]
  have released : ((session.after rig earlier).release rig).shader = none := by
    unfold Session.release
    split
    · assumption
    · rfl
  have stays : (((session.after rig earlier).release rig).after rig later).shader = none :=
    stays_stopped released quiet
  exact stays

open scoped Classical in
/-- What a session owes to a driver over its operations so far: its events are orderly and leave
the objects of the running shader, whose program is bound; and once it has been released, with
nothing evaluated since, everything created has been released. -/
structure Disciplined (custody : Custody handles Object) (events : List (ObjectEvent Object))
    (operations : List Operation) (session : Session handles State) : Prop where
  orderly : Orderly events (custody.running session.shader)
  bound : session.isRunning → lastBound events = custody.target session.shader
  settled : ∀ earlier later, operations = earlier ++ .release :: later →
    (∀ operation ∈ later, operation.evaluates = false) →
    ∀ object, events.count (.created object) = events.count (.released object)

open scoped Classical in
/-- Over any rig that keeps an account every run of a session is disciplined. -/
theorem run_disciplined (account : rig.KeepsAccount custody events) (options : SessionOptions)
    (clock : Clock) (state : State) (silent : events state = []) (operations : List Operation) :
    Disciplined custody
      (events ((Session.start rig options clock state).after rig operations).state) operations
      ((Session.start rig options clock state).after rig operations) := by
  have started := account.setPresentation .fullscreen state
  obtain ⟨bound, moves, binds⟩ :=
    after_passes account (Session.start rig options clock state) operations
  obtain ⟨made, grown, accounted, last⟩ := started.trans moves
  rw [silent, List.nil_append] at grown
  rw [grown]
  refine ⟨accounted.orderly, fun isRunning => ?_, ?_⟩
  · rw [last, ← binds isRunning]
    rfl
  · rintro earlier later rfl quiet object
    rw [released_stays_stopped _ quiet] at accounted
    simpa [Custody.running] using accounted.balance object

end LiveShader

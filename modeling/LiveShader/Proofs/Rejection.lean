import LiveShader.Proofs.DriverObjects
import LiveShader.Proofs.Milestones

/-!
# What a rejected source leaves alone

A source is rejected exactly when a stage, a link or a first quad fails, and then the failure is
reported once, with the name of the document, and is all that has happened: the running shader
with its uniforms and its loop, the clock and the canvas are as they were, the driver holds the
same objects and has the same program bound. A source that is not rejected reports nothing, and
neither does any other operation.

This is told twice, since each way leaves something open that the other settles. The answers of the
driver, taken step by step, decide whether a source is rejected and what the user is told; the calls
that were made show that the failure was met once, and that nothing was asked for after it.
-/
namespace LiveShader

variable {handles : Handles} {State : Type}

section Reports

variable (rig : Rig handles State) (session : Session handles State)

/-- A notice reports to the user only if it is a rejection. -/
theorem note_rejections (notice : Notice) :
    (session.note notice).rejections = session.rejections ++ notice.rejection?.toList := by
  cases report : notice.rejection? <;> simp [Session.rejections, Session.note, report]

/-- A build that fails is noted for the log first, which the user is not told of, and then reported,
so that the user is told once. -/
theorem unbuilt_rejections (failure : BuildError) (diagnostic : Diagnostic) (document : String) :
    ((session.note (.buildFailed document failure)).reject diagnostic document).2.rejections =
      session.rejections ++ [(diagnostic, document)] := by
  have noted : (session.note (.buildFailed document failure)).rejections = session.rejections :=
    (note_rejections session _).trans (List.append_nil _)
  exact (note_rejections _ _).trans (congrArg (· ++ _) noted)

/-- Drawing reports nothing to the user, whatever it notices. -/
theorem draw_rejections (shader : RunningShader handles) :
    (session.drawShader rig shader).2.rejections = session.rejections := by
  have uploads (failures : List FailedUpload) :
      (failures.map Notice.uploadFailed).filterMap Notice.rejection? = [] := by
    simp [List.filterMap_eq_nil_iff, Notice.rejection?]
  have unshown (failure : Option String) :
      (failure.toList.map Notice.presentFailed).filterMap Notice.rejection? = [] := by
    simp [List.filterMap_eq_nil_iff, Notice.rejection?]
  have idle (fell : Bool) (age : Nat) :
      (if fell then [Notice.fellIdle age] else []).filterMap Notice.rejection? = [] := by
    cases fell <;> rfl
  simp only [Session.rejections, Session.drawShader, List.filterMap_append, uploads, unshown, idle,
    List.append_nil]

/-- A frame reports nothing to the user. -/
theorem redraw_rejections : (session.redraw rig).2.rejections = session.rejections := by
  cases running : session.shader with
  | none => rw [redraw_without_shader running]
  | some shader =>
    rw [redraw_of_shader running]
    exact draw_rejections rig session shader

/-- An installation reports nothing to the user. -/
theorem install_rejections (shader : RunningShader handles) (source document : String)
    (outcome : EvalOutcome) :
    ((session.adopt rig shader).install rig source document outcome).2.rejections =
      session.rejections := by
  unfold Session.install
  cases outcome <;> cases sizeDirective? source <;>
  · refine (redraw_rejections rig _).trans ?_
    simp [Session.rejections, Session.note, Session.adopt, Notice.rejection?]

/-- A change through a handle reports nothing to the user. -/
theorem edit_rejections {session changed : Session handles State} {name : String} {index : Nat}
    {edit : Edit Modifier} (edited : session.edit? name index edit = some changed) :
    changed.rejections = session.rejections := by
  obtain ⟨shader, slot, running, seen, rfl⟩ := edit_ends edited
  simp only [Session.rejections, List.filterMap_append, RunningShader.wakeNotices]
  split <;> simp [Notice.rejection?]

/-- No operation but an evaluation reports anything to the user. -/
theorem perform_rejections (operation : Operation) (other : operation.evaluates = false) :
    (session.perform rig operation).2.rejections = session.rejections := by
  have ends := perform_ends rig session operation
  generalize session.perform rig operation = result at ends
  cases ends with
  | evaluated source document => cases other
  | passed operation answer notices _ unrenewed unreported =>
    simp only [Session.rejections, List.filterMap_append, unreported, List.append_nil]
  | changed operation answer name index edit changed _ renewed edited =>
    exact edit_rejections edited
  | drawn operation _ _ => exact redraw_rejections rig session
  | resized =>
    refine (redraw_rejections rig _).trans ?_
    exact (note_rejections _ _).trans (List.append_nil _)
  | presented presentation => rfl
  | released shader running => rfl

end Reports

/-- The milestones of an installation hold no failure. -/
theorem installed_succeeds (program : handles.Program) (actives : List ActiveUniform)
    (source : String) (diagnostic : Diagnostic) :
    .failed diagnostic ∉ Milestone.listed program actives :: installed source := by
  simp [installed]

/-- The ways in which an evaluation can end, as the user and the driver see them. -/
theorem eval_fails_or_succeeds (rig : Rig handles State)
    (session : Session handles (Traced handles State)) (source document : String) :
    (∃ diagnostic,
      Marks [.failed diagnostic] session.state (session.eval rig.traced source document).2.state ∧
      (session.eval rig.traced source document).1 = .rejected ∧
      (session.eval rig.traced source document).2.shader = session.shader ∧
      (session.eval rig.traced source document).2.clock = session.clock ∧
      (session.eval rig.traced source document).2.options = session.options ∧
      (session.eval rig.traced source document).2.rejections =
        session.rejections ++ [(diagnostic, document)]) ∨
    (∃ made,
      Marks made session.state (session.eval rig.traced source document).2.state ∧
      (∀ diagnostic, .failed diagnostic ∉ made) ∧
      (session.eval rig.traced source document).1 ≠ .rejected ∧
      (session.eval rig.traced source document).2.rejections = session.rejections) := by
  have built := built_marks rig session source
  have ends := eval_ends rig.traced session source document
  generalize session.eval rig.traced source document = result at ends
  cases ends with
  | unbuilt failure state failed =>
    rw [failed] at built
    exact .inl ⟨_, built, rfl, rfl, rfl, rfl, unbuilt_rejections _ failure _ document⟩
  | withoutQuad program ready state text stopped succeeded failed =>
    rw [succeeded] at built
    have unplaced : Marks [.failed (.raw text)] ready state := .answered Call.createQuad failed
    have released := (built.trans unplaced).trans (.told (.releaseProgram program)
      (rig.driver.releaseProgram program) state)
    exact .inl ⟨_, released, rfl, rfl, rfl, rfl, note_rejections _ _⟩
  | reloaded shader program ready running succeeded =>
    rw [succeeded] at built
    have released := built.trans (.told (.releaseProgram shader.program)
      (rig.driver.releaseProgram shader.program) ready)
    exact .inr ⟨_, released.trans (install_marks rig _ _ source document .reloaded),
      installed_succeeds _ _ source, by simp [Session.install], install_rejections _ _ _ _ _ _⟩
  | started program quad ready state stopped succeeded placed =>
    rw [succeeded] at built
    have created : Marks [] ready state := .answered Call.createQuad placed
    exact .inr ⟨_, (built.trans created).trans (install_marks rig _ _ source document .started),
      installed_succeeds _ _ source, by simp [Session.install], install_rejections _ _ _ _ _ _⟩

/-- A step of an evaluation fails, told by what the driver answers to that step and to the steps
before it: a stage does not compile, the stages do not link, or there is no quad for a first
program. With it goes what the user is to be told. -/
inductive EvalFails (rig : Rig handles State) (session : Session handles State) (source : String) :
    Diagnostic → Prop where
  | vertex {log : String} {after : State}
      (refused : rig.driver.compileStage .vertex (vertexSource session.options.dialect)
        session.state = (.error log, after)) :
      EvalFails rig session source (.ofLog log headerSize)
  | fragment {vertex : handles.Stage} {log : String} {middle after : State}
      (compiled : rig.driver.compileStage .vertex (vertexSource session.options.dialect)
        session.state = (.ok vertex, middle))
      (refused : rig.driver.compileStage .fragment
        (wrapFragment source session.options.dialect) middle = (.error log, after)) :
      EvalFails rig session source (.ofLog log headerSize)
  | link {vertex fragment : handles.Stage} {log : String} {middle unlinked after : State}
      (compiled : rig.driver.compileStage .vertex (vertexSource session.options.dialect)
        session.state = (.ok vertex, middle))
      (compiledToo : rig.driver.compileStage .fragment
        (wrapFragment source session.options.dialect) middle = (.ok fragment, unlinked))
      (refused : rig.driver.link vertex fragment unlinked = (.error log, after)) :
      EvalFails rig session source (.ofLog log headerSize)
  | quad {program : handles.Program} {text : String} {ready after : State}
      (first : session.shader = none)
      (built : session.built rig source = (.ok program, ready))
      (refused : rig.driver.createQuad ready = (.error text, after)) :
      EvalFails rig session source (.raw text)

namespace EvalFails

variable {rig : Rig handles State} {session : Session handles State} {source : String}

/-- Where no program was built, one of the steps of the build failed. -/
theorem of_unbuilt {failure : BuildError} {after : State}
    (unbuilt : session.built rig source = (.error failure, after)) :
    EvalFails rig session source (.ofLog failure.log headerSize) := by
  unfold Session.built Driver.build at unbuilt
  rcases vertexAnswer : rig.driver.compileStage .vertex (vertexSource session.options.dialect)
    session.state with ⟨log | vertex, middle⟩
  · rw [vertexAnswer] at unbuilt
    cases unbuilt
    exact .vertex vertexAnswer
  rw [vertexAnswer] at unbuilt
  rcases fragmentAnswer : rig.driver.compileStage .fragment
    (wrapFragment source session.options.dialect) middle with ⟨log | fragment, unlinked⟩
  · simp only [fragmentAnswer] at unbuilt
    cases unbuilt
    exact .fragment vertexAnswer fragmentAnswer
  rcases linkAnswer : rig.driver.link vertex fragment unlinked with ⟨log | program, linked⟩
  · simp only [fragmentAnswer, linkAnswer] at unbuilt
    cases unbuilt
    exact .link vertexAnswer fragmentAnswer linkAnswer
  · simp only [fragmentAnswer, linkAnswer] at unbuilt
    cases unbuilt

/-- An evaluation without a program ends in a rejection that tells the user of the build's log. -/
theorem unbuilt_rejects {failure : BuildError} {after : State}
    (unbuilt : session.built rig source = (.error failure, after)) (document : String) :
    (session.eval rig source document).1 = .rejected ∧
      (session.eval rig source document).2.rejections =
        session.rejections ++ [(.ofLog failure.log headerSize, document)] := by
  have ends : Evaluated rig session source document _ := .unbuilt failure after unbuilt
  rw [ends.decides]
  exact ⟨rfl, unbuilt_rejections _ failure _ document⟩

/-- Where a step fails, the evaluation ends in a rejection that tells the user of this step. -/
theorem rejects {diagnostic : Diagnostic} (fails : EvalFails rig session source diagnostic)
    (document : String) :
    (session.eval rig source document).1 = .rejected ∧
      (session.eval rig source document).2.rejections =
        session.rejections ++ [(diagnostic, document)] := by
  have unbuilt (failure : BuildError) (failed : (session.built rig source).1 = .error failure) :=
    unbuilt_rejects (Prod.ext failed rfl) document
  unfold Session.built Driver.build at unbuilt
  cases fails with
  | @vertex log after refused =>
    exact unbuilt (.compile .vertex log) (by rw [refused])
  | @fragment vertex log middle after compiled refused =>
    exact unbuilt (.compile .fragment log) (by simp only [compiled, refused])
  | @link vertex fragment log middle unlinked after compiled compiledToo refused =>
    exact unbuilt (.link log) (by simp only [compiled, compiledToo, refused])
  | @quad program text ready after first built refused =>
    rw [(Evaluated.withoutQuad program ready after text first built refused).decides]
    exact ⟨rfl, note_rejections _ _⟩

/-- An evaluation is rejected because of a step that failed, which is what the user is told. -/
theorem of_rejected {diagnostic : Diagnostic} {document : String}
    (rejected : (session.eval rig source document).1 = .rejected)
    (reported : (session.eval rig source document).2.rejections =
      session.rejections ++ [(diagnostic, document)]) :
    EvalFails rig session source diagnostic := by
  -- The user has been told of one more diagnostic, so a step that fails with one fails with this.
  have same {other : Diagnostic} (fails : EvalFails rig session source other) :
      EvalFails rig session source diagnostic := by
    have told := (fails.rejects document).2
    rw [reported, List.append_cancel_left_eq, List.singleton_inj] at told
    rwa [(Prod.mk.inj told).1]
  have ends := eval_ends rig session source document
  generalize session.eval rig source document = result at ends rejected
  cases ends with
  | unbuilt failure state failed => exact same (.of_unbuilt failed)
  | withoutQuad program ready state text stopped succeeded failed =>
    exact same (.quad stopped succeeded failed)
  | reloaded shader program ready running succeeded => cases rejected
  | started program quad ready state stopped succeeded placed => cases rejected

end EvalFails

/-- Everything that a failed evaluation must not touch. -/
structure Untouched (before after : Session handles (Traced handles State)) : Prop where
  /-- The program, the quad, every slot with its components and its place, and the loop. -/
  shader : after.shader = before.shader
  clock : after.clock = before.clock
  options : after.options = before.options
  /-- Before and after, the driver holds exactly the objects of the running shader. -/
  objects : Orderly before.state.events ((driverCustody handles).running before.shader) ∧
    Orderly after.state.events ((driverCustody handles).running before.shader)
  bound : before.isRunning → lastBound after.state.events = lastBound before.state.events

/-- Of a session that a run has led to, an evaluation that keeps the shader touches no object
either: both before and after it the objects are those of that shader, and its program is bound. -/
theorem untouched_of_kept (rig : Rig handles State) (options : SessionOptions) (clock : Clock)
    (state : State) (operations : List Operation) (source document : String)
    {session after : Session handles (Traced handles State)}
    (reached : session =
      (Session.start rig.traced options clock (.begin state)).after rig.traced operations)
    (evaluated : after = (session.eval rig.traced source document).2)
    (shader : after.shader = session.shader) (sameClock : after.clock = session.clock)
    (sameOptions : after.options = session.options) : Untouched session after := by
  have account := traced_keeps_account rig
  have before := run_disciplined account options clock (.begin state) rfl operations
  have later := run_disciplined account options clock (.begin state) rfl
    (operations ++ [.eval source document])
  have same : (Session.start rig.traced options clock (.begin state)).after rig.traced
      (operations ++ [.eval source document]) = after := by
    rw [after_append, ← reached, evaluated]
    rfl
  rw [same] at later
  rw [← reached] at before
  refine ⟨shader, sameClock, sameOptions, ⟨before.orderly, shader ▸ later.orderly⟩, ?_⟩
  intro isRunning
  have stillRunning : after.isRunning := by rwa [Session.isRunning, shader]
  rw [later.bound stillRunning, before.bound isRunning, shader]

/-- An evaluation fails as a whole or succeeds.

It fails just when the driver refuses one of its steps, and the user is told of that step. If it
fails, the one milestone of its calls is the failure, so nothing is drawn and nothing is
asked of the canvas; nothing else is touched, and the user is told of this failure once, with the
name of the document. If nothing fails it is not rejected, and the user is told nothing. No other
operation tells the user anything. -/
theorem evaluation_is_atomic (rig : Rig handles State) (options : SessionOptions) (clock : Clock)
    (state : State) (operations : List Operation) (source document : String) :
    let session :=
      (Session.start rig.traced options clock (.begin state)).after rig.traced operations
    let result := session.eval rig.traced source document
    (∀ diagnostic, EvalFails rig.traced session source diagnostic ↔
      result.1 = .rejected ∧
        result.2.rejections = session.rejections ++ [(diagnostic, document)]) ∧
    ((∃ diagnostic,
        Marks [.failed diagnostic] session.state result.2.state ∧
        result.1 = .rejected ∧ Untouched session result.2 ∧
        result.2.rejections = session.rejections ++ [(diagnostic, document)]) ∨
      (∃ made,
        Marks made session.state result.2.state ∧
        (∀ diagnostic, .failed diagnostic ∉ made) ∧
        result.1 ≠ .rejected ∧
        result.2.rejections = session.rejections)) ∧
    ∀ operation : Operation, operation.evaluates = false →
      (session.perform rig.traced operation).2.rejections = session.rejections := by
  intro session result
  refine ⟨fun diagnostic => ⟨fun fails => fails.rejects document, ?_⟩, ?_, fun operation other =>
    perform_rejections rig.traced session operation other⟩
  · rintro ⟨rejected, reported⟩
    exact .of_rejected rejected reported
  rcases eval_fails_or_succeeds rig session source document with
    ⟨diagnostic, marks, rejected, shader, sameClock, sameOptions, reported⟩ | succeeded
  · exact .inl ⟨diagnostic, marks, rejected,
      untouched_of_kept rig options clock state operations source document rfl rfl shader sameClock
        sameOptions, reported⟩
  · exact .inr succeeded

end LiveShader

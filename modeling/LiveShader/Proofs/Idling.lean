import LiveShader.Proofs.Milestones
import LiveShader.Proofs.Slots

/-!
# When a loop falls idle

The frames since the last renewal decide the loop. A renewal is an evaluation that installs its
source or a change that a host makes; the age of the loop is the number of frames drawn since
then, by whatever operation, for as long as it can be counted. A shader that reads the time never
falls idle; any other is idle exactly when it is older than the limit.

The invariant says this of the running shader with a mark, the number of frames that had been
drawn at the last renewal. A frame keeps it, since an idle loop only grows older; and each renewal
sets it up anew.
-/
namespace LiveShader

variable {handles : Handles} {State : Type}

/-- Whether a milestone is a drawn frame. -/
def Milestone.isDrawn : Milestone handles → Bool
  | .drawn => true
  | _ => false

/-- How many frames have been drawn. -/
def Session.draws (session : Session handles (Traced handles State)) : Nat :=
  session.state.milestones.countP Milestone.isDrawn

/-- How many frames had been drawn when the loop was last renewed, or `mark` if it has not been
renewed in the operations. -/
def Session.renewal (rig : Rig handles State) :
    Session handles (Traced handles State) → Nat → List Operation → Nat
  | _, mark, [] => mark
  | session, mark, operation :: rest =>
    let (answer, after) := session.perform rig.traced operation
    after.renewal rig (if answer.renews then session.draws else mark) rest

/-- The loop of a shader some frames after its last renewal. -/
structure Scheduled (idleFrames since : Nat) (shader : RunningShader handles) : Prop where
  limit : shader.frames.idleFrames = idleFrames
  age : shader.frames.age = min since oldestAge
  state : shader.frames.state = .idle ↔
    shader.registry.readsTime = false ∧ idleFrames < shader.frames.age

/-- A frame keeps the schedule: the shader is a frame older, and idle from the limit on.

An idle shader stays idle, because it only grows older; an animating one falls idle by the test at
the end of the frame and not otherwise. -/
theorem frame_scheduled (rig : Rig handles State) (session : Session handles State)
    {shader drawn : RunningShader handles} {idleFrames since : Nat}
    (scheduled : Scheduled idleFrames since shader)
    (after : (session.drawShader rig shader).2.shader = some drawn) :
    Scheduled idleFrames (since + 1) drawn := by
  obtain ⟨now, inputs, state, ends⟩ := draw_ends rig session shader
  rw [ends, Option.some.injEq] at after
  subst after
  have reads := Registry.frame_reads_time rig.driver shader.registry (shader.frames.elapsed now)
    inputs state
  obtain ⟨limit, age, state⟩ := scheduled
  refine ⟨limit, ?_, ?_⟩
  · simp only [RenderLoop.endFrame, RenderLoop.beginFrame, age]
    omega
  · simp only [reads, RenderLoop.endFrame, RenderLoop.beginFrame, limit]
    cases still : shader.registry.readsTime with
    | true => simpa [still] using state
    | false =>
      by_cases old : idleFrames < min (shader.frames.age + 1) oldestAge
      · simp [old]
      · have young : ¬ idleFrames < shader.frames.age := by omega
        simpa [still, old, young] using state

/-- A loop that has just been renewed, whatever the uniforms are. -/
theorem renewed_scheduled {shader : RunningShader handles} {idleFrames : Nat}
    (limit : shader.frames.idleFrames = idleFrames) (age : shader.frames.age = 0)
    (state : shader.frames.state = .animating) : Scheduled idleFrames 0 shader :=
  ⟨limit, by simp [age], by simp [state, age]⟩

/-- A session whose loop has followed the frames since `mark` frames had been drawn. -/
structure Paced (idleFrames mark : Nat) (session : Session handles (Traced handles State)) :
    Prop where
  options : session.options.idleFrames = idleFrames
  marked : mark ≤ session.draws
  scheduled : ∀ shader, session.shader = some shader →
    Scheduled idleFrames (session.draws - mark) shader

/-- The frames among added milestones have been drawn. -/
theorem marks_draws {before after : Session handles (Traced handles State)}
    {made : List (Milestone handles)} (marks : Marks made before.state after.state) :
    after.draws = before.draws + made.countP Milestone.isDrawn := by
  unfold Session.draws
  rw [marks, List.countP_append]

namespace Paced

variable {idleFrames mark : Nat} {before after : Session handles (Traced handles State)}

/-- Where no frame is drawn and the shader and the options stay, the pace stays. -/
theorem kept (paced : Paced idleFrames mark before) {made : List (Milestone handles)}
    (marks : Marks made before.state after.state) (still : made.countP Milestone.isDrawn = 0)
    (options : after.options = before.options)
    (shader : after.shader = before.shader ∨ after.shader = none) :
    Paced idleFrames mark after := by
  have draws := marks_draws marks
  rw [still, Nat.add_zero] at draws
  refine ⟨options ▸ paced.options, draws ▸ paced.marked, fun running runs => ?_⟩
  rcases shader with same | stopped
  · rw [draws]
    exact paced.scheduled running (same ▸ runs)
  · rw [stopped] at runs
    cases runs

/-- A frame keeps the pace. -/
theorem redrawn (rig : Rig handles State) (paced : Paced idleFrames mark before) :
    Paced idleFrames mark (before.redraw rig.traced).2 := by
  cases running : before.shader with
  | none =>
    rw [redraw_without_shader running]
    exact paced
  | some shader =>
    rw [redraw_of_shader running]
    have draws : (before.drawShader rig.traced shader).2.draws = before.draws + 1 :=
      marks_draws (draw_marks rig before shader)
    have marked := paced.marked
    refine ⟨paced.options, ?_, fun drawn runs => ?_⟩
    · show mark ≤ (before.drawShader rig.traced shader).2.draws
      omega
    · have frame := frame_scheduled rig.traced before (paced.scheduled shader running) runs
      have since : before.draws - mark + 1 = before.draws + 1 - mark := by omega
      rwa [draws, ← since]

/-- An installation after a build starts a new pace, with a mark at the frames drawn before. -/
theorem installed (rig : Rig handles State) {made : List (Milestone handles)}
    {state : Traced handles State} (built : Marks made before.state state)
    (still : made.countP Milestone.isDrawn = 0) (shader : RunningShader handles)
    (source document : String) (outcome : EvalOutcome)
    (options : before.options.idleFrames = idleFrames)
    (limit : shader.frames.idleFrames = idleFrames) (age : shader.frames.age = 0)
    (animating : shader.frames.state = .animating) :
    Paced idleFrames before.draws
      ((({ before with state } : Session handles (Traced handles State)).adopt
        rig.traced shader).install rig.traced source document outcome).2 := by
  have marks := built.trans (declared_marks rig shader.program state)
  have adopted : Paced idleFrames before.draws
      (({ before with state } : Session handles (Traced handles State)).adopt
        rig.traced shader) := by
    have taken : (({ before with state } : Session handles (Traced handles State)).adopt
        rig.traced shader).draws = before.draws + 0 := by
      refine (marks_draws marks).trans ?_
      rw [List.countP_append, still]
      rfl
    refine ⟨options, by omega, fun running runs => ?_⟩
    cases runs
    rw [taken, Nat.add_zero, Nat.sub_self]
    exact renewed_scheduled limit age animating
  unfold Session.install
  cases sizeDirective? source with
  | none => exact redrawn rig (adopted.kept (.refl _) rfl rfl (.inl rfl))
  | some mode =>
    exact redrawn rig (adopted.kept
      (.told (.setPresentation mode) (rig.canvas.setPresentation mode) _) rfl rfl (.inl rfl))

/-- An evaluation renews the loop if it installs its source, and else leaves it alone. -/
theorem evaluated (rig : Rig handles State) (paced : Paced idleFrames mark before)
    (source document : String) :
    Paced idleFrames
      (if (Answer.outcome (before.eval rig.traced source document).1).renews then before.draws
        else mark)
      (before.eval rig.traced source document).2 := by
  have built := built_marks rig before source
  have ends := eval_ends rig.traced before source document
  generalize before.eval rig.traced source document = result at ends
  cases ends with
  | unbuilt failure state failed =>
    rw [failed] at built
    exact paced.kept built rfl rfl (.inl rfl)
  | withoutQuad program ready state text stopped succeeded failed =>
    rw [succeeded] at built
    have unplaced : Marks [.failed (.raw text)] ready state := .answered Call.createQuad failed
    have released := (built.trans unplaced).trans (.told (.releaseProgram program)
      (rig.driver.releaseProgram program) state)
    exact paced.kept released rfl rfl (.inl rfl)
  | reloaded shader program ready running succeeded =>
    rw [succeeded] at built
    have limit := (paced.scheduled shader running).limit
    have released := built.trans (.told (.releaseProgram shader.program)
      (rig.driver.releaseProgram shader.program) ready)
    exact installed rig released rfl (shader.replaced program) source document .reloaded
      paced.options limit rfl rfl
  | started program quad ready state stopped succeeded placed =>
    rw [succeeded] at built
    have created : Marks [] ready state := .answered Call.createQuad placed
    exact installed rig (built.trans created) rfl
      (.fresh program quad before.options.idleFrames) source document .started paced.options
      paced.options rfl rfl

/-- A change through a handle renews the loop. -/
theorem edited (paced : Paced idleFrames mark before) {name : String} {index : Nat}
    {edit : Edit Modifier} (edited : before.edit? name index edit = some after) :
    Paced idleFrames before.draws after := by
  obtain ⟨shader, slot, running, seen, rfl⟩ := edit_ends edited
  refine ⟨paced.options, Nat.le_refl _, fun changed runs => ?_⟩
  cases runs
  show Scheduled idleFrames (before.draws - before.draws) _
  rw [Nat.sub_self]
  exact renewed_scheduled (paced.scheduled shader running).limit rfl rfl

/-- Every operation keeps the pace, with a new mark if it renews the loop. -/
theorem performed (rig : Rig handles State) (paced : Paced idleFrames mark before)
    (operation : Operation) :
    Paced idleFrames
      (if (before.perform rig.traced operation).1.renews then before.draws else mark)
      (before.perform rig.traced operation).2 := by
  have ends := perform_ends rig.traced before operation
  generalize before.perform rig.traced operation = result at ends
  cases ends with
  | evaluated source document => exact paced.evaluated rig source document
  | passed operation answer notices other unrenewed unreported =>
    simp only [unrenewed]
    exact paced.kept (.refl _) rfl rfl (.inl rfl)
  | changed operation answer name index edit changed other renewed edited =>
    simp only [renewed]
    exact paced.edited edited
  | drawn operation other awake => exact paced.redrawn rig
  | resized =>
    have fitted := (Marks.told (.resizeDrawable (rig.canvas.clientSize before.state.state))
      (rig.canvas.resizeDrawable (rig.canvas.clientSize before.state.state)) before.state).trans
      (.told (.setViewport (rig.canvas.clientSize before.state.state))
        (rig.driver.setViewport (rig.canvas.clientSize before.state.state)) _)
    exact redrawn rig (paced.kept fitted rfl rfl (.inl rfl))
  | presented presentation =>
    exact paced.kept (.told (.setPresentation presentation)
      (rig.canvas.setPresentation presentation) before.state) rfl rfl (.inl rfl)
  | released shader running =>
    have released := (Marks.told (.releaseProgram shader.program)
      (rig.driver.releaseProgram shader.program) before.state).trans
      (.told (.releaseQuad shader.quad) (rig.driver.releaseQuad shader.quad) _)
    exact paced.kept released rfl rfl (.inr rfl)

/-- A run keeps the pace, with the mark of the last renewal. -/
theorem ran (rig : Rig handles State) (paced : Paced idleFrames mark before)
    (operations : List Operation) :
    Paced idleFrames (before.renewal rig mark operations) (before.after rig.traced operations) := by
  induction operations generalizing before mark with
  | nil => exact paced
  | cons operation rest induction => exact induction (paced.performed rig operation)

end Paced

/-- A scheduled frame is wanted exactly while a shader animates. -/
theorem wants_tick_iff {Whole : Type} (session : Session handles Whole) :
    session.wantsTick ↔
      ∃ shader, session.shader = some shader ∧ shader.frames.state = .animating := by
  unfold Session.wantsTick
  cases session.shader with
  | none => simp
  | some shader => simp [RenderLoop.isAnimating]

/-- Hosts see no reserved uniform. -/
theorem reserved_unseen {Whole : Type} (session : Session handles Whole) {name : String}
    (reserved : isReserved name = true) : session.slot? name = none := by
  unfold Session.slot? Registry.get?
  cases session.shader <;> simp [reserved]

/-- There is no handle on a uniform that hosts do not see. -/
theorem edit_needs_slot {Whole : Type} {session : Session handles Whole} {name : String}
    (unseen : session.slot? name = none) (index : Nat) (edit : Edit Modifier) :
    session.edit? name index edit = none := by
  cases edited : session.edit? name index edit with
  | none => rfl
  | some changed =>
    obtain ⟨shader, slot, running, seen, -⟩ := edit_ends edited
    simp [Session.slot?, running, seen] at unseen

/-- A request that changes no component leaves the shader as it is. -/
theorem unapplied_keeps_shader {Whole : Type} (session : Session handles Whole)
    (command : Command)
    (changes : ∀ name index edit, command = .change name index edit →
      session.slot? name = none) :
    (session.apply command).2.shader = session.shader := by
  have ends := apply_ends session command
  generalize session.apply command = result at ends
  cases ends with
  | answered command reply _ => rfl
  | unknown command name => rfl
  | changed name index edit changed edited =>
    rw [edit_needs_slot (changes name index edit rfl)] at edited
    cases edited

/-- A rejected source leaves the shader as it is. -/
theorem rejected_keeps_shader {Whole : Type} (rig : Rig handles Whole)
    (session : Session handles Whole) (source document : String)
    (rejected : (session.eval rig source document).1 = .rejected) :
    (session.eval rig source document).2.shader = session.shader := by
  have ends := eval_ends rig session source document
  generalize session.eval rig source document = result at ends rejected
  cases ends with
  | unbuilt failure state failed => rfl
  | withoutQuad program ready state text stopped succeeded failed => rfl
  | reloaded shader program ready running succeeded => cases rejected
  | started program quad ready state stopped succeeded placed => cases rejected

/-- The loop of a shader is decided by the frames drawn since its last renewal.

After any operations the age is the number of those frames, as far as it can be counted. A shader
that reads the time animates; another is idle exactly when it is older than the limit. A scheduled
frame is wanted exactly while a shader animates, and otherwise a tick does nothing. A rejected
source, a request that reads, and a request about a uniform that hosts do not see leave the shader
with its loop as it is. -/
theorem loop_counts_frames (rig : Rig handles State) (options : SessionOptions) (clock : Clock)
    (state : State) (operations : List Operation) :
    let first := Session.start rig.traced options clock (.begin state)
    let session := first.after rig.traced operations
    let since := session.draws - first.renewal rig 0 operations
    (∀ shader, session.shader = some shader →
      shader.frames.age = min since (wordLimit 32 - 1) ∧
      (shader.registry.readsTime = true → shader.frames.state = .animating) ∧
      (shader.registry.readsTime = false →
        (shader.frames.state = .idle ↔ options.idleFrames < shader.frames.age))) ∧
    (session.wantsTick ↔
      ∃ shader, session.shader = some shader ∧ shader.frames.state = .animating) ∧
    (session.wantsTick = false → session.tick rig.traced = (none, session)) ∧
    (∀ source document, (session.eval rig.traced source document).1 = .rejected →
      (session.eval rig.traced source document).2.shader = session.shader) ∧
    (∀ name index, (session.apply (.get name index)).2.shader = session.shader) ∧
    (session.apply .dump).2.shader = session.shader ∧
    (∀ name, isReserved name = true ∨ session.slot? name = none →
      (∀ index edit, (session.apply (.change name index edit)).2.shader = session.shader) ∧
      ∀ index edit, session.edit? name index edit = none) := by
  intro first session since
  have started : Paced options.idleFrames 0 first :=
    ⟨rfl, Nat.zero_le _, fun shader runs => by cases runs⟩
  have paced : Paced options.idleFrames (first.renewal rig 0 operations) session :=
    started.ran rig operations
  refine ⟨fun shader runs => ?_, wants_tick_iff session, fun still => ?_,
    rejected_keeps_shader rig.traced session, fun name index => ?_, ?_,
    fun name hidden => ?_⟩
  · obtain ⟨limit, age, idle⟩ := paced.scheduled shader runs
    refine ⟨age, fun reads => ?_, fun still => ?_⟩
    · cases state : shader.frames.state with
      | animating => rfl
      | idle => exact absurd ((idle.mp state).1.symm.trans reads) (by simp)
    · simpa [still] using idle
  · simp [Session.tick, still]
  · exact unapplied_keeps_shader session _ (by simp)
  · exact unapplied_keeps_shader session _ (by simp)
  · have unseen : session.slot? name = none :=
      hidden.elim (fun reserved => reserved_unseen session reserved) id
    refine ⟨fun index edit => unapplied_keeps_shader session _ ?_, edit_needs_slot unseen⟩
    rintro _ _ _ ⟨⟩
    exact unseen

end LiveShader

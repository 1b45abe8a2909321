import LiveShader.Proofs.Slots
import LiveShader.Session.Operation

/-!
# What a failed upload leaves behind

A slot notes that an upload has failed, so that the log is told once. Nothing else reads the note:
every change of a registry may be made with the notes put aside before it or after it, and so may
everything that a session does without its driver. What is left of a session once the notes, the
events in the log that come from them and the state of the driver are put aside is its standing.
-/
namespace LiveShader

variable {handles : Handles} {State Location : Type}

namespace Registry

/-- A registry with the notes of failed uploads put aside. -/
def unwarned (registry : Registry Location) : Registry Location :=
  ⟨registry.slots.map fun _ => Slot.unwarned⟩

/-- Two registries with the same slots are the same. -/
theorem ext {left right : Registry Location} (same : left.slots = right.slots) : left = right := by
  cases left
  cases right
  simpa using same

/-- The slot of a name is the one with its note put aside, so whatever is looked up is looked up in
both registries at the same place. -/
theorem get_unwarned (registry : Registry Location) (name : String) :
    registry.unwarned.slots.get? name = (registry.slots.get? name).map Slot.unwarned :=
  NameTable.get_map _ _ name

/-- The slot of a name that hosts see. -/
theorem seen_unwarned (registry : Registry Location) (name : String) :
    registry.unwarned.get? name = (registry.get? name).map Slot.unwarned := by
  unfold get?
  split
  · rfl
  · exact registry.get_unwarned name

/-- The same names are there, since putting the notes aside neither adds an entry nor takes one
away. Hosts therefore list and address the same uniforms. -/
theorem names_unwarned (registry : Registry Location) : registry.unwarned.names = registry.names :=
  congrArg (List.filter _) (NameTable.names_map _ _)

/-- The time is read or not. -/
theorem reads_time_unwarned (registry : Registry Location) :
    registry.unwarned.readsTime = registry.readsTime := by
  have held := congrArg Option.isSome (registry.get_unwarned timeUniform)
  rwa [Option.isSome_map] at held

/-- Hosts see the same: a snapshot shows shapes, values and what moves, and no notes. -/
theorem snapshot_unwarned (registry : Registry Location) :
    registry.unwarned.snapshot = registry.snapshot := by
  unfold snapshot unwarned
  rw [← NameTable.map_filter, NameTable.map_map]
  rfl

/-- Putting a slot in with its note or without it leads to the same registry, once the notes are put
aside. -/
theorem put_unwarned (registry : Registry Location) (name : String) (slot : Slot Location) :
    unwarned ⟨registry.slots.insert name slot⟩ =
      ⟨registry.unwarned.slots.insert name slot.unwarned⟩ :=
  ext (NameTable.map_insert registry.slots name slot fun _ => Slot.unwarned)

/-- A slot changed. -/
theorem adjust_unwarned (registry : Registry Location) (name : String)
    {change : Slot Location → Slot Location}
    (same : ∀ slot, (change slot).unwarned = change slot.unwarned) :
    unwarned ⟨registry.slots.adjust name change⟩ =
      ⟨registry.unwarned.slots.adjust name change⟩ :=
  ext (NameTable.map_adjust registry.slots name same)

/-- A change of a component reads the values and what moves them, and leaves the note as it is. -/
theorem edit_unwarned (registry : Registry Location) (name : String) (index : Nat)
    (edit : Edit Modifier) :
    (registry.edit name index edit).unwarned = registry.unwarned.edit name index edit :=
  registry.adjust_unwarned name fun _ => rfl

/-- The modifiers of a frame. -/
theorem advance_unwarned (registry : Registry Location) (elapsed : Float32) :
    (registry.advance elapsed).unwarned = registry.unwarned.advance elapsed := by
  unfold advance unwarned
  rw [NameTable.map_map, NameTable.map_map]
  congr 2
  funext name slot
  split <;> rfl

/-- Taking in one uniform comes to the same with the notes and without. A slot that is bound to its
new place has no note, so that a first failure there is told again. -/
theorem declare_unwarned (declared : Declared Location) (registry : Registry Location)
    (report : RebuildReport) :
    registry.unwarned.declare declared report =
      ((registry.declare declared report).1.unwarned, (registry.declare declared report).2) := by
  unfold declare
  rw [get_unwarned]
  cases held : registry.slots.get? declared.name with
  | none =>
    simp only [Option.map_none, put_unwarned]
    rfl
  | some slot =>
    by_cases same : slot.count = declared.count
    · have kept : slot.unwarned.count = declared.count := same
      simp only [Option.map_some, if_pos same, if_pos kept, put_unwarned]
      rfl
    · have other : ¬ slot.unwarned.count = declared.count := same
      simp only [Option.map_some, if_neg same, if_neg other, put_unwarned]
      rfl

/-- Taking in uniforms one after the other, by induction on their list. The report does not depend
on the notes either. -/
theorem declare_all_unwarned (declared : List (Declared Location)) (registry : Registry Location)
    (report : RebuildReport) :
    declareAll declared registry.unwarned report =
      ((declareAll declared registry report).1.unwarned,
        (declareAll declared registry report).2) := by
  induction declared generalizing registry report with
  | nil => rfl
  | cons first rest induction =>
    simp only [declareAll, declare_unwarned]
    exact induction _ _

/-- Dropping the slots that are not declared goes by their names alone. -/
theorem prune_unwarned (declared : List (Declared Location)) (registry : Registry Location) :
    registry.unwarned.prune declared =
      ((registry.prune declared).1.unwarned, (registry.prune declared).2) := by
  unfold prune unwarned
  dsimp only
  rw [NameTable.map_filter, NameTable.names_map]

/-- Taking in the uniforms of a program, as the two passes one after the other. -/
theorem rebuild_unwarned (declared : List (Declared Location)) (registry : Registry Location) :
    registry.unwarned.rebuild declared =
      ((registry.rebuild declared).1.unwarned, (registry.rebuild declared).2) := by
  unfold rebuild
  simp only [declare_all_unwarned, prune_unwarned]

/-- Giving the added names their initial values touches the values alone, one name after the other.
-/
theorem apply_defaults_unwarned (defaults : NameTable (List Float32)) (added : List String)
    (registry : Registry Location) :
    (registry.applyDefaults defaults added).unwarned =
      registry.unwarned.applyDefaults defaults added := by
  have seeded (values : List Float32) (slot : Slot Location) :
      (seed slot values).unwarned = seed slot.unwarned values := by
    have steps (rest : List Float32) (slot : Slot Location) (start : Nat) :
        (seed.go slot start rest).unwarned = seed.go slot.unwarned start rest := by
      induction rest generalizing slot start with
      | nil => rfl
      | cons value rest induction => exact induction _ _
    exact steps _ slot 0
  induction added generalizing registry with
  | nil => rfl
  | cons first rest induction =>
    have here : (registry.applyDefaults defaults [first]).unwarned =
        registry.unwarned.applyDefaults defaults [first] := by
      unfold applyDefaults
      simp only [List.foldl_cons, List.foldl_nil]
      split
      · exact registry.adjust_unwarned first (seeded _)
      · rfl
    refine (induction (registry.applyDefaults defaults [first])).trans ?_
    rw [here]
    rfl

/-- Sending the slots changes nothing but the notes, whatever the driver answers. The slots as they
are drawn and as they are kept are the same otherwise. -/
theorem send_unwarned (driver : Driver handles State) (registry : Registry handles.Location)
    (inputs : FrameInputs) (state : State) :
    (registry.send driver inputs state).1.unwarned = registry.unwarned := by
  refine ext (NameTable.map_step_through registry.slots _ (state, []) _ _ ?_)
  intro name slot state
  unfold sendSlot
  split
  · rfl
  · split <;> rfl

end Registry

/-- A running shader with the notes of failed uploads put aside. -/
def RunningShader.unwarned (shader : RunningShader handles) : RunningShader handles :=
  { shader with registry := shader.registry.unwarned }

/-- What two shaders share that differ in their notes only. -/
theorem unwarned_parts {shader other : RunningShader handles}
    (same : shader.unwarned = other.unwarned) :
    shader.program = other.program ∧ shader.quad = other.quad ∧ shader.frames = other.frames ∧
      shader.registry.unwarned = other.registry.unwarned := by
  unfold RunningShader.unwarned at same
  rw [RunningShader.mk.injEq] at same
  obtain ⟨program, quad, registry, frames⟩ := same
  exact ⟨program, quad, frames, registry⟩

/-- Whether a notice tells of a failed upload. It is the only notice that depends on a note. -/
def Notice.tellsUpload : Notice → Bool
  | .uploadFailed _ => true
  | _ => false

namespace Session

/-- What is reported but for failed uploads, in the order in which it was reported. -/
def otherNotices (session : Session handles State) : List Notice :=
  session.journal.filter fun notice => !notice.tellsUpload

/-- A session with the state of its driver and all that failed uploads leave behind put aside. -/
def standing (session : Session handles State) : Session handles Unit :=
  { session with
    state := ()
    shader := session.shader.map .unwarned
    journal := session.otherNotices }

variable (session : Session handles State)

/-- Whether a frame is wanted is up to the loop and the shader's sources, which the standing keeps.
-/
theorem standing_wants_tick : session.standing.wantsTick = session.wantsTick := by
  unfold wantsTick standing
  cases session.shader <;> rfl

/-- The state of the loop. -/
theorem standing_loop_state : session.standing.loopState? = session.loopState? := by
  unfold loopState? standing
  cases session.shader <;> rfl

/-- What hosts see of the uniforms is all in the standing. -/
theorem standing_snapshot : session.standing.snapshot = session.snapshot := by
  unfold snapshot standing
  cases session.shader with
  | none => rfl
  | some shader => exact shader.registry.snapshot_unwarned

/-- The sources that were rejected are reported by other notices, and the standing keeps these. -/
theorem standing_rejections : session.standing.rejections = session.rejections := by
  show (session.journal.filter _).filterMap _ = session.journal.filterMap _
  rw [List.filterMap_filter]
  congr 1
  funext notice
  cases notice <;> rfl

/-- A notice that does not tell of a failed upload is added to the standing as it is to the session.
-/
theorem standing_note {notice : Notice} (other : notice.tellsUpload = false) :
    (session.note notice).standing = session.standing.note notice := by
  unfold standing note otherNotices
  simp [List.filter_append, other]

/-- A change through a handle. -/
theorem standing_edit (name : String) (index : Nat) (edit : Edit Modifier) :
    (session.edit? name index edit).map standing = session.standing.edit? name index edit := by
  obtain ⟨state, clock, options, running, journal⟩ := session
  cases running with
  | none => rfl
  | some shader =>
    have seen := shader.registry.seen_unwarned name
    simp only [edit?, standing, Option.map_some, RunningShader.unwarned]
    rw [seen]
    cases shader.registry.get? name with
    | none => rfl
    | some slot =>
      have changed := shader.registry.edit_unwarned name index edit
      simp only [Option.map_some]
      rw [← changed]
      cases shader.frames.isAnimating with
      | true => rfl
      | false => exact congrArg some (standing_note _ rfl)

/-- A request is answered out of the standing and changes nothing else, so it may be served before
the rest is put aside or after. -/
theorem standing_apply (command : Command) :
    ((session.apply command).1, (session.apply command).2.standing) =
      session.standing.apply command := by
  have changes (name : String) (index : Nat) (edit : Edit Modifier) :=
    session.standing_edit name index edit
  obtain ⟨state, clock, options, running, journal⟩ := session
  cases running with
  | none => rfl
  | some shader =>
    cases command with
    | dump =>
      have seen := shader.registry.snapshot_unwarned.symm
      exact congrArg (fun uniforms => (Reply.snapshot uniforms, _)) seen
    | get name index =>
      have seen := shader.registry.seen_unwarned name
      simp only [apply, standing, Option.map_some, RunningShader.unwarned]
      rw [seen]
      cases shader.registry.get? name with
      | none => exact congrArg (Prod.mk _) (standing_note _ rfl)
      | some slot => rfl
    | change name index edit =>
      have changed := changes name index (edit.map Formula.modifier)
      simp only [apply, standing, Option.map_some] at changed ⊢
      rw [← changed]
      cases Session.edit? _ name index (edit.map Formula.modifier) with
      | none => exact congrArg (Prod.mk _) (standing_note _ rfl)
      | some after => rfl

/-- What a frame of a shader makes of a standing, by what the canvas says when it is shown. -/
def framed (standing : Session handles Unit) (shader : RunningShader handles)
    (unshown : Option String) : LoopState × Session handles Unit :=
  let (now, clock) := standing.clock.sample
  let registry := shader.registry.advance (shader.frames.elapsed now)
  let frames := (shader.frames.beginFrame now).endFrame registry.readsTime
  let idle := if shader.frames.isAnimating && !frames.isAnimating then [Notice.fellIdle frames.age]
    else []
  (frames.state,
    { standing with
      clock
      shader := some { shader with registry, frames }
      journal := standing.journal ++ (idle ++ unshown.toList.map Notice.presentFailed) })

/-- The state of the driver when a frame has been drawn and is to be shown. The canvas decides by it
whether there is anything to show. -/
def unshown (rig : Rig handles State) (session : Session handles State)
    (shader : RunningShader handles) : State :=
  let (now, _) := session.clock.sample
  let inputs : FrameInputs := ⟨now.toFloat32, rig.canvas.drawableSize session.state⟩
  let advanced := shader.registry.advance (shader.frames.elapsed now)
  let begun := rig.driver.beginFrame shader.program shader.quad session.state
  rig.driver.drawQuad (advanced.send rig.driver inputs begun).2.2

/-- Drawing a frame changes the standing in one way, whatever became of the uploads: the modifiers
have run, the loop has counted the frame, and apart from failed uploads the same things are
reported. -/
theorem standing_draw (rig : Rig handles State) (shader : RunningShader handles) :
    ((session.drawShader rig shader).1, (session.drawShader rig shader).2.standing) =
      session.standing.framed shader.unwarned
        (rig.canvas.present (session.unshown rig shader)).1 := by
  have quiet (failures : List FailedUpload) :
      (failures.map Notice.uploadFailed).filter (fun notice => !notice.tellsUpload) = [] := by
    rw [List.filter_eq_nil_iff]
    intro notice member
    obtain ⟨failure, -, rfl⟩ := List.mem_map.mp member
    simp [Notice.tellsUpload]
  have loud (reason : Option String) :
      (reason.toList.map Notice.presentFailed).filter (fun notice => !notice.tellsUpload) =
        reason.toList.map Notice.presentFailed := by
    cases reason <;> rfl
  have fell (asleep : Bool) (age : Nat) :
      (if asleep then [Notice.fellIdle age] else []).filter (fun notice => !notice.tellsUpload) =
        if asleep then [Notice.fellIdle age] else [] := by
    cases asleep <;> rfl
  have sent := Registry.send_unwarned rig.driver
    (shader.registry.advance (shader.frames.elapsed session.clock.sample.1))
    ⟨session.clock.sample.1.toFloat32, rig.canvas.drawableSize session.state⟩
    (rig.driver.beginFrame shader.program shader.quad session.state)
  rw [Registry.advance_unwarned] at sent
  unfold drawShader framed unshown standing otherNotices
  dsimp only
  generalize Registry.send rig.driver _ _ _ = result at sent ⊢
  have reads := result.1.reads_time_unwarned
  rw [sent] at reads
  simp only [List.filter_append, quiet, loud, fell, List.nil_append, RunningShader.unwarned,
    Option.map_some, sent, reads]

/-- What taking in declared uniforms makes of a standing: the registry is rebuilt, what was added
gets its initial values, and the report is written down. -/
def taken (standing : Session handles Unit) (shader : RunningShader handles)
    (declared : List (Declared handles.Location)) : Session handles Unit :=
  let (registry, report) := shader.registry.rebuild declared
  let registry := registry.applyDefaults standing.options.defaults report.added
  ({ standing with shader := some { shader with registry } } : Session handles Unit).note
    (.rebuilt report)

/-- The uniforms of a program are taken into the standing as into the session. The driver is asked
for them first, and what it answers is all that is needed of it. -/
theorem standing_adopt (rig : Rig handles State) (shader : RunningShader handles) :
    (session.adopt rig shader).standing =
      session.standing.taken shader.unwarned
        (rig.driver.declared shader.program session.state).1 := by
  unfold adopt taken
  rw [standing_note _ rfl]
  simp only [RunningShader.unwarned, Registry.rebuild_unwarned]
  unfold standing
  simp only [Option.map_some, RunningShader.unwarned, Registry.apply_defaults_unwarned]
  rfl

end Session

end LiveShader

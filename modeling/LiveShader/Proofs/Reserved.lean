import LiveShader.Proofs.FrameCalls
import LiveShader.Proofs.Idling
import LiveShader.Proofs.Reload

/-!
# The uniforms of the runtime

The time and the size that is drawn into belong to the runtime. A program may declare them in any
manner, as arrays or under types of its own, and sources, initial values and hosts may name them:
hosts see nothing of them, a request that names one is answered as for a name that does not exist,
and what a frame uploads for them is the time of the frame and the size drawn into.

Their slots have components nevertheless, which nothing reads. The invariant says that these stay
the zeros they were made as: every path that changes a component asks first whether hosts see the
uniform, or goes by names that are not reserved.
-/
namespace LiveShader

variable {handles : Handles} {State Location : Type}

/-- Both lists of the slot are as they were made: the values are zeros, and nothing moves them. -/
def Slot.IsBlank (slot : Slot Location) : Prop :=
  (∀ value ∈ slot.values, value = 0) ∧ ∀ modifier ∈ slot.modifiers, modifier = none

/-- A declared uniform whose name had a blank slot, or none, has a blank slot. -/
theorem taken_blank (declared : Declared Location) {old : Option (Slot Location)}
    (blank : ∀ slot ∈ old, slot.IsBlank) : (declared.taken old).IsBlank := by
  cases old with
  | none => exact ⟨fun _ => List.eq_of_mem_replicate, fun _ => List.eq_of_mem_replicate⟩
  | some slot =>
    obtain ⟨zeros, unmoved⟩ := blank slot rfl
    by_cases same : slot.count = declared.count
    · simp only [Declared.taken, if_pos same]
      exact ⟨zeros, unmoved⟩
    · simp only [Declared.taken, if_neg same]
      exact ⟨fun value member => (Slot.mem_fitted member).elim (zeros value) id,
        fun modifier member => (Slot.mem_fitted member).elim (unmoved modifier) id⟩

namespace Registry

/-- Nobody has set a component of a uniform that belongs to the runtime. -/
def LeavesReserved (registry : Registry Location) : Prop :=
  registry.Every fun name slot => isReserved name = true → slot.IsBlank

/-- Taking in a program leaves the reserved uniforms, whatever it declares and whatever the initial
values are: no initial value is for one of them. -/
theorem LeavesReserved.adopted {registry : Registry Location} (leaves : registry.LeavesReserved)
    (declared : List (Declared Location)) (defaults : NameTable (List Float32)) :
    (registry.adopted declared defaults).LeavesReserved := by
  refine Every.adopted (fun uniform _ old blank reserved => ?_) (fun name slot blank reserved => ?_)
    leaves
  · exact taken_blank uniform fun slot held => blank slot held reserved
  · unfold seeded
    rw [reserved]
    exact blank reserved

/-- A change of a uniform that hosts see leaves the reserved ones. -/
theorem LeavesReserved.edit {registry : Registry Location} (leaves : registry.LeavesReserved)
    {name : String} {seen : Slot Location} (visible : registry.get? name = some seen)
    (index : Nat) (change : Edit Modifier) : (registry.edit name index change).LeavesReserved := by
  refine Every.edited name index change (fun slot _ reserved => ?_) leaves
  unfold get? at visible
  rw [reserved] at visible
  cases visible

/-- A frame leaves the reserved uniforms: it moves only what hosts see. -/
theorem LeavesReserved.frame {registry : Registry handles.Location}
    (leaves : registry.LeavesReserved) (driver : Driver handles State) (elapsed : Float32)
    (inputs : FrameInputs) (state : State) :
    ((registry.advance elapsed).send driver inputs state).1.LeavesReserved := by
  refine Every.sent driver inputs state (fun _ _ => Iff.rfl) (Every.advanced elapsed ?_ leaves)
  intro name slot visible _ reserved
  rw [visible] at reserved
  cases reserved

end Registry

variable (rig : Rig handles State)

/-- After any operations the components of the reserved uniforms are the zeros they were made as. -/
theorem run_leaves (options : SessionOptions) (clock : Clock) (state : State)
    (operations : List Operation) :
    ((Session.start rig.traced options clock (.begin state)).after rig.traced
      operations).registry.LeavesReserved := by
  have started : (Session.start rig.traced options clock (.begin state)).registry.LeavesReserved :=
    .empty _
  exact run_keeps_registry rig Registry.LeavesReserved (.empty _)
    (fun _ _ _ defaults leaves => leaves.adopted _ defaults)
    (fun _ _ _ index edit seen leaves => leaves.edit seen index edit)
    (fun _ elapsed inputs begun leaves => leaves.frame _ elapsed inputs begun) started operations

/-- Hosts see nothing of a reserved uniform. -/
theorem reserved_hidden {Whole : Type} (session : Session handles Whole) {name : String}
    (reserved : isReserved name = true) :
    name ∉ session.registry.names ∧ session.snapshot.get? name = none ∧
      session.slot? name = none := by
  refine ⟨?_, ?_, reserved_unseen session reserved⟩
  · intro listed
    have kept := (List.mem_filter.mp listed).2
    rw [reserved] at kept
    cases kept
  · unfold Session.snapshot
    cases session.shader with
    | none => rfl
    | some shader =>
      refine (NameTable.get_map _ _ name).trans ?_
      have filtered := NameTable.get_filter shader.registry.slots
        (fun name => !isReserved name) name
      rw [reserved] at filtered
      exact congrArg (Option.map _) filtered

/-- What a dump answers is what hosts see. -/
theorem dump_is_snapshot {Whole : Type} (session : Session handles Whole)
    {uniforms : NameTable SlotSnapshot} (answered : (session.apply .dump).1 = .snapshot uniforms) :
    uniforms = session.snapshot := by
  unfold Session.apply at answered
  unfold Session.snapshot
  cases running : session.shader with
  | none =>
    rw [running] at answered
    cases answered
  | some shader =>
    rw [running] at answered
    cases answered
    rfl

/-- A request about a uniform that hosts do not see changes nothing and is noted in the log. -/
theorem unseen_is_unknown {Whole : Type} (session : Session handles Whole) {name : String}
    (unseen : session.slot? name = none) {command : Command} (named : command.name? = some name) :
    session.apply command =
      if session.isRunning then (.unknown name, session.note (.unknownUniform name))
      else (.noShader, session) := by
  unfold Session.apply Session.isRunning
  have unchanged (index : Nat) (edit : Edit Modifier) := edit_needs_slot unseen index edit
  unfold Session.slot? at unseen
  cases running : session.shader with
  | none => rfl
  | some shader =>
    rw [running, Option.bind_some] at unseen
    cases command with
    | dump => cases named
    | get other index =>
      cases named
      simp only [unseen]
      rfl
    | change other index edit =>
      cases named
      simp only [unchanged]
      rfl

/-- The time and the size belong to the runtime.

After any operations, whatever the programs declare and whatever the initial values are, hosts see
nothing of a reserved uniform: it is in no list of names, no snapshot and no dump, and there is no
handle on it. A request that names one is answered as for an unknown name, and nothing but the log
changes; where no shader runs it is answered like any other request, that there is none. The
components of a reserved uniform are the zeros they were made as. And where a frame uploads to a
reserved uniform, it uploads the time that the clock gives to this frame, or the two sides of what
is drawn into. -/
theorem reserved_uniforms_stay_reserved (rig : Rig handles State) (options : SessionOptions)
    (clock : Clock) (state : State) (operations : List Operation) :
    let session :=
      (Session.start rig.traced options clock (.begin state)).after rig.traced operations
    (∀ name, isReserved name = true →
      name ∉ session.registry.names ∧
      session.snapshot.get? name = none ∧
      (∀ uniforms, (session.apply .dump).1 = .snapshot uniforms → uniforms.get? name = none) ∧
      session.slot? name = none ∧
      (∀ index edit, session.edit? name index edit = none) ∧
      (∀ command : Command, command.name? = some name →
        session.apply command =
          if session.isRunning then (.unknown name, session.note (.unknownUniform name))
          else (.noShader, session)) ∧
      ∀ slot, session.registry.slots.get? name = some slot →
        (∀ value ∈ slot.values, value = 0) ∧ ∀ modifier ∈ slot.modifiers, modifier = none) ∧
    ∀ operation, ∃ ready,
      Only (fun call => !call.draws) session.state ready.state ∧ ready.clock = session.clock ∧
      ((session.perform rig.traced operation).2 = ready ∨
        ∃ shader values,
          FullFrame values ready (session.perform rig.traced operation).2 shader ∧
          ∀ slot,
            values timeUniform slot = [session.clock.sample.1.toFloat32] ∧
            values resolutionUniform slot =
              [(rig.canvas.drawableSize ready.state.state).width.toFloat32,
                (rig.canvas.drawableSize ready.state.state).height.toFloat32]) := by
  intro session
  constructor
  · intro name reserved
    obtain ⟨unlisted, unshown, unseen⟩ := reserved_hidden session reserved
    refine ⟨unlisted, unshown, ?_, unseen, ?_, ?_, ?_⟩
    · intro uniforms answered
      rwa [dump_is_snapshot session answered]
    · intro index edit
      exact edit_needs_slot unseen index edit
    · intro command named
      exact unseen_is_unknown session unseen named
    · intro slot held
      exact run_leaves rig options clock state operations name slot held reserved
  · intro operation
    obtain ⟨ready, -, undrawn, sameClock, drawn⟩ := perform_frames rig session operation
    refine ⟨ready, undrawn, sameClock, ?_⟩
    rcases drawn with nothing | ⟨shader, frame, -⟩
    · exact .inl nothing
    · refine .inr ⟨shader, _, frame, fun slot => ?_⟩
      rw [← sameClock]
      exact ⟨rfl, rfl⟩

/-- Before a shader runs, a request about the time is not answered as one for an unknown name. -/
theorem reserved_without_shader :
    let started := Session.start scriptedRig.traced .standard (.stepped 0 1)
      (.begin (.initial, .sized ⟨8, 6⟩))
    let command : Command := .change timeUniform 0 (.set 1)
    isReserved timeUniform = true ∧ command.name? = some timeUniform ∧
      (started.apply command).1 = .noShader ∧ (started.apply command).1 ≠ .unknown timeUniform := by
  intro started command
  have answered : (started.apply command).1 = .noShader := rfl
  refine ⟨rfl, rfl, answered, ?_⟩
  rw [answered]
  intro unknown
  cases unknown

end LiveShader

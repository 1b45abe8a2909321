import LiveShader.Graphics.Scripted
import LiveShader.Headless.Driver
import LiveShader.Proofs.EverySlot
import LiveShader.Proofs.Milestones

/-!
# Uniforms across a reload

What becomes of every component of every uniform when a source replaces the running one. The
driver lists the uniforms of the new program; where their names are distinct once the suffix of
arrays is taken off, each component of a listed uniform is told by the registry before the reload
and the session's initial values: it is what the name had at that index, or an initial value of a
name that is new, or zero. The reload draws one frame, for which the modifiers of the uniforms that
hosts see run once, over the nominal time of a first frame.
-/
namespace LiveShader

variable {handles : Handles} {State : Type}

/-- A component as a reload finds or sets it, before the frame. -/
def inherited {Location : Type} (old : Registry Location) (defaults : NameTable (List Float32))
    (name : String) (place : Nat) : Component :=
  match old.slots.get? name with
  | some slot => (slot.component? place).getD .zero
  | none =>
    ⟨if isReserved name then 0
      else ((defaults.get? name).bind fun values => values[place]?).getD 0, none⟩

/-- What a reload and its frame make of the components of a listed uniform, by the slot that the
name had before, if it had one, and the initial values of the name, if there are any. -/
structure Reloads {Location : Type} (name : String) (initial : Option (List Float32))
    (before : Option (Slot Location)) (after : Slot Location) : Prop where
  /-- There is a value and a place for what moves it at every index below the count. -/
  paired : after.IsPaired ∧ ∀ old, before = some old → old.IsPaired
  /-- A component that nothing moves stays as it was, and so does any of a reserved uniform. -/
  still : ∀ old, before = some old → ∀ place < after.count, ∀ value mover,
    old.component? place = some ⟨value, mover⟩ → mover = none ∨ isReserved name = true →
      after.component? place = some ⟨value, mover⟩
  /-- A component that is moved keeps its modifier, which has been applied once for a sixtieth of a
  second. -/
  moved : ∀ old, before = some old → isReserved name = false → ∀ place < after.count,
    ∀ value modifier, old.component? place = some ⟨value, some modifier⟩ →
      after.component? place =
        some ⟨modifier.apply value (1 / 60), some (modifier.called value (1 / 60))⟩
  /-- A component that there was no room for before is zero. -/
  grown : ∀ old, before = some old → ∀ place, old.count ≤ place → place < after.count →
    after.component? place = some ⟨0, none⟩
  /-- A component of a new name has its initial value, if hosts see the name and there is one. -/
  added : before = none → ∀ place < after.count, after.component? place =
    some ⟨if isReserved name then 0
      else (initial.bind fun values => values[place]?).getD 0, none⟩

/-- A listed uniform is declared with its base name, its shape and its number of components. -/
theorem located_uniforms (driver : Driver handles State) (program : handles.Program)
    (actives : List ActiveUniform) (state : State) :
    (locateAll driver program actives state).1.map
        (fun uniform => (uniform.name, uniform.shape, uniform.count)) =
      actives.map fun active =>
        (baseName active.name, Shape.ofType active.type, active.componentCount) := by
  induction actives generalizing state with
  | nil => rfl
  | cons active rest induction => exact congrArg (List.cons _) (induction _)

/-- There is at least one component of every listed uniform. -/
theorem component_count_pos (active : ActiveUniform) : 0 < active.componentCount := by
  unfold ActiveUniform.componentCount
  have shape := Shape.components_pos (Shape.ofType active.type)
  exact Nat.mul_pos shape (by omega)

namespace Registry

variable {Location : Type}

/-- What the adopted registry holds, by what the rebuilt one holds. -/
theorem get_adopted (registry : Registry Location) (declared : List (Declared Location))
    (defaults : NameTable (List Float32)) (distinct : (declared.map (·.name)).Nodup)
    (name : String) :
    (registry.adopted declared defaults).slots.get? name =
      if name ∈ declared.map (·.name) ∧ registry.slots.get? name = none then
        ((registry.rebuild declared).1.slots.get? name).map (seeded defaults name)
      else (registry.rebuild declared).1.slots.get? name := by
  have added := added_rebuild registry declared distinct
  have once : (registry.rebuild declared).2.added.Nodup := by
    rw [added]
    exact distinct.filter _
  refine (get_apply_defaults defaults _ _ once name).trans ?_
  simp only [added, List.mem_filter, Option.isNone_iff_eq_none]

/-- The adopted registry has slots for the declared names and no others. -/
theorem adopted_names (registry : Registry Location) (declared : List (Declared Location))
    (defaults : NameTable (List Float32)) (distinct : (declared.map (·.name)).Nodup)
    (name : String) :
    ((registry.adopted declared defaults).slots.get? name).isSome ↔
      name ∈ declared.map (·.name) := by
  have same : ((registry.adopted declared defaults).slots.get? name).isSome =
      ((registry.rebuild declared).1.slots.get? name).isSome := by
    rw [get_adopted registry declared defaults distinct]
    split
    · exact Option.isSome_map
    · rfl
  rw [same]
  by_cases member : name ∈ declared.map (·.name)
  · obtain ⟨uniform, listed, rfl⟩ := List.mem_map.mp member
    simp [get_rebuild registry declared distinct listed, member]
  · simp [get_rebuild_other registry declared member, member]

/-- Every declared uniform has a slot with the components that it inherits. -/
theorem adopted_slot {registry : Registry Location} (paired : registry.IsPaired)
    (declared : List (Declared Location)) (defaults : NameTable (List Float32))
    (distinct : (declared.map (·.name)).Nodup) {uniform : Declared Location}
    (member : uniform ∈ declared) (counted : 0 < uniform.count) :
    ∃ slot, (registry.adopted declared defaults).slots.get? uniform.name = some slot ∧
      slot.shape = uniform.shape ∧ slot.count = uniform.count ∧
      ∀ place < uniform.count,
        slot.component? place = some (inherited registry defaults uniform.name place) := by
  have held := get_adopted registry declared defaults distinct uniform.name
  rw [get_rebuild registry declared distinct member] at held
  have oldPaired : ∀ slot ∈ registry.slots.get? uniform.name, slot.IsPaired :=
    fun slot found => paired uniform.name slot found
  have shape := taken_shape uniform (registry.slots.get? uniform.name)
  have count := taken_count uniform (registry.slots.get? uniform.name) counted
  have nowPaired := taken_paired uniform oldPaired
  have components := fun place (within : place < uniform.count) =>
    taken_component uniform oldPaired within
  unfold inherited
  cases old : registry.slots.get? uniform.name with
  | some slot =>
    rw [old] at held shape count components
    rw [if_neg (by simp)] at held
    exact ⟨_, held, shape, count, components⟩
  | none =>
    rw [old] at held shape count components nowPaired
    rw [if_pos ⟨List.mem_map_of_mem member, rfl⟩, Option.map_some] at held
    obtain ⟨sameShape, sameCount⟩ := seeded_keeps defaults uniform.name (uniform.taken none)
    refine ⟨_, held, sameShape.trans shape, sameCount.trans count, fun place within => ?_⟩
    exact seeded_component defaults uniform.name nowPaired (by omega) (components place within)

end Registry

/-- An installed shader has the registry that its uniforms were taken into, after one frame. -/
theorem install_ends (rig : Rig handles State) (session : Session handles State)
    (shader : RunningShader handles) (source document : String) (outcome : EvalOutcome) :
    ∃ now inputs state frames,
      ((session.adopt rig shader).install rig source document outcome).2.shader =
        some { shader with
          registry :=
            (((shader.registry.adopted (rig.driver.declared shader.program session.state).1
              session.options.defaults).advance (shader.frames.elapsed now)).send rig.driver inputs
              state).1
          frames } := by
  unfold Session.install
  cases sizeDirective? source with
  | none => exact ⟨_, _, _, _, rfl⟩
  | some mode => exact ⟨_, _, _, _, rfl⟩

/-- A slot that holds what it inherits, and has then been through a frame of the nominal time, is
what a reload makes of it. -/
theorem inherited_reloads {Location : Type} {old : Registry Location} (oldPaired : old.IsPaired)
    (defaults : NameTable (List Float32)) (name : String) {slot framed : Slot Location}
    (slotPaired : slot.IsPaired)
    (components : ∀ place < slot.count,
      slot.component? place = some (inherited old defaults name place))
    (frame : Slot.Framed name (1 / 60) slot framed) :
    Reloads name (defaults.get? name) (old.slots.get? name) framed := by
  have count : framed.count = slot.count := frame.counts.1
  have unmoved {place : Nat} {value : Float32} {mover : Option Modifier}
      (held : slot.component? place = some ⟨value, mover⟩)
      (left : mover = none ∨ isReserved name = true) :
      framed.component? place = some ⟨value, mover⟩ := by
    cases reserved : isReserved name with
    | true =>
      obtain ⟨values, modifiers⟩ := frame.hidden reserved
      rwa [Slot.component?, values, modifiers]
    | false =>
      obtain rfl : mover = none := left.resolve_right (by simp [reserved])
      exact (frame.seen reserved).component_still held
  unfold inherited at components
  refine ⟨⟨slotPaired.of_lengths frame.counts.1 frame.counts.2,
    fun _ found => oldPaired name _ found⟩,
    ?_, ?_, ?_, ?_⟩
  · intro before found place within value mover held left
    have here := components place (count ▸ within)
    simp only [found, held, Option.getD_some] at here
    exact unmoved here left
  · intro before found visible place within value modifier held
    have here := components place (count ▸ within)
    simp only [found, held, Option.getD_some] at here
    exact (frame.seen visible).component_moved here
  · intro before found place beyond within
    have here := components place (count ▸ within)
    simp only [found, before.component_beyond beyond, Option.getD_none] at here
    exact unmoved here (.inl rfl)
  · intro missing place within
    have here := components place (count ▸ within)
    simp only [missing] at here
    exact unmoved here (.inl rfl)

/-- The registry after a reload, name by name and component by component: the listed uniforms are
taken in, and one frame of the nominal time is drawn. -/
theorem reloaded_registry (driver : Driver handles State) {old : Registry handles.Location}
    (paired : old.IsPaired) (defaults : NameTable (List Float32)) (actives : List ActiveUniform)
    (declared : List (Declared handles.Location))
    (listed : declared.map (fun uniform => (uniform.name, uniform.shape, uniform.count)) =
      actives.map fun active =>
        (baseName active.name, Shape.ofType active.type, active.componentCount))
    (distinct : (actives.map fun active => baseName active.name).Nodup) (inputs : FrameInputs)
    (state : State) :
    let fresh := (((old.adopted declared defaults).advance nominalFrame).send driver inputs state).1
    fresh.slots.names.Perm (actives.map fun active => baseName active.name) ∧
    ∀ active ∈ actives, ∃ slot,
      fresh.slots.get? (baseName active.name) = some slot ∧
      slot.shape = Shape.ofType active.type ∧
      slot.count = active.componentCount ∧
      Reloads (baseName active.name) (defaults.get? (baseName active.name))
        (old.slots.get? (baseName active.name)) slot := by
  intro fresh
  have names : declared.map (·.name) = actives.map fun active => baseName active.name := by
    have firsts := congrArg (List.map Prod.fst) listed
    rw [List.map_map, List.map_map] at firsts
    exact firsts
  have distinctDeclared : (declared.map (·.name)).Nodup := names ▸ distinct
  have adoptedPaired : (old.adopted declared defaults).IsPaired :=
    (paired.rebuild declared).given defaults _
  constructor
  · refine (List.perm_ext_iff_of_nodup fresh.slots.names_nodup distinct).mpr fun name => ?_
    rw [NameTable.mem_names, ← names, ← Registry.adopted_names old declared defaults
      distinctDeclared, Registry.frame_names]
  · intro active member
    have declares : (baseName active.name, Shape.ofType active.type, active.componentCount) ∈
        declared.map fun uniform => (uniform.name, uniform.shape, uniform.count) := by
      rw [listed]
      exact List.mem_map.mpr ⟨active, member, rfl⟩
    obtain ⟨uniform, taken, name, shape, count⟩ := declared_of_mem declares
    obtain ⟨slot, held, slotShape, slotCount, components⟩ := Registry.adopted_slot paired declared
      defaults distinctDeclared taken (count ▸ component_count_pos active)
    obtain ⟨framed, kept, frame⟩ :=
      Registry.frame_of_slot driver _ nominalFrame inputs state held
    rw [name] at kept components frame
    exact ⟨framed, kept, frame.shape.trans (slotShape.trans shape),
      frame.counts.1.trans (slotCount.trans count), inherited_reloads paired defaults _
        (adoptedPaired _ slot held) (slotCount.symm ▸ components) frame⟩

/-- What a reload makes of the uniforms.

After any operations, where a shader runs, a source that is not rejected replaces it, and the
uniforms of its program are listed once. If the listed base names are distinct, they are the names
that are registered afterwards; each uniform has the shape of its type and as many components as the
type and the size ask for. A component that there was before and is room for is kept: with its
value, if nothing moves it or hosts do not see the uniform, and otherwise with the value that its
modifier makes of it once, for a sixtieth of a second. Initial values reach new names only, and
what lies beyond the old components or the initial values is zero. -/
theorem reload_decides_components (rig : Rig handles State) (options : SessionOptions)
    (clock : Clock) (state : State) (operations : List Operation) (source document : String) :
    let session :=
      (Session.start rig.traced options clock (.begin state)).after rig.traced operations
    let after := session.eval rig.traced source document
    ∀ shader, session.shader = some shader → after.1 ≠ .rejected →
      after.1 = .reloaded ∧
      ∃ actives rest fresh, after.2.shader = some fresh ∧
        Marks (.listed fresh.program actives :: rest) session.state after.2.state ∧
        (∀ program others, .listed program others ∉ rest) ∧
        ((actives.map fun active => baseName active.name).Nodup →
          fresh.registry.slots.names.Perm (actives.map fun active => baseName active.name) ∧
          ∀ active ∈ actives, ∃ slot,
            fresh.registry.slots.get? (baseName active.name) = some slot ∧
            slot.shape = Shape.ofType active.type ∧
            slot.count = (Shape.ofType active.type).components * (max active.size 1).toNat ∧
            Reloads (baseName active.name)
              (session.options.defaults.get? (baseName active.name))
              (shader.registry.slots.get? (baseName active.name)) slot) := by
  intro session after shader running accepted
  have paired : shader.registry.IsPaired := by
    have reached : session.registry.IsPaired := run_paired rig options clock state operations
    rwa [Session.registry, running] at reached
  have built := built_marks rig session source
  have ends := eval_ends rig.traced session source document
  change Evaluated rig.traced session source document after at ends
  generalize after = result at ends accepted
  cases ends with
  | unbuilt failure state failed => exact absurd rfl accepted
  | withoutQuad program ready state text stopped succeeded failed => exact absurd rfl accepted
  | started program quad ready state stopped succeeded placed => cases running.symm.trans stopped
  | reloaded old program ready runs succeeded =>
    rw [succeeded] at built
    cases running.symm.trans runs
    have released : Marks [] session.state
        (rig.traced.driver.releaseProgram shader.program ready) :=
      built.trans (.told (.releaseProgram shader.program)
        (rig.driver.releaseProgram shader.program) ready)
    generalize rig.traced.driver.releaseProgram shader.program ready = loaded at released
    have marks := released.trans (install_marks rig { session with state := loaded }
      (shader.replaced program) source document .reloaded)
    obtain ⟨now, inputs, state, frames, installs⟩ := install_ends rig.traced
      { session with state := loaded } (shader.replaced program) source document .reloaded
    refine ⟨rfl, (rig.driver.activeUniforms program loaded.state).1, installed source, _, installs,
      marks, by simp [installed], fun distinct => ?_⟩
    exact reloaded_registry rig.traced.driver paired session.options.defaults _
      (rig.traced.driver.declared program loaded).1 (located_uniforms rig.traced.driver program _ _)
      distinct inputs state

/-- A scripted driver beside the canvas without a screen. -/
def scriptedRig : Rig Scripted.handles (Scripted.Memory × Headless.Surface) :=
  Rig.pair Scripted.driver Headless.canvas

/-- A modifier that counts: its answer is the number of the call. -/
def countingModifier : Modifier := ⟨fun calls _ _ => .ofNat (calls.length + 1), []⟩

/-- A session that runs the first of two scripted programs, with a component that is moved and one
that was set. The second program keeps the one, makes the array of the other longer, drops a
uniform, and is the first to list one that has an initial value. -/
def changingSession :
    Session Scripted.handles
      (Traced Scripted.handles (Scripted.Memory × Headless.Surface)) :=
  let first : List ScriptedUniform :=
    [⟨"level", .float, 1, true⟩, ⟨"weights[0]", .float, 2, true⟩, ⟨"gone", .float, 1, true⟩]
  let second : List ScriptedUniform :=
    [⟨"weights[0]", .float, 3, true⟩, ⟨"gain", .float, 1, true⟩, ⟨"level", .float, 1, true⟩]
  let memory : Scripted.Memory := ⟨.plain, 0, [(3, first), (7, second)], []⟩
  (Session.start scriptedRig.traced ⟨100, .gles300, .ofList [("gain", [0.5])]⟩ (.stepped 0 1)
    (.begin (memory, .sized ⟨8, 6⟩))).after scriptedRig.traced
      [.eval "" "first", .edit "level" 0 (.animate countingModifier), .edit "weights" 1 (.set 0.25)]

/-- The second program replaces the first. The component that is moved has counted one call, the one
that was set is as it was beside a new zero, and the new one has its initial value. -/
theorem changed_program_reloads :
    (changingSession.eval scriptedRig.traced "" "second").1 = .reloaded ∧
    ∃ (fresh : RunningShader Scripted.handles) (level weights gain : Slot (Nat × String)),
      (changingSession.eval scriptedRig.traced "" "second").2.shader = some fresh ∧
      fresh.registry.slots.names.Perm ["weights", "gain", "level"] ∧
      fresh.registry.slots.get? "level" = some level ∧
      level.component? 0 =
        some ⟨.ofNat 1, some ⟨countingModifier.answer, [(0, 1 / 60)]⟩⟩ ∧
      fresh.registry.slots.get? "weights" = some weights ∧ weights.count = 3 ∧
      weights.component? 1 = some ⟨0.25, none⟩ ∧ weights.component? 2 = some ⟨0, none⟩ ∧
      fresh.registry.slots.get? "gain" = some gain ∧ gain.component? 0 = some ⟨0.5, none⟩ := by
  have running : changingSession.shader.isSome = true := rfl
  have outcome : (changingSession.eval scriptedRig.traced "" "second").1 = .reloaded := rfl
  have accepted : (changingSession.eval scriptedRig.traced "" "second").1 ≠ .rejected := by
    rw [outcome]
    decide
  obtain ⟨-, actives, rest, fresh, runs, marks, -, decided⟩ :=
    reload_decides_components scriptedRig _ _ _ _ "" "second" _
      (Option.some_get running).symm accepted
  have listed : actives =
      [⟨"weights[0]", .float, 3⟩, ⟨"gain", .float, 1⟩, ⟨"level", .float, 1⟩] := by
    have made : (changingSession.eval scriptedRig.traced "" "second").2.state.milestones =
        changingSession.state.milestones ++ [.listed 7
          [⟨"weights[0]", .float, 3⟩, ⟨"gain", .float, 1⟩, ⟨"level", .float, 1⟩], .drawn,
          .canvas] := rfl
    have same := List.append_cancel_left (marks.symm.trans made)
    simp only [List.cons.injEq, Milestone.listed.injEq] at same
    exact same.1.2
  subst listed
  obtain ⟨names, each⟩ := decided (by decide)
  obtain ⟨level, heldLevel, -, levelCount, levelReloads⟩ := each ⟨"level", .float, 1⟩ (by simp)
  obtain ⟨weights, heldWeights, -, weightsCount, weightsReloads⟩ :=
    each ⟨"weights[0]", .float, 3⟩ (by simp)
  obtain ⟨gain, heldGain, -, gainCount, gainReloads⟩ := each ⟨"gain", .float, 1⟩ (by simp)
  refine ⟨outcome, fresh, level, weights, gain, runs, names, heldLevel, ?_, heldWeights,
    weightsCount, ?_, ?_, heldGain, ?_⟩
  · exact levelReloads.moved _ rfl rfl 0 (levelCount ▸ by decide) 0 countingModifier rfl
  · exact weightsReloads.still _ rfl 1 (weightsCount ▸ by decide) 0.25 none rfl (.inl rfl)
  · exact weightsReloads.grown _ rfl 2 (by decide) (weightsCount ▸ by decide)
  · exact gainReloads.added rfl 0 (gainCount ▸ by decide)

end LiveShader

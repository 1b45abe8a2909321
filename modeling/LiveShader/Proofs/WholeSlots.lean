import LiveShader.OpenGL.Binding
import LiveShader.Proofs.FrameCalls
import LiveShader.Proofs.Requests

/-!
# Whole elements

A slot keeps its values in one list and what moves them in another. The two stay equally long, and
make up whole elements of the slot's shape, at least one. Count and shape are set at different
moments of a rebuild, and a driver may list a name twice, under other types and with any size; but
whatever a uniform is declared as, its slot leaves the declaration with the count and the shape of
that declaration, both lists cut off or filled up alike, and nothing else touches the shape or
either length.

So every index names a value and what moves it. And a driver that refuses values only where the
shape check does, or for reasons of its own, never finds a mismatch in what a frame uploads for a
uniform that hosts see. The uniforms of the runtime are another matter: what is uploaded for them
does not depend on the shape that a program declares.
-/
namespace LiveShader

variable {handles : Handles} {State Location : Type}

/-- The lists of a slot are in step, and make up whole elements of its shape. -/
structure Slot.IsWhole (slot : Slot Location) : Prop extends slot.IsPaired where
  elements : ∃ elements, 0 < elements ∧ slot.values.length = slot.shape.components * elements

/-- Every slot is whole, whether hosts see it or not. -/
def Registry.IsWhole (registry : Registry Location) : Prop :=
  registry.Every fun _ slot => slot.IsWhole

/-- A declared uniform asks for whole elements. -/
def Declared.IsWhole (declared : Declared Location) : Prop :=
  ∃ elements, 0 < elements ∧ declared.count = declared.shape.components * elements

namespace Slot

/-- A slot whose lists are in step stays whole while its shape and its count stay. -/
theorem IsWhole.of_parts {before after : Slot Location} (whole : before.IsWhole)
    (paired : after.IsPaired) (shape : after.shape = before.shape)
    (count : after.count = before.count) : after.IsWhole := by
  obtain ⟨elements, some_element, length⟩ := whole.elements
  refine ⟨paired, elements, some_element, ?_⟩
  rw [shape, ← length]
  exact count

/-- The values of a whole slot pass the shape check. -/
theorem IsWhole.passes {slot : Slot Location} (whole : slot.IsWhole) :
    checkShape slot.shape slot.values.length = .ok () := by
  obtain ⟨elements, some_element, length⟩ := whole.elements
  have filled : 0 < slot.shape.components * elements :=
    Nat.mul_pos slot.shape.components_pos some_element
  rw [checkShape, length, if_neg]
  simp only [Nat.mul_mod_right, ne_eq, not_true_eq_false, or_false]
  omega

/-- Every index names a value of a slot whose lists are in step, and what moves that value. -/
theorem IsPaired.named {slot : Slot Location} (paired : slot.IsPaired) (index : Nat) :
    ∃ value modifier, slot.values[index % slot.count]? = some value ∧ slot.get index = value ∧
      slot.modifiers[index % slot.count]? = some modifier ∧
      slot.isAnimated index = modifier.isSome := by
  obtain ⟨modifier, beside⟩ := modifiers_at paired index
  refine ⟨_, modifier, values_at paired index, rfl, beside, ?_⟩
  rw [isAnimated, wrap, List.getD_eq_getElem?_getD, beside, Option.getD_some]

end Slot

/-- The slot of a declared uniform is whole, whatever whole slot its name had. -/
theorem taken_whole {declared : Declared Location} (asked : declared.IsWhole)
    {old : Option (Slot Location)} (whole : ∀ slot ∈ old, slot.IsWhole) :
    (declared.taken old).IsWhole := by
  obtain ⟨elements, some_element, count⟩ := asked
  have counted : 0 < declared.count := by
    rw [count]
    exact Nat.mul_pos declared.shape.components_pos some_element
  have paired : (declared.taken old).IsPaired :=
    taken_paired declared fun slot held => (whole slot held).toIsPaired
  refine ⟨paired, elements, some_element, ?_⟩
  rw [taken_shape, ← count]
  exact taken_count declared old counted

/-- What a driver lists is declared as whole elements, whatever size is given for it. -/
theorem located_whole (driver : Driver handles State) (program : handles.Program)
    (actives : List ActiveUniform) (state : State) :
    ∀ uniform ∈ (locateAll driver program actives state).1, uniform.IsWhole := by
  induction actives generalizing state with
  | nil =>
    intro uniform member
    cases member
  | cons active rest induction =>
    intro uniform member
    rcases List.mem_cons.mp member with rfl | later
    · exact ⟨(max active.size 1).toNat, by omega, rfl⟩
    · exact induction _ uniform later

namespace Registry

/-- A rebuild leaves whole slots, however often a name is declared. -/
theorem IsWhole.rebuild {registry : Registry Location} (whole : registry.IsWhole)
    {declared : List (Declared Location)} (asked : ∀ uniform ∈ declared, uniform.IsWhole) :
    (registry.rebuild declared).1.IsWhole :=
  Every.rebuilt (fun uniform listed _ => taken_whole (asked uniform listed)) whole

/-- Initial values leave whole slots. -/
theorem IsWhole.given {registry : Registry Location} (whole : registry.IsWhole)
    (defaults : NameTable (List Float32)) (names : List String) :
    (registry.applyDefaults defaults names).IsWhole := by
  refine Every.given_defaults (fun name slot (held : slot.IsWhole) => ?_) names whole
  obtain ⟨shape, count⟩ := seeded_keeps defaults name slot
  exact held.of_parts (seeded_paired defaults name held.toIsPaired) shape count

/-- A change of a component leaves whole slots. -/
theorem IsWhole.edit {registry : Registry Location} (whole : registry.IsWhole) (name : String)
    (index : Nat) (change : Edit Modifier) : (registry.edit name index change).IsWhole :=
  Every.edited name index change (fun slot (held : slot.IsWhole) =>
    held.of_parts (held.toIsPaired.edit index change) rfl (slot.count_edit index change)) whole

/-- The modifiers leave whole slots. -/
theorem IsWhole.advance {registry : Registry Location} (whole : registry.IsWhole)
    (elapsed : Float32) : (registry.advance elapsed).IsWhole :=
  Every.advanced elapsed (fun _ slot _ (held : slot.IsWhole) =>
    held.of_parts (held.toIsPaired.advance elapsed) rfl (Slot.lengths_run_along ..).1) whole

/-- Uploads leave whole slots, whether they are refused or not. -/
theorem IsWhole.send {registry : Registry handles.Location} (whole : registry.IsWhole)
    (driver : Driver handles State) (inputs : FrameInputs) (state : State) :
    (registry.send driver inputs state).1.IsWhole :=
  Every.sent driver inputs state
    (fun _ _ => ⟨fun held => held.of_parts (held.toIsPaired.of_lengths rfl rfl) rfl rfl,
      fun held => held.of_parts (held.toIsPaired.of_lengths rfl rfl) rfl rfl⟩) whole

/-- A failure of sending one slot is the driver's answer to its upload. -/
theorem send_slot_failures (driver : Driver handles State) (inputs : FrameInputs) (name : String)
    (slot : Slot handles.Location) (state : State × List FailedUpload) :
    ∀ failure ∈ (sendSlot driver inputs name slot state).2.2, failure ∈ state.2 ∨
      failure.uniform = name ∧ ∃ location before,
        (driver.upload location slot.shape (payload inputs name slot) before).1 =
          .error failure.error := by
  intro failure member
  unfold sendSlot at member
  split at member
  · exact .inl member
  · rename_i location placed
    split at member
    · exact .inl member
    · rename_i error after answer
      rcases List.mem_append.mp member with earlier | here
      · exact .inl earlier
      · cases List.mem_singleton.mp here
        exact .inr ⟨rfl, location, state.1, congrArg Prod.fst answer⟩

/-- A failure of sending is the driver's answer to the upload of a slot that is registered. -/
theorem send_failures (driver : Driver handles State) (registry : Registry handles.Location)
    (inputs : FrameInputs) (state : State) :
    ∀ failure ∈ (registry.send driver inputs state).2.1, ∃ slot location before,
      registry.slots.get? failure.uniform = some slot ∧
      (driver.upload location slot.shape (payload inputs failure.uniform slot) before).1 =
        .error failure.error := by
  suffices steps : ∀ (entries : List (String × Slot handles.Location))
      (state : State × List FailedUpload),
      (∀ entry ∈ entries, registry.slots.get? entry.1 = some entry.2) →
      ∀ failure ∈ (NameTable.stepEntries (sendSlot driver inputs) entries state).2.2,
        failure ∈ state.2 ∨ ∃ slot location before,
          registry.slots.get? failure.uniform = some slot ∧
          (driver.upload location slot.shape (payload inputs failure.uniform slot) before).1 =
            .error failure.error by
    intro failure member
    refine (steps registry.slots.entries (state, []) ?_ failure member).resolve_left
      List.not_mem_nil
    exact fun entry listed => registry.slots.get_of_mem listed
  intro entries
  induction entries with
  | nil => exact fun state _ failure member => .inl member
  | cons entry rest induction =>
    intro state listed failure member
    obtain ⟨held, listedRest⟩ := List.forall_mem_cons.mp listed
    rcases induction _ listedRest failure member with sooner | refused
    · rcases send_slot_failures driver inputs entry.1 entry.2 state failure sooner with
        earlier | ⟨named, location, before, answer⟩
      · exact .inl earlier
      · rw [← named] at held answer
        exact .inr ⟨entry.2, location, before, held, answer⟩
    · exact .inr refused

end Registry

/-- A driver that finds a mismatch only where the shape check does. -/
def Driver.GoesByCheck (driver : Driver handles State) : Prop :=
  ∀ location shape values state, checkShape shape values.length = .ok () →
    ∀ components length,
      (driver.upload location shape values state).1 ≠ .error (.shapeMismatch components length)

/-- The driver over a context goes by the check. -/
theorem OpenGL.driver_goes_by_check (gl : OpenGL.EntryPoints State) :
    (OpenGL.driver gl).GoesByCheck := by
  intro location shape values state passes components length mismatch
  change (OpenGL.upload gl location shape values state).1 = _ at mismatch
  unfold OpenGL.upload at mismatch
  rw [passes] at mismatch
  dsimp only at mismatch
  split at mismatch <;> cases mismatch

/-- What is done with a registry while programs come and go. -/
inductive Upkeep (handles : Handles) where
  /-- The uniforms of a program are taken in. -/
  | rebuild (program : handles.Program)
  /-- Names get their initial values. -/
  | seed (defaults : NameTable (List Float32)) (names : List String)
  /-- One component is changed. -/
  | edit (name : String) (index : Nat) (edit : Edit Modifier)
  /-- The modifiers run, and the slots are uploaded. -/
  | frame (elapsed : Float32) (inputs : FrameInputs)

namespace Registry

/-- A registry, and the state of its driver, after one piece of upkeep. -/
def tend (driver : Driver handles State) :
    Upkeep handles → Registry handles.Location × State → Registry handles.Location × State
  | .rebuild program, (registry, state) =>
    let (declared, state) := driver.declared program state
    ((registry.rebuild declared).1, state)
  | .seed defaults names, (registry, state) => (registry.applyDefaults defaults names, state)
  | .edit name index edit, (registry, state) => (registry.edit name index edit, state)
  | .frame elapsed inputs, (registry, state) =>
    let (registry, _, state) := (registry.advance elapsed).send driver inputs state
    (registry, state)

/-- A registry, and the state of its driver, after upkeep, the first of it done first. -/
def tended (driver : Driver handles State) :
    List (Upkeep handles) → Registry handles.Location × State → Registry handles.Location × State
  | [], kept => kept
  | upkeep :: rest, kept => tended driver rest (tend driver upkeep kept)

/-- Every piece of upkeep leaves whole slots. -/
theorem tend_whole (driver : Driver handles State) (upkeep : Upkeep handles)
    {kept : Registry handles.Location × State} (whole : kept.1.IsWhole) :
    (tend driver upkeep kept).1.IsWhole := by
  obtain ⟨registry, state⟩ := kept
  cases upkeep with
  | rebuild program => exact IsWhole.rebuild whole (located_whole driver program _ _)
  | seed defaults names => exact IsWhole.given whole defaults names
  | edit name index edit => exact IsWhole.edit whole name index edit
  | frame elapsed inputs => exact (IsWhole.advance whole elapsed).send driver inputs state

/-- All upkeep leaves whole slots. -/
theorem tended_whole (driver : Driver handles State) (upkeep : List (Upkeep handles))
    {kept : Registry handles.Location × State} (whole : kept.1.IsWhole) :
    (tended driver upkeep kept).1.IsWhole := by
  induction upkeep generalizing kept with
  | nil => exact whole
  | cons first rest induction => exact induction (tend_whole driver first whole)

end Registry

/-- Slots stay whole, so that no upload for a host can have a wrong number of values.

Take any upkeep of a registry over any driver: programs that come and go with whatever the driver
lists for them, initial values, changes and frames, and uploads that succeed or are refused. Every
slot then has as many modifier entries as values, and at least one value; the values are whole
elements of the slot's shape; and every index names a value within the one list and an entry within
the other. And of a frame that follows: where an upload for a uniform that hosts see is refused, the
values have passed the shape check, so that a driver that finds a mismatch only where the check does
refuses for a reason of its own. The driver over a context is one of those. -/
theorem slots_stay_whole (driver : Driver handles State) (state : State)
    (upkeep : List (Upkeep handles)) :
    let kept := Registry.tended driver upkeep (.empty, state)
    (∀ name slot, kept.1.slots.get? name = some slot →
      slot.modifiers.length = slot.values.length ∧ 0 < slot.values.length ∧
      (∃ elements, 0 < elements ∧ slot.values.length = slot.shape.components * elements) ∧
      0 < slot.count ∧
      ∀ index, ∃ value modifier,
        slot.values[index % slot.count]? = some value ∧ slot.get index = value ∧
        slot.modifiers[index % slot.count]? = some modifier ∧
        slot.isAnimated index = modifier.isSome) ∧
    (∀ elapsed inputs,
      let moved := kept.1.advance elapsed
      ∀ failure ∈ (moved.send driver inputs kept.2).2.1, isReserved failure.uniform = false →
        (∃ slot location before, moved.slots.get? failure.uniform = some slot ∧
          checkShape slot.shape slot.values.length = .ok () ∧
          (driver.upload location slot.shape slot.values before).1 = .error failure.error) ∧
        (driver.GoesByCheck → ∃ code, failure.error = .driver code)) ∧
    ∀ {Context : Type} (gl : OpenGL.EntryPoints Context), (OpenGL.driver gl).GoesByCheck := by
  intro kept
  have whole : kept.1.IsWhole := Registry.tended_whole driver upkeep (Registry.Every.empty _)
  refine ⟨fun name slot held => ?_, ?_, OpenGL.driver_goes_by_check⟩
  · have sound : slot.IsWhole := whole name slot held
    exact ⟨sound.paired, sound.occupied, sound.elements, sound.occupied, sound.toIsPaired.named⟩
  · intro elapsed inputs moved failure member visible
    obtain ⟨slot, location, before, held, answer⟩ :=
      Registry.send_failures driver moved inputs kept.2 failure member
    have passes := (whole.advance elapsed _ slot held).passes
    rw [payload_seen inputs visible] at answer
    refine ⟨⟨slot, location, before, held, passes, answer⟩, fun checks => ?_⟩
    cases reason : failure.error with
    | driver code => exact ⟨code, rfl⟩
    | shapeMismatch components length =>
      rw [reason] at answer
      exact absurd answer (checks location slot.shape slot.values before passes components length)

/-- The slots of a session are whole after any operations. -/
theorem session_slots_whole (rig : Rig handles State) (options : SessionOptions) (clock : Clock)
    (state : State) (operations : List Operation) :
    ((Session.start rig.traced options clock (.begin state)).after rig.traced
      operations).registry.IsWhole := by
  have started : (Session.start rig.traced options clock (.begin state)).registry.IsWhole :=
    .empty _
  exact run_keeps_registry rig Registry.IsWhole (.empty _)
    (fun _ program _ defaults whole =>
      (whole.rebuild (located_whole rig.traced.driver program _ _)).given defaults _)
    (fun _ name _ index edit _ whole => whole.edit name index edit)
    (fun _ elapsed inputs begun whole => (whole.advance elapsed).send _ inputs begun)
    started operations

end LiveShader

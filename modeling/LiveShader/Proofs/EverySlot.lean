import LiveShader.Proofs.Frames
import LiveShader.Proofs.Rebuild

/-!
# What holds of every slot

A registry is changed slot by slot: a declaration makes one or takes it over, initial values and
changes reach components of one, and a frame runs the modifiers of each and notes its failures. So a
property of slots holds throughout a registry for as long as each of these keeps it of a slot, and
nothing has to be said about tables of slots again.

The first property of the kind is that the two lists of a slot are in step. Nothing but the
operations themselves sees to it: a list is made, changed, cut off or filled up at a time, and each
operation has to treat both alike.
-/
namespace LiveShader

variable {handles : Handles} {State Location : Type}

namespace Registry

/-- Something holds of every slot and its name, whether hosts see the uniform or not. -/
def Every (such : String → Slot Location → Prop) (registry : Registry Location) : Prop :=
  ∀ name slot, registry.slots.get? name = some slot → such name slot

/-- The registry that a program's uniforms are taken into. -/
def adopted (registry : Registry Location) (declared : List (Declared Location))
    (defaults : NameTable (List Float32)) : Registry Location :=
  (registry.rebuild declared).1.applyDefaults defaults (registry.rebuild declared).2.added

namespace Every

variable {such : String → Slot Location → Prop} {registry : Registry Location}

/-- Anything holds of the slots of a registry without slots, so every run begins with the property.
-/
theorem empty (such : String → Slot Location → Prop) :
    Every such (Registry.empty : Registry Location) := by
  intro name slot held
  cases held

/-- Slots of which a property sees the same have it or not alike. -/
theorem of_views {View : Type} {view : Slot Location → View} {before after : Registry Location}
    (every : before.Every such) (same : ∀ name, (after.slots.get? name).map view =
      (before.slots.get? name).map view)
    (decides : ∀ name old slot, view old = view slot → such name old → such name slot) :
    after.Every such := by
  intro name slot held
  have views := same name
  rw [held, Option.map_some] at views
  obtain ⟨old, found, equal⟩ := Option.map_eq_some_iff.mp views.symm
  exact decides name old slot equal (every name old found)

/-- What holds of the slot that a uniform is given holds of every slot after its declaration. -/
theorem declared (uniform : Declared Location) (report : RebuildReport)
    (taken : ∀ old : Option (Slot Location), (∀ slot ∈ old, such uniform.name slot) →
      such uniform.name (uniform.taken old))
    (every : registry.Every such) : (registry.declare uniform report).1.Every such := by
  intro name slot held
  rw [get_declare] at held
  split at held
  · rename_i here
    subst here
    rw [Option.some.injEq] at held
    subst held
    exact taken _ fun old found => every uniform.name old found
  · exact every name slot held

/-- What holds of the slot of every declared uniform holds of every slot after all declarations,
however often a name is declared. -/
theorem declared_all {uniforms : List (Declared Location)}
    (taken : ∀ uniform ∈ uniforms, ∀ old : Option (Slot Location),
      (∀ slot ∈ old, such uniform.name slot) → such uniform.name (uniform.taken old))
    (report : RebuildReport) (every : registry.Every such) :
    (declareAll uniforms registry report).1.Every such := by
  induction uniforms generalizing registry report with
  | nil => exact every
  | cons first rest induction =>
    obtain ⟨takenFirst, takenRest⟩ := List.forall_mem_cons.mp taken
    exact induction takenRest _ (every.declared first report takenFirst)

/-- A rebuild drops slots, and the others are taken over. It is enough to show the property of a
slot that is made for a declaration, and of one that is taken over from before. -/
theorem rebuilt {declared : List (Declared Location)}
    (taken : ∀ uniform ∈ declared, ∀ old : Option (Slot Location),
      (∀ slot ∈ old, such uniform.name slot) → such uniform.name (uniform.taken old))
    (every : registry.Every such) : (registry.rebuild declared).1.Every such := by
  intro name slot held
  have filtered := (NameTable.get_filter _ (fun name =>
    declared.any fun uniform => uniform.name == name) name).symm.trans held
  rw [Option.ite_none_right_eq_some] at filtered
  exact declared_all taken .unchanged every name slot filtered.2

/-- What initial values keep of a slot, they keep of every slot: those of other names are left
alone. -/
theorem given_defaults {defaults : NameTable (List Float32)}
    (kept : ∀ name slot, such name slot → such name (seeded defaults name slot))
    (added : List String) (every : registry.Every such) :
    (registry.applyDefaults defaults added).Every such := by
  induction added generalizing registry with
  | nil => exact every
  | cons first rest induction =>
    have given : (registry.applyDefaults defaults [first]).Every such := by
      intro name slot held
      rw [get_default] at held
      split at held
      · obtain ⟨old, found, rfl⟩ := Option.map_eq_some_iff.mp held
        exact kept name old (every name old found)
      · exact every name slot held
    exact induction given

/-- What taking over and initial values keep of a slot, the taking in of a program keeps of every
slot. -/
theorem adopted {declared : List (Declared Location)} {defaults : NameTable (List Float32)}
    (taken : ∀ uniform ∈ declared, ∀ old : Option (Slot Location),
      (∀ slot ∈ old, such uniform.name slot) → such uniform.name (uniform.taken old))
    (kept : ∀ name slot, such name slot → such name (seeded defaults name slot))
    (every : registry.Every such) : (registry.adopted declared defaults).Every such :=
  (every.rebuilt taken).given_defaults kept _

/-- What a change keeps of the slot that it reaches, it keeps of every slot. -/
theorem edited (name : String) (index : Nat) (change : Edit Modifier)
    (kept : ∀ slot, such name slot → such name (slot.edit index change))
    (every : registry.Every such) : (registry.edit name index change).Every such := by
  intro other slot held
  have adjusted := (NameTable.get_adjust registry.slots name other fun slot =>
    slot.edit index change).symm.trans held
  split at adjusted
  · rename_i here
    subst here
    obtain ⟨old, found, rfl⟩ := Option.map_eq_some_iff.mp adjusted
    exact kept old (every _ old found)
  · exact every other slot adjusted

/-- What the modifiers keep of a slot that hosts see, they keep of every slot. -/
theorem advanced (elapsed : Float32)
    (moved : ∀ name slot, isReserved name = false → such name slot →
      such name (slot.advance elapsed))
    (every : registry.Every such) : (registry.advance elapsed).Every such := by
  intro name slot held
  rw [get_advance] at held
  obtain ⟨old, found, rfl⟩ := Option.map_eq_some_iff.mp held
  split
  · exact every name old found
  · rename_i visible
    exact moved name old (Bool.eq_false_iff.mpr visible) (every name old found)

/-- What does not depend on the notes of failures is kept of every slot by uploads, whether they are
refused or not. -/
theorem sent {such : String → Slot handles.Location → Prop} {registry : Registry handles.Location}
    (driver : Driver handles State) (inputs : FrameInputs) (state : State)
    (noted : ∀ name slot, such name slot.unwarned ↔ such name slot)
    (every : registry.Every such) : (registry.send driver inputs state).1.Every such :=
  every.of_views (get_send driver registry inputs state) fun name old slot same held =>
    (noted name slot).mp (same ▸ (noted name old).mpr held)

end Every

/-! ### Lists in step -/

/-- The lists of every slot are in step: each has as many modifiers, present or not, as values. -/
def IsPaired (registry : Registry Location) : Prop :=
  registry.Every fun _ slot => slot.IsPaired

variable {registry : Registry Location}

/-- A declaration keeps the lists in step. -/
theorem IsPaired.declare (paired : registry.IsPaired) (uniform : Declared Location)
    (report : RebuildReport) : (registry.declare uniform report).1.IsPaired :=
  Every.declared uniform report (fun _ => taken_paired uniform) paired

/-- A rebuild keeps the lists in step. A new slot is made with both, and an old one has both cut off
or filled up to the same count. -/
theorem IsPaired.rebuild (paired : registry.IsPaired) (declared : List (Declared Location)) :
    (registry.rebuild declared).1.IsPaired :=
  Every.rebuilt (fun uniform _ _ => taken_paired uniform) paired

/-- Initial values keep the lists in step. -/
theorem IsPaired.given (paired : registry.IsPaired) (defaults : NameTable (List Float32))
    (names : List String) : (registry.applyDefaults defaults names).IsPaired :=
  Every.given_defaults
    (fun name slot (held : slot.IsPaired) => seeded_paired defaults name held) names paired

/-- A change of a component keeps the lists in step, as it replaces an entry of each and leaves the
lengths. -/
theorem IsPaired.edit (paired : registry.IsPaired) (name : String) (index : Nat)
    (change : Edit Modifier) : (registry.edit name index change).IsPaired :=
  Every.edited name index change (fun _ slot => slot.edit index change) paired

/-- The modifiers keep the lists in step. -/
theorem IsPaired.advance (paired : registry.IsPaired) (elapsed : Float32) :
    (registry.advance elapsed).IsPaired :=
  Every.advanced elapsed (fun _ _ _ slot => slot.advance elapsed) paired

/-- Uploads keep the lists in step: they read the values and change at most the note. -/
theorem IsPaired.send {registry : Registry handles.Location} (paired : registry.IsPaired)
    (driver : Driver handles State) (inputs : FrameInputs) (state : State) :
    (registry.send driver inputs state).1.IsPaired :=
  Every.sent driver inputs state
    (fun _ _ => ⟨fun slot => slot.of_lengths rfl rfl, fun slot => slot.of_lengths rfl rfl⟩) paired

end Registry

/-! ### Registries through runs -/

variable (rig : Rig handles State)

/-- What holds of a registry without slots, and survives the taking in of a program and a change of
what hosts see, survives making ready. -/
theorem readied_keeps_registry (Kept : Registry handles.Location → Prop) (empty : Kept .empty)
    (adopted : ∀ registry program loaded defaults, Kept registry →
      Kept (registry.adopted (rig.traced.driver.declared program loaded).1 defaults))
    (edited : ∀ registry name slot index edit, registry.get? name = some slot → Kept registry →
      Kept (registry.edit name index edit))
    {session ready : Session handles (Traced handles State)} (kept : Kept session.registry)
    (readied : Readied rig session ready) : Kept ready.registry := by
  cases readied with
  | kept same clock aside =>
    rcases same with same | stopped
    · unfold Session.registry at kept ⊢
      rwa [same]
    · unfold Session.registry
      rwa [stopped]
  | changed old slot name index edit running seen changed clock aside =>
    unfold Session.registry at kept ⊢
    rw [running] at kept
    rw [changed]
    exact edited old.registry name slot index edit seen kept
  | installed fresh loaded built registry anew installs clock settled =>
    rw [← registry] at kept
    unfold Session.registry
    rw [installs]
    exact adopted fresh.registry fresh.program loaded session.options.defaults kept

/-- What survives making ready, and a frame as well, survives any operations. The conditions are
about registries only, and the induction over the operations is the one over sessions. -/
theorem run_keeps_registry (Kept : Registry handles.Location → Prop) (empty : Kept .empty)
    (adopted : ∀ registry program loaded defaults, Kept registry →
      Kept (registry.adopted (rig.traced.driver.declared program loaded).1 defaults))
    (edited : ∀ registry name slot index edit, registry.get? name = some slot → Kept registry →
      Kept (registry.edit name index edit))
    (framed : ∀ registry elapsed inputs begun, Kept registry →
      Kept ((registry.advance elapsed).send rig.traced.driver inputs begun).1)
    {session : Session handles (Traced handles State)} (kept : Kept session.registry)
    (operations : List Operation) : Kept (session.after rig.traced operations).registry := by
  refine run_keeps rig (fun session => Kept session.registry) ?_ ?_ kept operations
  · intro session ready kept readied
    exact readied_keeps_registry rig Kept empty adopted edited kept readied
  · intro ready shader kept running
    obtain ⟨now, inputs, begun, ends⟩ := draw_ends rig.traced ready shader
    unfold Session.registry at kept ⊢
    rw [running] at kept
    rw [ends]
    exact framed shader.registry (shader.frames.elapsed now) inputs begun kept

/-- Making ready keeps the lists of every slot in step, whichever of its ways it goes. -/
theorem readied_paired {session ready : Session handles (Traced handles State)}
    (paired : session.registry.IsPaired) (readied : Readied rig session ready) :
    ready.registry.IsPaired :=
  readied_keeps_registry rig Registry.IsPaired (.empty _)
    (fun _ _ _ defaults paired => (paired.rebuild _).given defaults _)
    (fun _ name _ index edit _ paired => paired.edit name index edit) paired readied

/-- Operations keep the lists of every slot in step, from any session in which they are. -/
theorem after_paired {session : Session handles (Traced handles State)}
    (paired : session.registry.IsPaired) (operations : List Operation) :
    (session.after rig.traced operations).registry.IsPaired :=
  run_keeps_registry rig Registry.IsPaired (.empty _)
    (fun _ _ _ defaults paired => (paired.rebuild _).given defaults _)
    (fun _ name _ index edit _ paired => paired.edit name index edit)
    (fun _ elapsed inputs begun paired => (paired.advance elapsed).send _ inputs begun)
    paired operations

/-- After any operations the lists of every slot are in step. A session begins without slots, and
nothing that it does brings the lists of one out of step. -/
theorem run_paired (options : SessionOptions) (clock : Clock) (state : State)
    (operations : List Operation) :
    ((Session.start rig.traced options clock (.begin state)).after rig.traced
      operations).registry.IsPaired := by
  have started : (Session.start rig.traced options clock (.begin state)).registry.IsPaired :=
    .empty _
  exact after_paired rig started operations

end LiveShader

import LiveShader.Proofs.Reserved

/-!
# What a request does

A request is answered from the uniforms that hosts see. One that reads, or that names what hosts do
not see, leaves the session as it is; at most the log is told. A change reaches the component that
its index names once it is wrapped around, wakes the loop, and leaves everything else alone: the
other components, the other slots, the program, the driver, the canvas and the clock.

Since a change says so exactly where it acts, requests about different components do not interfere:
either order gives the same session and the same answers. And what was set is read back through
every index that names the same component.
-/
namespace LiveShader

variable {handles : Handles} {State Location : Type}

namespace Slot

/-- The value that an index names stands at the wrapped index. -/
theorem values_at {slot : Slot Location} (paired : slot.IsPaired) (index : Nat) :
    slot.values[index % slot.count]? = some (slot.get index) := by
  have within : index % slot.count < slot.values.length := Nat.mod_lt _ paired.occupied
  rw [List.getElem?_eq_getElem within]
  exact congrArg some (List.getElem_eq_getD 0)

/-- What moves the component that an index names stands at the same place of the other list. -/
theorem modifiers_at {slot : Slot Location} (paired : slot.IsPaired) (index : Nat) :
    ∃ modifier, slot.modifiers[index % slot.count]? = some modifier := by
  have within : index % slot.count < slot.modifiers.length := by
    rw [paired.paired]
    exact Nat.mod_lt _ paired.occupied
  exact ⟨_, List.getElem?_eq_getElem within⟩

end Slot

namespace Registry

/-- A change reaches the slot of its name, and no other. -/
theorem get_edit (registry : Registry Location) (name : String) (index : Nat) (edit : Edit Modifier)
    (other : String) :
    (registry.edit name index edit).slots.get? other =
      if other = name then (registry.slots.get? other).map (·.edit index edit)
      else registry.slots.get? other :=
  NameTable.get_adjust registry.slots name other fun slot => slot.edit index edit

end Registry

/-- Hosts see the slots whose names are not reserved. -/
theorem seen_iff {registry : Registry Location} {name : String} {slot : Slot Location} :
    registry.get? name = some slot ↔
      isReserved name = false ∧ registry.slots.get? name = some slot := by
  unfold Registry.get?
  cases isReserved name <;> simp

section Answers

variable {session : Session handles State} {shader : RunningShader handles} {name : String}
  {slot : Slot handles.Location}

/-- After a change hosts see the same uniforms, one of them with the change made. -/
theorem seen_after_change {other : String} (seen : shader.registry.get? other = some slot)
    (name : String) (index : Nat) (edit : Edit Modifier) :
    (shader.changed name index edit).registry.get? other =
      some (if other = name then slot.edit index edit else slot) := by
  obtain ⟨visible, held⟩ := seen_iff.mp seen
  refine seen_iff.mpr ⟨visible, (Registry.get_edit shader.registry name index edit other).trans ?_⟩
  rw [held]
  split <;> rfl

end Answers

end LiveShader

import LiveShader.Uniform.Modifier
import LiveShader.Uniform.Shape

/-!
# Slots

A slot holds the components of one uniform: the values in one list, and what moves each of them in
another. The two are made together and are cut off or filled up together, so that they stay equally
long, and there is always at least one component. Indices wrap around the values, so every index
names a component. The location is whatever the driver calls the place the values go to; a uniform
without one keeps its values all the same.
-/
namespace LiveShader

/-- A change of one component asked for by a host, who names what is to move it in one way or
another. -/
inductive Edit (Mover : Type) where
  /-- A new value, which nothing moves. -/
  | set (value : Float32)
  /-- The value plus a difference, which nothing moves. -/
  | increment (delta : Float32)
  /-- The same value, moved from the next frame on. -/
  | animate (mover : Mover)
  /-- The same value, which nothing moves any more. -/
  | clear
  deriving DecidableEq

/-- A change with what is to move the component made of what was named. -/
def Edit.map {Named Mover : Type} (make : Named → Mover) : Edit Named → Edit Mover
  | .set value => .set value
  | .increment delta => .increment delta
  | .animate named => .animate (make named)
  | .clear => .clear

/-- The components of one uniform, and where they are uploaded. -/
structure Slot (Location : Type) where
  shape : Shape
  values : List Float32
  /-- What moves each component, if anything does. -/
  modifiers : List (Option Modifier)
  location : Option Location
  /-- Whether a failed upload has been reported since the slot was last bound. -/
  warned : Bool

/-- What hosts see of a slot. -/
structure SlotSnapshot where
  shape : Shape
  values : List Float32
  /-- The indices of the components that are moved, in ascending order. -/
  animated : List Nat
  deriving DecidableEq

namespace Slot

variable {Location : Type}

/-- How many components there are. -/
def count (slot : Slot Location) : Nat := slot.values.length

/-- An unbound slot of zeros. -/
def fresh (shape : Shape) (count : Nat) : Slot Location :=
  { shape
    values := List.replicate (max count 1) 0
    modifiers := List.replicate (max count 1) none
    location := none
    warned := false }

/-- The place of the component that an index names. -/
def wrap (slot : Slot Location) (index : Nat) : Nat := index % slot.count

/-- The value of the component an index names. -/
def get (slot : Slot Location) (index : Nat) : Float32 := slot.values.getD (slot.wrap index) 0

/-- Whether the component an index names is moved. -/
def isAnimated (slot : Slot Location) (index : Nat) : Bool :=
  (slot.modifiers.getD (slot.wrap index) none).isSome

/-- Changes the component an index names. Whatever the change, its modifier gives way to the one
that was asked for, or to none. -/
def edit (slot : Slot Location) (index : Nat) (change : Edit Modifier) : Slot Location :=
  let place := slot.wrap index
  { slot with
    values := match change with
      | .set value => slot.values.set place value
      | .increment delta => slot.values.modify place (· + delta)
      | .animate _ | .clear => slot.values
    modifiers := slot.modifiers.set place <| match change with
      | .animate modifier => some modifier
      | .set _ | .increment _ | .clear => none }

/-- Runs the modifiers along the values, each of them once, for as far as both lists go. -/
def runAlong (elapsed : Float32) :
    List Float32 → List (Option Modifier) → List Float32 × List (Option Modifier)
  | value :: values, none :: modifiers =>
    let (moved, called) := runAlong elapsed values modifiers
    (value :: moved, none :: called)
  | value :: values, some modifier :: modifiers =>
    let (moved, called) := runAlong elapsed values modifiers
    (modifier.apply value elapsed :: moved, some (modifier.called value elapsed) :: called)
  | values, modifiers => (values, modifiers)

/-- Runs every modifier once. -/
def advance (elapsed : Float32) (slot : Slot Location) : Slot Location :=
  let (values, modifiers) := runAlong elapsed slot.values slot.modifiers
  { slot with values, modifiers }

/-- A list cut off, or filled up, to a length. -/
def fitted {Entry : Type} (fill : Entry) (length : Nat) (entries : List Entry) : List Entry :=
  entries.take length ++ List.replicate (length - entries.length) fill

/-- Cuts the components off, or fills them up with zeros, to a count of at least one. -/
def resize (slot : Slot Location) (count : Nat) : Slot Location :=
  { slot with
    values := fitted 0 (max count 1) slot.values
    modifiers := fitted none (max count 1) slot.modifiers }

/-- Ties the slot to a place in a program; failures are reported afresh from then on. -/
def bind (slot : Slot Location) (location : Option Location) (shape : Shape) : Slot Location :=
  { slot with location, shape, warned := false }

/-- Notes a failed upload. -/
def markWarned (slot : Slot Location) : Slot Location := { slot with warned := true }

/-- The indices, from `index` on, of the components that are moved. -/
def animatedFrom : Nat → List (Option Modifier) → List Nat
  | _, [] => []
  | index, modifier :: rest =>
    if modifier.isSome then index :: animatedFrom (index + 1) rest
    else animatedFrom (index + 1) rest

/-- What hosts see of the slot. -/
def snapshot (slot : Slot Location) : SlotSnapshot :=
  ⟨slot.shape, slot.values, animatedFrom 0 slot.modifiers⟩

end Slot

end LiveShader

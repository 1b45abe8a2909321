import LiveShader.Proofs.Tables
import LiveShader.Uniform.Registry

/-!
# Slots through frames and changes

What a slot holds after it was resized, bound or seeded, component by component. A slot that is
resized keeps what there is room for and is filled up with zeros; seeding sets the components that
there are values for and no others.

Which slots a registry has does not depend on what is done with their components: a frame and a
change of a component keep every name, so a shader that reads the time goes on reading it. A frame
runs the modifiers of the slots that hosts see, and sending the slots changes no component.
-/
namespace LiveShader

/-- One component of a slot: its value, and what moves it, if anything does. -/
structure Component where
  value : Float32
  modifier : Option Modifier

/-- A component that nobody has set. -/
def Component.zero : Component := ⟨0, none⟩

/-- The value of a component after a change. -/
def Edit.valueAfter : Edit Modifier → Float32 → Float32
  | .set value, _ => value
  | .increment delta, value => value + delta
  | .animate _, value | .clear, value => value

/-- What moves a component after a change. -/
def Edit.moverAfter : Edit Modifier → Option Modifier
  | .animate modifier => some modifier
  | .set _ | .increment _ | .clear => none

/-- A component after a change: its value and what moves it, each by the change alone. A value that
is set is one that nothing moves. -/
def Component.edited (component : Component) (edit : Edit Modifier) : Component :=
  ⟨edit.valueAfter component.value, edit.moverAfter⟩

/-- A component after a frame: what moves it has been called once. -/
def Component.framed (elapsed : Float32) (component : Component) : Component :=
  ⟨component.modifier.elim component.value fun modifier => modifier.apply component.value elapsed,
    component.modifier.map fun modifier => modifier.called component.value elapsed⟩

namespace Slot

variable {Location : Type}

/-- A slot with whether a failure was reported put aside. Only uploads look at the note, so this is
what all else has to say of a slot. -/
def unwarned (slot : Slot Location) : Slot Location := { slot with warned := false }

/-- The component at a place: a value, and what stands beside it in the other list. -/
def component? (slot : Slot Location) (place : Nat) : Option Component :=
  slot.values[place]?.bind fun value => slot.modifiers[place]?.map fun modifier => ⟨value, modifier⟩

/-- A component is a value and a modifier at the same place. A place beyond the end of either list
shows none, so nothing is said here of the lengths. -/
theorem component_iff {slot : Slot Location} {place : Nat} {value : Float32}
    {modifier : Option Modifier} :
    slot.component? place = some ⟨value, modifier⟩ ↔
      slot.values[place]? = some value ∧ slot.modifiers[place]? = some modifier := by
  unfold component?
  cases slot.values[place]? <;> cases slot.modifiers[place]? <;> simp

/-! ### Two lists in step -/

/-- There is at least one component, and the two lists of a slot are equally long. -/
structure IsPaired (slot : Slot Location) : Prop where
  occupied : 0 < slot.values.length
  paired : slot.modifiers.length = slot.values.length

/-- Lists that stay as long as they were stay in step. -/
theorem IsPaired.of_lengths {before after : Slot Location} (paired : before.IsPaired)
    (values : after.values.length = before.values.length)
    (modifiers : after.modifiers.length = before.modifiers.length) : after.IsPaired :=
  ⟨values ▸ paired.occupied, by rw [modifiers, values, paired.paired]⟩

/-- In a slot whose lists are in step there is a component at every place below the count. -/
theorem IsPaired.component {slot : Slot Location} (paired : slot.IsPaired) {place : Nat}
    (within : place < slot.count) : ∃ component, slot.component? place = some component := by
  have both : place < slot.modifiers.length := paired.paired ▸ within
  exact ⟨_, component_iff.mpr ⟨List.getElem?_eq_getElem within, List.getElem?_eq_getElem both⟩⟩

/-- Beyond the count there are no components. -/
theorem component_beyond (slot : Slot Location) {place : Nat} (beyond : slot.count ≤ place) :
    slot.component? place = none := by
  unfold component?
  rw [List.getElem?_eq_none beyond, Option.bind_none]

/-- The lists of a slot of zeros are in step, as both are made with the count. -/
theorem fresh_paired (Location : Type) (shape : Shape) (count : Nat) :
    (Slot.fresh shape count : Slot Location).IsPaired where
  occupied := by
    rw [fresh, List.length_replicate]
    omega
  paired := by simp [fresh]

/-- A fitted list has its length, be it that entries were cut off or that others were filled in. -/
theorem length_fitted {Entry : Type} (fill : Entry) (length : Nat) (entries : List Entry) :
    (fitted fill length entries).length = length := by
  rw [fitted, List.length_append, List.length_take, List.length_replicate]
  omega

/-- A fitted list holds what it held, and the filling beyond that. -/
theorem entry_fitted {Entry : Type} (fill : Entry) (entries : List Entry) {length place : Nat}
    (within : place < length) :
    (fitted fill length entries)[place]? = some (entries[place]?.getD fill) := by
  unfold fitted
  by_cases held : place < entries.length
  · have taken : place < (entries.take length).length := by
      rw [List.length_take]
      omega
    rw [List.getElem?_append_left taken, List.getElem?_take_of_lt within,
      List.getElem?_eq_getElem held, Option.getD_some]
  · have all : entries.take length = entries := List.take_of_length_le (by omega)
    rw [all, List.getElem?_append_right (by omega), List.getElem?_replicate_of_lt (by omega),
      List.getElem?_eq_none (by omega), Option.getD_none]

/-- A fitted list holds nothing that it did not hold, but for the filling. -/
theorem mem_fitted {Entry : Type} {fill entry : Entry} {length : Nat} {entries : List Entry}
    (member : entry ∈ fitted fill length entries) : entry ∈ entries ∨ entry = fill :=
  (List.mem_append.mp member).imp List.mem_of_mem_take List.eq_of_mem_replicate

/-- Resizing brings the lists in step, each to the same length by itself. -/
theorem resize_paired (slot : Slot Location) (count : Nat) : (slot.resize count).IsPaired where
  occupied := by
    rw [resize, length_fitted]
    omega
  paired := by simp only [resize, length_fitted]

/-- A change of a component leaves both lists as long as they were, whether they are in step or not.
-/
theorem lengths_edit (slot : Slot Location) (index : Nat) (change : Edit Modifier) :
    (slot.edit index change).values.length = slot.values.length ∧
      (slot.edit index change).modifiers.length = slot.modifiers.length := by
  cases change <;> simp [edit]

/-- A change of a component keeps the lists in step. -/
theorem IsPaired.edit {slot : Slot Location} (paired : slot.IsPaired) (index : Nat)
    (change : Edit Modifier) : (slot.edit index change).IsPaired :=
  paired.of_lengths (slot.lengths_edit index change).1 (slot.lengths_edit index change).2

/-- What running the modifiers makes of a value and of what moves it, at every place. -/
theorem entries_run_along (elapsed : Float32) (values : List Float32)
    (modifiers : List (Option Modifier)) (place : Nat) :
    (runAlong elapsed values modifiers).1[place]? =
        values[place]?.map (fun value =>
          modifiers[place]?.join.elim value fun modifier => modifier.apply value elapsed) ∧
      (runAlong elapsed values modifiers).2[place]? =
        modifiers[place]?.map fun modifier =>
          values[place]?.elim modifier fun value =>
            modifier.map fun modifier => modifier.called value elapsed := by
  induction values generalizing modifiers place with
  | nil => simp [runAlong]
  | cons value values induction =>
    cases modifiers with
    | nil => simp [runAlong]
    | cons modifier modifiers =>
      cases place with
      | zero => cases modifier <;> simp [runAlong]
      | succ place => cases modifier <;> simpa [runAlong] using induction modifiers place

/-- Running the modifiers leaves both lists as long as they were. The run goes along both at once
and stops with the shorter one, and what is left of the other stays. -/
theorem lengths_run_along (elapsed : Float32) (values : List Float32)
    (modifiers : List (Option Modifier)) :
    (runAlong elapsed values modifiers).1.length = values.length ∧
      (runAlong elapsed values modifiers).2.length = modifiers.length := by
  induction values generalizing modifiers with
  | nil => simp [runAlong]
  | cons value values induction =>
    cases modifiers with
    | nil => simp [runAlong]
    | cons modifier modifiers => cases modifier <;> simpa [runAlong] using induction modifiers

/-- Running the modifiers keeps the lists in step, since it changes neither length. -/
theorem IsPaired.advance {slot : Slot Location} (paired : slot.IsPaired) (elapsed : Float32) :
    (slot.advance elapsed).IsPaired :=
  paired.of_lengths (lengths_run_along ..).1 (lengths_run_along ..).2

/-! ### Counts and components -/

/-- A slot of zeros has the count asked for, if one component at least is asked for. -/
theorem count_fresh (Location : Type) (shape : Shape) {count : Nat} (counted : 0 < count) :
    (Slot.fresh shape count : Slot Location).count = count := by
  unfold Slot.count Slot.fresh
  rw [List.length_replicate]
  omega

/-- Every component of a slot of zeros is zero, and nothing moves it. -/
theorem component_fresh (Location : Type) (shape : Shape) {count place : Nat}
    (within : place < count) :
    (Slot.fresh shape count : Slot Location).component? place = some .zero :=
  component_iff.mpr ⟨List.getElem?_replicate_of_lt (by omega),
    List.getElem?_replicate_of_lt (by omega)⟩

/-- A resized slot has the count asked for, if that is one at least, and whatever it had before. -/
theorem count_resize (slot : Slot Location) {count : Nat} (counted : 0 < count) :
    (slot.resize count).count = count := by
  rw [Slot.count, resize, length_fitted]
  omega

/-- A resized slot holds what it held, and zeros beyond that. Each list is resized by itself, so the
two agree on where the zeros begin only if they were in step. -/
theorem component_resize {slot : Slot Location} (paired : slot.IsPaired) {count place : Nat}
    (within : place < count) :
    (slot.resize count).component? place = some ((slot.component? place).getD .zero) := by
  have room : place < max count 1 := by omega
  have values := entry_fitted (0 : Float32) slot.values room
  have modifiers := entry_fitted none slot.modifiers room
  refine (component_iff.mpr ⟨values, modifiers⟩).trans (congrArg some ?_)
  by_cases held : place < slot.count
  · obtain ⟨⟨value, modifier⟩, found⟩ := paired.component held
    obtain ⟨here, beside⟩ := component_iff.mp found
    rw [found, here, beside]
    rfl
  · have beyond : slot.count ≤ place := by omega
    have missing : slot.modifiers.length ≤ place := paired.paired ▸ beyond
    rw [component_beyond slot beyond, List.getElem?_eq_none beyond, List.getElem?_eq_none missing]
    rfl

/-- A change of a component keeps the count, and so what an index comes to when it is wrapped
around. -/
theorem count_edit (slot : Slot Location) (index : Nat) (change : Edit Modifier) :
    (slot.edit index change).count = slot.count :=
  (slot.lengths_edit index change).1

/-- A change reaches the value that its index names, and no other. -/
theorem value_edit (slot : Slot Location) (index : Nat) (edit : Edit Modifier) (place : Nat) :
    (slot.edit index edit).values[place]? =
      if place = index % slot.count then slot.values[place]?.map edit.valueAfter
      else slot.values[place]? := by
  by_cases here : index % slot.count = place
  · rw [if_pos here.symm]
    subst here
    cases edit with
    | set value => exact (List.getElem?_set').trans (if_pos rfl)
    | increment delta => exact List.getElem?_modify_eq ..
    | animate modifier | clear => exact Option.map_id'.symm
  · rw [if_neg fun same => here same.symm]
    cases edit with
    | set value => exact List.getElem?_set_ne here
    | increment delta => exact List.getElem?_modify_ne _ _ here
    | animate modifier | clear => rfl

/-- A change reaches what moves the component that its index names, and no other. -/
theorem modifier_edit (slot : Slot Location) (index : Nat) (edit : Edit Modifier) (place : Nat) :
    (slot.edit index edit).modifiers[place]? =
      if place = index % slot.count then slot.modifiers[place]?.map fun _ => edit.moverAfter
      else slot.modifiers[place]? := by
  have put : (slot.edit index edit).modifiers =
      slot.modifiers.set (index % slot.count) edit.moverAfter := by cases edit <;> rfl
  rw [put, List.getElem?_set']
  by_cases here : index % slot.count = place
  · rw [if_pos here, if_pos here.symm]
    rfl
  · rw [if_neg here, if_neg fun same => here same.symm]

/-- A change reaches the component that its index names once it is wrapped around, and no other.
This is all that later proofs need of changes. -/
theorem component_edit (slot : Slot Location) (index : Nat) (edit : Edit Modifier) (place : Nat) :
    (slot.edit index edit).component? place =
      if place = index % slot.count then (slot.component? place).map (·.edited edit)
      else slot.component? place := by
  unfold component?
  rw [value_edit, modifier_edit]
  by_cases here : place = index % slot.count
  · rw [if_pos here, if_pos here, if_pos here]
    cases slot.values[place]? <;> cases slot.modifiers[place]? <;> rfl
  · rw [if_neg here, if_neg here, if_neg here]

/-- A value set at an index that needs no wrapping is held there, and nothing else is changed. -/
theorem component_set {slot : Slot Location} (paired : slot.IsPaired) {place : Nat}
    (inside : place < slot.count) (value : Float32) (other : Nat) :
    (slot.edit place (.set value)).component? other =
      if place = other then some ⟨value, none⟩ else slot.component? other := by
  rw [component_edit, Nat.mod_eq_of_lt inside]
  by_cases here : place = other
  · subst here
    obtain ⟨component, found⟩ := paired.component inside
    rw [if_pos rfl, if_pos rfl, found]
    rfl
  · rw [if_neg here, if_neg fun same => here same.symm]

/-- Setting values from `start` on changes the components that they reach and no others. -/
theorem seed_from {slot : Slot Location} (paired : slot.IsPaired) (start : Nat)
    (values : List Float32) (room : start + values.length ≤ slot.count) (place : Nat) :
    (Registry.seed.go slot start values).component? place =
      if start ≤ place ∧ place < start + values.length then
        values[place - start]?.map fun value => ⟨value, none⟩
      else slot.component? place := by
  induction values generalizing slot start with
  | nil =>
    rw [if_neg (by simp only [List.length_nil]; omega)]
    rfl
  | cons value rest induction =>
    simp only [List.length_cons] at room ⊢
    have inside : start < slot.count := by omega
    have later := induction (paired.edit start (.set value)) (start + 1)
      (by rw [count_edit]; omega)
    refine later.trans ?_
    rw [component_set paired inside]
    by_cases here : start = place
    · subst here
      rw [if_neg (by omega), if_pos rfl, if_pos (by omega), Nat.sub_self]
      rfl
    · rw [if_neg here]
      by_cases reached : start + 1 ≤ place ∧ place < start + 1 + rest.length
      · have next : place - start = place - (start + 1) + 1 := by omega
        rw [if_pos reached, if_pos (by omega), next, List.getElem?_cons_succ]
      · rw [if_neg reached, if_neg (by omega)]

/-- What every change of a component keeps, seeding keeps, as it comes down to setting one value
after the other. -/
theorem seed_keeps {View : Type} (view : Slot Location → View)
    (kept : ∀ slot index change, view (slot.edit index change) = view slot)
    (slot : Slot Location) (values : List Float32) :
    view (Registry.seed slot values) = view slot := by
  suffices steps : ∀ (rest : List Float32) (slot : Slot Location) (start : Nat),
      view (Registry.seed.go slot start rest) = view slot from steps _ slot 0
  intro rest
  induction rest with
  | nil => intro slot start; rfl
  | cons value rest induction =>
    intro slot start
    exact (induction _ _).trans (kept slot start _)

/-- Seeding keeps the count: values beyond the last component are left out, and do not make the slot
longer. -/
theorem count_seed (slot : Slot Location) (values : List Float32) :
    (Registry.seed slot values).count = slot.count :=
  seed_keeps Slot.count count_edit slot values

/-- A seeded slot holds the values from the first on, and else what it held. -/
theorem component_seed {slot : Slot Location} (paired : slot.IsPaired) (values : List Float32)
    {place : Nat} (within : place < slot.count) :
    (Registry.seed slot values).component? place =
      (values[place]?.map fun value => ⟨value, none⟩).or (slot.component? place) := by
  have room : 0 + (values.take slot.count).length ≤ slot.count := by
    rw [List.length_take]
    omega
  refine (seed_from paired 0 (values.take slot.count) room place).trans ?_
  rw [List.length_take, Nat.sub_zero, List.getElem?_take_of_lt within]
  by_cases given : place < values.length
  · rw [if_pos (by omega), List.getElem?_eq_getElem given]
    rfl
  · have absent : values[place]? = none := List.getElem?_eq_none (by omega)
    rw [if_neg (by omega), absent]
    rfl

/-- What a frame makes of a slot whose modifiers run: a component that is moved has the value that
its modifier makes of the one before, and the modifier remembers this one call more; every other
component is as it was. -/
structure RunsOnce (elapsed : Float32) (before after : Slot Location) : Prop where
  counts : after.values.length = before.values.length ∧
    after.modifiers.length = before.modifiers.length
  still : ∀ place : Nat, before.modifiers[place]? = some none →
    after.values[place]? = before.values[place]? ∧ after.modifiers[place]? = some none
  moved : ∀ (place : Nat) value modifier, before.values[place]? = some value →
    before.modifiers[place]? = some (some modifier) →
      after.values[place]? = some (modifier.apply value elapsed) ∧
      after.modifiers[place]? = some (some (modifier.called value elapsed))

/-- Advancing a slot runs its modifiers once, each on the value it had before the frame. This is the
one place where the recursion along the two lists is opened. -/
theorem advance_runs_once (slot : Slot Location) (elapsed : Float32) :
    RunsOnce elapsed slot (slot.advance elapsed) where
  counts := lengths_run_along ..
  still place unmoved := by
    obtain ⟨values, modifiers⟩ := entries_run_along elapsed slot.values slot.modifiers place
    refine ⟨values.trans ?_, modifiers.trans ?_⟩
    · rw [unmoved]
      exact Option.map_id'
    · rw [unmoved]
      cases slot.values[place]? <;> rfl
  moved place value modifier held animated := by
    obtain ⟨values, modifiers⟩ := entries_run_along elapsed slot.values slot.modifiers place
    refine ⟨values.trans ?_, modifiers.trans ?_⟩
    · rw [held, animated]
      rfl
    · rw [held, animated]
      rfl

namespace RunsOnce

variable {elapsed : Float32} {before after : Slot Location} {place : Nat} {value : Float32}

/-- A component that nothing moves is as it was, and still nothing moves it. -/
theorem component_still (runs : RunsOnce elapsed before after)
    (held : before.component? place = some ⟨value, none⟩) :
    after.component? place = some ⟨value, none⟩ := by
  obtain ⟨here, beside⟩ := component_iff.mp held
  obtain ⟨same, unmoved⟩ := runs.still place beside
  exact component_iff.mpr ⟨same.trans here, unmoved⟩

/-- A component that is moved has been moved once: its value is what the modifier makes of the one
before, and the modifier is as it is after one call. -/
theorem component_moved (runs : RunsOnce elapsed before after) {modifier : Modifier}
    (held : before.component? place = some ⟨value, some modifier⟩) :
    after.component? place =
      some ⟨modifier.apply value elapsed, some (modifier.called value elapsed)⟩ := by
  obtain ⟨here, beside⟩ := component_iff.mp held
  exact component_iff.mpr (runs.moved place value modifier here beside)

/-- There is no component where there was none, so a frame does not make a slot longer. -/
theorem component_absent (runs : RunsOnce elapsed before after)
    (absent : before.component? place = none) : after.component? place = none := by
  cases held : after.component? place with
  | none => rfl
  | some component =>
    obtain ⟨here, beside⟩ := component_iff.mp held
    have value : place < before.values.length :=
      runs.counts.1 ▸ (List.getElem?_eq_some_iff.mp here).1
    have modifier : place < before.modifiers.length :=
      runs.counts.2 ▸ (List.getElem?_eq_some_iff.mp beside).1
    unfold component? at absent
    rw [List.getElem?_eq_getElem value, List.getElem?_eq_getElem modifier] at absent
    cases absent

/-- Every component has been through the frame, in the sense of what a frame makes of one component
by itself. -/
theorem component (runs : RunsOnce elapsed before after) (place : Nat) :
    after.component? place = (before.component? place).map (·.framed elapsed) := by
  cases held : before.component? place with
  | none => exact runs.component_absent held
  | some component =>
    obtain ⟨value, modifier | modifier⟩ := component
    · exact runs.component_still held
    · exact runs.component_moved held

end RunsOnce

/-- What a frame makes of a slot: its shape and its place stay, and the modifiers run once if hosts
see the uniform. -/
structure Framed (name : String) (elapsed : Float32) (before after : Slot Location) : Prop where
  shape : after.shape = before.shape
  location : after.location = before.location
  hidden : isReserved name = true →
    after.values = before.values ∧ after.modifiers = before.modifiers
  seen : isReserved name = false → RunsOnce elapsed before after

/-- A frame leaves both lists of a slot as long as they were, be the slot one whose modifiers run or
a reserved one. -/
theorem Framed.counts {name : String} {elapsed : Float32} {before after : Slot Location}
    (framed : Framed name elapsed before after) : after.values.length = before.values.length ∧
      after.modifiers.length = before.modifiers.length := by
  cases reserved : isReserved name with
  | true =>
    obtain ⟨values, modifiers⟩ := framed.hidden reserved
    rw [values, modifiers]
    exact ⟨rfl, rfl⟩
  | false => exact (framed.seen reserved).counts

end Slot

namespace Registry

variable {handles : Handles} {State Location : Type}

/-- Running the modifiers, name by name. The slots of reserved names are left alone, as their values
are made anew for every frame. -/
theorem get_advance (registry : Registry Location) (elapsed : Float32) (name : String) :
    (registry.advance elapsed).slots.get? name =
      (registry.slots.get? name).map fun slot =>
        if isReserved name then slot else slot.advance elapsed :=
  NameTable.get_map _ _ name

/-- Sending keeps everything of a slot but whether a failure was reported, which is put aside on
both sides. -/
theorem get_send (driver : Driver handles State) (registry : Registry handles.Location)
    (inputs : FrameInputs) (state : State) (name : String) :
    ((registry.send driver inputs state).1.slots.get? name).map Slot.unwarned =
      (registry.slots.get? name).map Slot.unwarned := by
  refine NameTable.get_step_through registry.slots _ (state, []) _ _ ?_ name
  intro name slot state
  unfold sendSlot
  split
  · rfl
  · split <;> rfl

/-- A frame keeps which names have slots, and frames each of them: the modifiers run, and then at
most the note is changed. -/
theorem frame_slot (driver : Driver handles State) (registry : Registry handles.Location)
    (elapsed : Float32) (inputs : FrameInputs) (state : State) (name : String) :
    Option.Rel (Slot.Framed name elapsed) (registry.slots.get? name)
      (((registry.advance elapsed).send driver inputs state).1.slots.get? name) := by
  have sent := get_send driver (registry.advance elapsed) inputs state name
  rw [get_advance] at sent
  cases held : registry.slots.get? name with
  | none =>
    rw [held, Option.map_none, Option.map_none, Option.map_eq_none_iff] at sent
    rw [sent]
    exact .none
  | some slot =>
  rw [held, Option.map_some, Option.map_some] at sent
  obtain ⟨framed, kept, same⟩ := Option.map_eq_some_iff.mp sent
  rw [kept]
  have shape := congrArg Slot.shape same
  have location := congrArg Slot.location same
  have values := congrArg Slot.values same
  have modifiers := congrArg Slot.modifiers same
  dsimp only [Slot.unwarned] at shape location values modifiers
  refine .some ⟨?_, ?_, fun reserved => ?_, fun visible => ?_⟩
  · rw [shape]
    split <;> rfl
  · rw [location]
    split <;> rfl
  · rw [if_pos reserved] at values modifiers
    exact ⟨values, modifiers⟩
  · rw [visible] at values modifiers
    obtain ⟨counts, still, moved⟩ := slot.advance_runs_once elapsed
    refine ⟨?_, ?_, ?_⟩ <;> rw [values, modifiers]
    · exact counts
    · exact still
    · exact moved

/-- A slot that there was before a frame is there after it, and has been through the frame. -/
theorem frame_of_slot (driver : Driver handles State) (registry : Registry handles.Location)
    (elapsed : Float32) (inputs : FrameInputs) (state : State) {name : String}
    {slot : Slot handles.Location} (held : registry.slots.get? name = some slot) :
    ∃ framed,
      ((registry.advance elapsed).send driver inputs state).1.slots.get? name = some framed ∧
      Slot.Framed name elapsed slot framed := by
  have frame := frame_slot driver registry elapsed inputs state name
  rw [held] at frame
  generalize ((registry.advance elapsed).send driver inputs state).1.slots.get? name = after
    at frame
  cases frame with
  | some framed => exact ⟨_, rfl, framed⟩

/-- A view of the slots that neither the notes of failures nor the modifiers change is kept by a
frame. -/
theorem frame_keeps {View : Type} (view : Slot handles.Location → View)
    (noted : ∀ slot, view slot.unwarned = view slot) (driver : Driver handles State)
    (registry : Registry handles.Location) (elapsed : Float32) (inputs : FrameInputs)
    (state : State) (name : String)
    (moved : ∀ slot, view (if isReserved name then slot else slot.advance elapsed) = view slot) :
    (((registry.advance elapsed).send driver inputs state).1.slots.get? name).map view =
      (registry.slots.get? name).map view := by
  have sent := congrArg (Option.map view)
    (get_send driver (registry.advance elapsed) inputs state name)
  have same : view ∘ Slot.unwarned = view := funext noted
  rw [Option.map_map, Option.map_map, same, get_advance, Option.map_map] at sent
  exact sent.trans (congrArg (Option.map · _) (funext moved))

/-- A view of the slots that a change does not touch is kept by it. -/
theorem edit_keeps {View : Type} (view : Slot Location → View) (registry : Registry Location)
    (changed : String) (index : Nat) (edit : Edit Modifier)
    (kept : ∀ slot, view (slot.edit index edit) = view slot) (name : String) :
    ((registry.edit changed index edit).slots.get? name).map view =
      (registry.slots.get? name).map view := by
  refine (congrArg (Option.map view) (NameTable.get_adjust _ _ _ _)).trans ?_
  split
  · rw [Option.map_map]
    exact congrArg (Option.map · _) (funext kept)
  · rfl

/-- A frame keeps which names have slots, so handles stay good from frame to frame. -/
theorem frame_names (driver : Driver handles State) (registry : Registry handles.Location)
    (elapsed : Float32) (inputs : FrameInputs) (state : State) (name : String) :
    (((registry.advance elapsed).send driver inputs state).1.slots.get? name).isSome =
      (registry.slots.get? name).isSome := by
  have kept := congrArg Option.isSome (frame_keeps (fun _ => ()) (fun _ => rfl) driver registry
    elapsed inputs state name fun _ => rfl)
  simpa only [Option.isSome_map] using kept

/-- A frame keeps whether the time is read, which is a matter of the names. The loop asks for it
after the frame, and gets the answer it would have got before. -/
theorem frame_reads_time (driver : Driver handles State) (registry : Registry handles.Location)
    (elapsed : Float32) (inputs : FrameInputs) (state : State) :
    ((registry.advance elapsed).send driver inputs state).1.readsTime = registry.readsTime :=
  frame_names driver registry elapsed inputs state timeUniform

end Registry

end LiveShader

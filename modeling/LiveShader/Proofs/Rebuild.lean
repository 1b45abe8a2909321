import LiveShader.Proofs.Slots

/-!
# Taking in the uniforms of a program

What a registry holds after a rebuild, name by name, when no name is declared twice. A declared
name that had a slot keeps the components that there is room for; one that had none gets zeros;
and no other name stays. The report lists just the names that had no slot.

Initial values go to the added names only. They fill the components from the first on, and neither
the values nor the components that are left over matter.
-/
namespace LiveShader

variable {Location : Type}

/-- The slot of a declared uniform, by the slot that its name had. -/
def Declared.taken (declared : Declared Location) : Option (Slot Location) → Slot Location
  | some slot =>
    (if slot.count = declared.count then slot else slot.resize declared.count).bind
      declared.location declared.shape
  | none =>
    (Slot.fresh declared.shape declared.count).bind declared.location declared.shape

/-- Where declarations are known by their names, shapes and counts, there is one for each of these:
what it says of its place is left open. -/
theorem declared_of_mem {declared : List (Declared Location)} {name : String} {shape : Shape}
    {count : Nat}
    (declares : (name, shape, count) ∈
      declared.map fun uniform => (uniform.name, uniform.shape, uniform.count)) :
    ∃ uniform ∈ declared, uniform.name = name ∧ uniform.shape = shape ∧ uniform.count = count := by
  obtain ⟨uniform, member, same⟩ := List.mem_map.mp declares
  simp only [Prod.mk.injEq] at same
  exact ⟨uniform, member, same⟩

/-- The slot of a declared uniform has its shape. -/
theorem taken_shape (declared : Declared Location) (old : Option (Slot Location)) :
    (declared.taken old).shape = declared.shape := by
  cases old <;> rfl

/-- The slot of a declared uniform has its place. -/
theorem taken_location (declared : Declared Location) (old : Option (Slot Location)) :
    (declared.taken old).location = declared.location := by
  cases old <;> rfl

/-- The slot of a declared uniform notes no failed upload. -/
theorem taken_warned (declared : Declared Location) (old : Option (Slot Location)) :
    (declared.taken old).warned = false := by
  cases old <;> rfl

/-- There are as many components as were declared. -/
theorem taken_count (declared : Declared Location) (old : Option (Slot Location))
    (counted : 0 < declared.count) : (declared.taken old).count = declared.count := by
  cases old with
  | none => exact Slot.count_fresh Location declared.shape counted
  | some slot =>
    by_cases same : slot.count = declared.count
    · simp only [Declared.taken, if_pos same]
      exact same
    · simp only [Declared.taken, if_neg same]
      exact slot.count_resize counted

/-- The lists of a declared uniform's slot are in step, if those were of the slot that its name
had. -/
theorem taken_paired (declared : Declared Location) {old : Option (Slot Location)}
    (paired : ∀ slot ∈ old, slot.IsPaired) : (declared.taken old).IsPaired := by
  cases old with
  | none => exact (Slot.fresh_paired Location declared.shape declared.count).of_lengths rfl rfl
  | some slot =>
    have held := paired slot rfl
    by_cases same : slot.count = declared.count
    · simp only [Declared.taken, if_pos same]
      exact held.of_lengths rfl rfl
    · simp only [Declared.taken, if_neg same]
      exact (slot.resize_paired declared.count).of_lengths rfl rfl

/-- The components of a declared uniform: those that its name had, and zeros beyond them. -/
theorem taken_component (declared : Declared Location) {old : Option (Slot Location)}
    (paired : ∀ slot ∈ old, slot.IsPaired) {place : Nat} (within : place < declared.count) :
    (declared.taken old).component? place =
      some ((old.bind fun slot => slot.component? place).getD .zero) := by
  cases old with
  | none => exact Slot.component_fresh Location declared.shape within
  | some slot =>
    have held := paired slot rfl
    by_cases same : slot.count = declared.count
    · obtain ⟨component, found⟩ := held.component (same ▸ within)
      simp only [Declared.taken, if_pos same, Option.bind_some, found, Option.getD_some]
      exact found
    · simp only [Declared.taken, if_neg same]
      exact Slot.component_resize held within

namespace Registry

/-- Taking in one uniform puts its slot in the place of the one that its name had. -/
theorem get_declare (declared : Declared Location) (registry : Registry Location)
    (report : RebuildReport) (name : String) :
    (registry.declare declared report).1.slots.get? name =
      if declared.name = name then some (declared.taken (registry.slots.get? declared.name))
      else registry.slots.get? name := by
  unfold declare
  cases old : registry.slots.get? declared.name with
  | none => exact NameTable.get_insert _ _ name _
  | some slot =>
    by_cases same : slot.count = declared.count
    · simp only [Declared.taken, if_pos same]
      exact NameTable.get_insert _ _ name _
    · simp only [Declared.taken, if_neg same]
      exact NameTable.get_insert _ _ name _

/-- A uniform whose name had no slot is reported as added. -/
theorem added_declare (declared : Declared Location) (registry : Registry Location)
    (report : RebuildReport) :
    (registry.declare declared report).2.added =
      report.added ++
        if (registry.slots.get? declared.name).isNone then [declared.name] else [] := by
  unfold declare
  cases old : registry.slots.get? declared.name with
  | none => rfl
  | some slot =>
    by_cases same : slot.count = declared.count
    · simp [same]
    · simp [same]

/-- Taking in uniforms leaves names alone that are not among them. -/
theorem get_declare_other (declared : List (Declared Location)) (registry : Registry Location)
    (report : RebuildReport) {name : String} (absent : name ∉ declared.map (·.name)) :
    (declareAll declared registry report).1.slots.get? name = registry.slots.get? name := by
  induction declared generalizing registry report with
  | nil => rfl
  | cons first rest induction =>
    simp only [List.map_cons, List.mem_cons, not_or] at absent
    refine (induction (registry.declare first report).1 _ absent.2).trans ?_
    rw [get_declare, if_neg fun same => absent.1 same.symm]

/-- The slot of a declared name is the one that the last uniform of the name takes. -/
theorem declare_all_takes (declared : List (Declared Location)) (registry : Registry Location)
    (report : RebuildReport) {name : String} {slot : Slot Location}
    (member : name ∈ declared.map (·.name))
    (held : (declareAll declared registry report).1.slots.get? name = some slot) :
    ∃ front uniform back old, declared = front ++ uniform :: back ∧ uniform.name = name ∧
      name ∉ back.map (·.name) ∧ slot = uniform.taken old := by
  induction declared generalizing registry report with
  | nil => cases member
  | cons first rest induction =>
    by_cases later : name ∈ rest.map (·.name)
    · obtain ⟨front, uniform, back, old, listed, named, last, taken⟩ := induction
        (registry.declare first report).1 (registry.declare first report).2 later held
      exact ⟨first :: front, uniform, back, old, by rw [listed, List.cons_append], named, last,
        taken⟩
    · have here : first.name = name := by
        rw [List.map_cons, List.mem_cons] at member
        exact (member.resolve_right later).symm
      have taken := (get_declare_other rest (registry.declare first report).1
        (registry.declare first report).2 later).symm.trans held
      rw [get_declare, if_pos here, Option.some.injEq] at taken
      exact ⟨[], first, rest, _, rfl, here, later, taken.symm⟩

/-- Where no name is declared twice, each uniform meets the slot that its name had at first. -/
theorem get_declare_all (declared : List (Declared Location)) (registry : Registry Location)
    (report : RebuildReport) (distinct : (declared.map (·.name)).Nodup)
    {uniform : Declared Location} (member : uniform ∈ declared) :
    (declareAll declared registry report).1.slots.get? uniform.name =
      some (uniform.taken (registry.slots.get? uniform.name)) := by
  induction declared generalizing registry report with
  | nil => cases member
  | cons first rest induction =>
    rw [List.map_cons, List.nodup_cons] at distinct
    obtain ⟨fresh, distinctRest⟩ := distinct
    rcases List.mem_cons.mp member with rfl | later
    · refine (get_declare_other rest (registry.declare uniform report).1 _ fresh).trans ?_
      rw [get_declare, if_pos rfl]
    · have other : first.name ≠ uniform.name := fun same =>
        fresh (List.mem_map.mpr ⟨uniform, later, same.symm⟩)
      refine (induction (registry.declare first report).1 _ distinctRest later).trans ?_
      rw [get_declare, if_neg other]

/-- Where no name is declared twice, a list of the report names the uniforms that it concerns in
their order, if taking in one uniform adds its name whenever it concerns that uniform. -/
theorem reported_declare_all (list : RebuildReport → List String)
    (concerns : Declared Location → Option (Slot Location) → Bool)
    (one : ∀ (declared : Declared Location) (registry : Registry Location) (report : RebuildReport),
      list (registry.declare declared report).2 = list report ++
        if concerns declared (registry.slots.get? declared.name) then [declared.name] else [])
    (declared : List (Declared Location)) (registry : Registry Location) (report : RebuildReport)
    (distinct : (declared.map (·.name)).Nodup) :
    list (declareAll declared registry report).2 =
      list report ++
        (declared.filter fun uniform =>
          concerns uniform (registry.slots.get? uniform.name)).map (·.name) := by
  induction declared generalizing registry report with
  | nil => simp [declareAll]
  | cons first rest induction =>
    rw [List.map_cons, List.nodup_cons] at distinct
    obtain ⟨fresh, distinctRest⟩ := distinct
    refine (induction (registry.declare first report).1 (registry.declare first report).2
      distinctRest).trans ?_
    have same : rest.filter (fun uniform => concerns uniform
          ((registry.declare first report).1.slots.get? uniform.name)) =
        rest.filter fun uniform => concerns uniform (registry.slots.get? uniform.name) := by
      refine List.filter_congr fun uniform member => ?_
      have other : first.name ≠ uniform.name := fun same =>
        fresh (List.mem_map.mpr ⟨uniform, member, same.symm⟩)
      rw [get_declare, if_neg other]
    rw [same, one, List.append_assoc, List.filter_cons]
    split <;> rfl

/-- The names added are those declared that had no slot. -/
theorem added_declare_all (declared : List (Declared Location)) (registry : Registry Location)
    (report : RebuildReport) (distinct : (declared.map (·.name)).Nodup) :
    (declareAll declared registry report).2.added =
      report.added ++
        (declared.map (·.name)).filter fun name => (registry.slots.get? name).isNone := by
  rw [List.filter_map]
  exact reported_declare_all RebuildReport.added (fun _ old => old.isNone) added_declare declared
    registry report distinct

/-- After a rebuild every declared uniform has its slot. -/
theorem get_rebuild (registry : Registry Location) (declared : List (Declared Location))
    (distinct : (declared.map (·.name)).Nodup) {uniform : Declared Location}
    (member : uniform ∈ declared) :
    (registry.rebuild declared).1.slots.get? uniform.name =
      some (uniform.taken (registry.slots.get? uniform.name)) := by
  have stays : declared.any (fun other => other.name == uniform.name) = true :=
    List.any_eq_true.mpr ⟨uniform, member, by simp⟩
  refine (NameTable.get_filter _ (fun name => declared.any fun other => other.name == name)
    uniform.name).trans ?_
  rw [if_pos stays]
  exact get_declare_all declared registry .unchanged distinct member

/-- After a rebuild no other name has a slot. -/
theorem get_rebuild_other (registry : Registry Location) (declared : List (Declared Location))
    {name : String} (absent : name ∉ declared.map (·.name)) :
    (registry.rebuild declared).1.slots.get? name = none := by
  have gone : declared.any (fun other => other.name == name) = false := by
    rw [List.any_eq_false]
    intro uniform member same
    exact absent (List.mem_map.mpr ⟨uniform, member, by simpa using same⟩)
  refine (NameTable.get_filter _ (fun name => declared.any fun other => other.name == name)
    name).trans ?_
  rw [if_neg (by simp [gone])]

/-- After a rebuild every slot is the one that the last uniform of its name takes. -/
theorem rebuild_takes (registry : Registry Location) (declared : List (Declared Location))
    {name : String} {slot : Slot Location}
    (held : (registry.rebuild declared).1.slots.get? name = some slot) :
    ∃ front uniform back old, declared = front ++ uniform :: back ∧ uniform.name = name ∧
      name ∉ back.map (·.name) ∧ slot = uniform.taken old := by
  by_cases member : name ∈ declared.map (·.name)
  case neg =>
    rw [get_rebuild_other registry _ member] at held
    cases held
  have filtered := (NameTable.get_filter _ (fun name =>
    declared.any fun uniform => uniform.name == name) name).symm.trans held
  rw [Option.ite_none_right_eq_some] at filtered
  exact declare_all_takes declared registry .unchanged member filtered.2

/-- The names that a rebuild reports as added. -/
theorem added_rebuild (registry : Registry Location) (declared : List (Declared Location))
    (distinct : (declared.map (·.name)).Nodup) :
    (registry.rebuild declared).2.added =
      (declared.map (·.name)).filter fun name => (registry.slots.get? name).isNone :=
  added_declare_all declared registry .unchanged distinct

/-- What initial values make of the slot of an added name. -/
def seeded (defaults : NameTable (List Float32)) (name : String) (slot : Slot Location) :
    Slot Location :=
  match isReserved name, defaults.get? name with
  | false, some values => seed slot values
  | _, _ => slot

/-- What every change of a component keeps, initial values keep. -/
theorem seeded_view {View : Type} (view : Slot Location → View)
    (kept : ∀ slot index change, view (slot.edit index change) = view slot)
    (defaults : NameTable (List Float32)) (name : String) (slot : Slot Location) :
    view (seeded defaults name slot) = view slot := by
  unfold seeded
  split
  · exact Slot.seed_keeps view kept slot _
  · rfl

/-- Initial values change neither the shape nor the count of a slot. -/
theorem seeded_keeps (defaults : NameTable (List Float32)) (name : String) (slot : Slot Location) :
    (seeded defaults name slot).shape = slot.shape ∧
      (seeded defaults name slot).count = slot.count :=
  ⟨seeded_view Slot.shape (fun _ _ _ => rfl) defaults name slot,
    seeded_view Slot.count Slot.count_edit defaults name slot⟩

/-- Initial values keep the lists of a slot in step. -/
theorem seeded_paired (defaults : NameTable (List Float32)) (name : String)
    {slot : Slot Location} (paired : slot.IsPaired) : (seeded defaults name slot).IsPaired :=
  paired.of_lengths
    (seeded_view (fun slot => slot.values.length)
      (fun slot index change => (slot.lengths_edit index change).1) defaults name slot)
    (seeded_view (fun slot => slot.modifiers.length)
      (fun slot index change => (slot.lengths_edit index change).2) defaults name slot)

/-- A component of a seeded slot of zeros: the initial value at its index, if hosts see the name
and there is one. -/
theorem seeded_component (defaults : NameTable (List Float32)) (name : String)
    {slot : Slot Location} (paired : slot.IsPaired) {place : Nat} (within : place < slot.count)
    (zero : slot.component? place = some .zero) :
    (seeded defaults name slot).component? place =
      some ⟨if isReserved name then 0
        else ((defaults.get? name).bind fun values => values[place]?).getD 0, none⟩ := by
  unfold seeded
  cases reserved : isReserved name with
  | true => simpa [Component.zero] using zero
  | false =>
    cases given : defaults.get? name with
    | none => simpa [Component.zero] using zero
    | some values =>
      refine (Slot.component_seed paired values within).trans ?_
      rw [zero]
      cases value : values[place]? <;> simp [value, Component.zero]

/-- The initial values of one name reach the slot of that name only. -/
theorem get_default (defaults : NameTable (List Float32)) (registry : Registry Location)
    (first name : String) :
    (registry.applyDefaults defaults [first]).slots.get? name =
      if name = first then (registry.slots.get? name).map (seeded defaults name)
      else registry.slots.get? name := by
  have kept (same : seeded defaults first = (id : Slot Location → Slot Location)) :
      registry.slots.get? name =
        if name = first then (registry.slots.get? name).map (seeded defaults name)
        else registry.slots.get? name := by
    split
    · rename_i here
      rw [here, same, Option.map_id, id]
    · rfl
  unfold applyDefaults
  simp only [List.foldl_cons, List.foldl_nil]
  cases reserved : isReserved first with
  | true => exact kept (by funext slot; simp [seeded, reserved])
  | false =>
    cases given : defaults.get? first with
    | none => exact kept (by funext slot; simp [seeded, given])
    | some values =>
      refine (NameTable.get_adjust _ _ _ _).trans ?_
      split
      · rename_i here
        have same : seeded defaults first = fun slot : Slot Location => seed slot values := by
          funext slot
          simp [seeded, reserved, given]
        rw [here, same]
      · rfl

/-- What the initial values of a name keep of its slot, all initial values keep. -/
theorem apply_defaults_keeps {View : Type} (view : Slot Location → View)
    (defaults : NameTable (List Float32)) {name : String}
    (kept : ∀ slot, view (seeded defaults name slot) = view slot) (added : List String)
    (registry : Registry Location) :
    ((registry.applyDefaults defaults added).slots.get? name).map view =
      (registry.slots.get? name).map view := by
  induction added generalizing registry with
  | nil => rfl
  | cons first rest induction =>
    refine (induction (registry.applyDefaults defaults [first])).trans ?_
    rw [get_default]
    split
    · rw [Option.map_map]
      exact congrArg (Option.map · _) (funext kept)
    · rfl

/-- Initial values reach the slots of the added names, each once. -/
theorem get_apply_defaults (defaults : NameTable (List Float32)) (added : List String)
    (registry : Registry Location) (distinct : added.Nodup) (name : String) :
    (registry.applyDefaults defaults added).slots.get? name =
      if name ∈ added then (registry.slots.get? name).map (seeded defaults name)
      else registry.slots.get? name := by
  induction added generalizing registry with
  | nil => rw [if_neg (List.not_mem_nil)]; rfl
  | cons first rest induction =>
    obtain ⟨fresh, distinctRest⟩ := List.nodup_cons.mp distinct
    refine (induction (registry.applyDefaults defaults [first]) distinctRest).trans ?_
    rw [get_default]
    by_cases same : name = first
    · subst same
      rw [if_neg fresh, if_pos rfl, if_pos List.mem_cons_self]
    · rw [if_neg same]
      simp only [List.mem_cons, same, false_or]

end Registry

end LiveShader

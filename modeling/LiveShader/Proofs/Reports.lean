import LiveShader.Proofs.Reload

/-!
# What a rebuild reports

A rebuild reports which names it added, which slots it gave another count, and which names it
dropped. Where the driver lists no name twice, the three lists tell exactly how the registry of a
program differs from the one before it: added and resized names stand in the driver's order, dropped
names in their own, and no name stands twice. Taking the same list in again reports nothing and
leaves every component as it is, wherever the driver places the uniforms then.

A report that names nothing says that names and counts are as they were, and with them all
components. It does not speak of shapes. A uniform whose type is exchanged for another with as many
components, such as a vector of two for an array of two, is kept with its components under the new
shape, and is not reported.
-/
namespace LiveShader

variable {Location : Type}

/-- Whether a slot has another count than is declared. A missing slot has none. -/
def Declared.resizes (declared : Declared Location) (old : Option (Slot Location)) : Bool :=
  old.any fun slot => slot.count != declared.count

/-- A report that tells exactly how one registry differs from the one before it, for names in the
order of a list. -/
structure RebuildReport.Tells (report : RebuildReport) (listed : List String)
    (before now : Registry Location) : Prop where
  added : ∀ name, name ∈ report.added ↔ now.contains name = true ∧ before.contains name = false
  resized : ∀ name, name ∈ report.resized ↔ ∃ old new, before.slots.get? name = some old ∧
    now.slots.get? name = some new ∧ old.count ≠ new.count
  removed : ∀ name, name ∈ report.removed ↔ before.contains name = true ∧ now.contains name = false
  addedInOrder : report.added.Sublist listed
  resizedInOrder : report.resized.Sublist listed
  removedInOrder : report.removed.Pairwise (· < ·)
  once : (report.added ++ report.resized ++ report.removed).Nodup

/-- What a slot holds, wherever the driver has it and whether or not it was warned of: the shape,
the values, and what moves them. -/
def Slot.contents (slot : Slot Location) : Shape × List Float32 × List (Option Modifier) :=
  (slot.shape, slot.values, slot.modifiers)

/-- A slot that is declared as it is keeps what it holds. -/
theorem taken_contents (declared : Declared Location) {slot : Slot Location}
    (shape : slot.shape = declared.shape) (count : slot.count = declared.count) :
    (declared.taken (some slot)).contents = slot.contents := by
  simp [Declared.taken, count, Slot.contents, Slot.bind, shape]

namespace Registry

/-- A uniform whose slot had another count is reported as resized. -/
theorem resized_declare (declared : Declared Location) (registry : Registry Location)
    (report : RebuildReport) :
    (registry.declare declared report).2.resized =
      report.resized ++
        if declared.resizes (registry.slots.get? declared.name) then [declared.name] else [] := by
  unfold declare
  cases old : registry.slots.get? declared.name with
  | none => simp [Declared.resizes]
  | some slot => by_cases same : slot.count = declared.count <;> simp [Declared.resizes, same]

/-- The names that a rebuild reports as resized. -/
theorem resized_rebuild (registry : Registry Location) (declared : List (Declared Location))
    (distinct : (declared.map (·.name)).Nodup) :
    (registry.rebuild declared).2.resized =
      (declared.filter fun uniform =>
        uniform.resizes (registry.slots.get? uniform.name)).map (·.name) :=
  reported_declare_all RebuildReport.resized Declared.resizes resized_declare declared registry
    .unchanged distinct

/-- A rebuild reports as removed the names that had a slot and are not declared. -/
theorem mem_removed_rebuild (registry : Registry Location) (declared : List (Declared Location))
    (name : String) :
    name ∈ (registry.rebuild declared).2.removed ↔
      registry.contains name = true ∧ name ∉ declared.map (·.name) := by
  have stays : declared.any (fun uniform => uniform.name == name) = true ↔
      name ∈ declared.map (·.name) := by simp
  have removed : name ∈ (registry.rebuild declared).2.removed ↔
      name ∈ (declareAll declared registry .unchanged).1.slots.names ∧
        name ∉ declared.map (·.name) := by
    rw [← stays]
    simp [rebuild, prune]
  rw [removed, NameTable.mem_names]
  refine and_congr_left fun absent => ?_
  rw [get_declare_other declared registry .unchanged absent]
  rfl

/-- After a rebuild the declared names have slots, and no others. -/
theorem contains_rebuild (registry : Registry Location) (declared : List (Declared Location))
    (distinct : (declared.map (·.name)).Nodup) (name : String) :
    (registry.rebuild declared).1.contains name = true ↔ name ∈ declared.map (·.name) := by
  unfold contains NameTable.contains
  by_cases member : name ∈ declared.map (·.name)
  · obtain ⟨uniform, listed, rfl⟩ := List.mem_map.mp member
    simp [get_rebuild registry declared distinct listed, member]
  · simp [get_rebuild_other registry declared member, member]

/-- A rebuild reports as added the names that have a slot after it and had none before. -/
theorem mem_added_rebuild (registry : Registry Location) {declared : List (Declared Location)}
    (distinct : (declared.map (·.name)).Nodup) (name : String) :
    name ∈ (registry.rebuild declared).2.added ↔
      (registry.rebuild declared).1.contains name = true ∧ registry.contains name = false := by
  rw [added_rebuild registry declared distinct, List.mem_filter,
    contains_rebuild registry declared distinct]
  simp [contains, NameTable.contains]

/-- A rebuild reports as resized the names whose slot has another count after it than before. -/
theorem mem_resized_rebuild (registry : Registry Location) {declared : List (Declared Location)}
    (distinct : (declared.map (·.name)).Nodup) (counted : ∀ uniform ∈ declared, 0 < uniform.count)
    (name : String) :
    name ∈ (registry.rebuild declared).2.resized ↔
      ∃ old new, registry.slots.get? name = some old ∧
        (registry.rebuild declared).1.slots.get? name = some new ∧ old.count ≠ new.count := by
  rw [resized_rebuild registry declared distinct, List.mem_map]
  constructor
  · rintro ⟨uniform, member, rfl⟩
    obtain ⟨listed, resizes⟩ := List.mem_filter.mp member
    obtain ⟨old, held, other⟩ := (Option.any_eq_true _ _).mp resizes
    refine ⟨old, _, held, get_rebuild registry declared distinct listed, ?_⟩
    rw [taken_count uniform _ (counted uniform listed)]
    simpa using other
  · rintro ⟨old, new, held, kept, other⟩
    have member : name ∈ declared.map (·.name) := by
      rw [← contains_rebuild registry declared distinct, contains, NameTable.contains, kept]
      rfl
    obtain ⟨uniform, listed, rfl⟩ := List.mem_map.mp member
    have same := (get_rebuild registry declared distinct listed).symm.trans kept
    rw [Option.some.injEq] at same
    rw [← same, taken_count uniform _ (counted uniform listed)] at other
    refine ⟨uniform, List.mem_filter.mpr ⟨listed, ?_⟩, rfl⟩
    simp [Declared.resizes, held, other]

/-- The report of a rebuild tells exactly what it changed. The names it adds and resizes stand in
the order of the declarations, those it removes in their own, and no name stands twice: an added one
had no slot to be resized, and a removed one has none any more. -/
theorem rebuild_tells (registry : Registry Location) {declared : List (Declared Location)}
    (distinct : (declared.map (·.name)).Nodup) (counted : ∀ uniform ∈ declared, 0 < uniform.count) :
    (registry.rebuild declared).2.Tells (declared.map (·.name)) registry
      (registry.rebuild declared).1 := by
  have now := contains_rebuild registry declared distinct
  have added := mem_added_rebuild registry distinct
  have resized := mem_resized_rebuild registry distinct counted
  have removed : ∀ name, name ∈ (registry.rebuild declared).2.removed ↔
      registry.contains name = true ∧ (registry.rebuild declared).1.contains name = false := by
    intro name
    rw [mem_removed_rebuild, ← now, Bool.not_eq_true]
  have addedInOrder : (registry.rebuild declared).2.added.Sublist (declared.map (·.name)) := by
    rw [added_rebuild registry declared distinct]
    exact List.filter_sublist
  have resizedInOrder : (registry.rebuild declared).2.resized.Sublist (declared.map (·.name)) := by
    rw [resized_rebuild registry declared distinct]
    exact List.filter_sublist.map _
  have removedInOrder : (registry.rebuild declared).2.removed.Pairwise (· < ·) :=
    (List.pairwise_map.mpr (declareAll declared registry .unchanged).1.slots.sorted).filter _
  have removedOnce : (registry.rebuild declared).2.removed.Nodup :=
    removedInOrder.imp String.ne_of_lt
  refine ⟨added, resized, removed, addedInOrder, resizedInOrder, removedInOrder, ?_⟩
  refine List.nodup_append.mpr ⟨List.nodup_append.mpr
    ⟨distinct.sublist addedInOrder, distinct.sublist resizedInOrder, ?_⟩, removedOnce, ?_⟩
  · rintro name isAdded _ isResized rfl
    obtain ⟨old, -, held, -⟩ := (resized name).mp isResized
    have absent := ((added name).mp isAdded).2
    simp [contains, NameTable.contains, held] at absent
  · rintro name isListed _ isRemoved rfl
    have gone := ((removed name).mp isRemoved).2
    have kept : (registry.rebuild declared).1.contains name = true := by
      refine (now name).mpr ?_
      rcases List.mem_append.mp isListed with isAdded | isResized
      · exact addedInOrder.subset isAdded
      · exact resizedInOrder.subset isResized
    rw [kept] at gone
    cases gone

/-- The lists of a report that names nothing are empty. -/
theorem lists_of_unchanged {report : RebuildReport} (unchanged : report.isUnchanged = true) :
    report.added = [] ∧ report.resized = [] ∧ report.removed = [] := by
  simpa [RebuildReport.isUnchanged, and_assoc] using unchanged

/-- Where a report names nothing, the same names have slots before and after, with the same values
and the same modifiers. -/
theorem components_of_unchanged (registry : Registry Location)
    {declared : List (Declared Location)} (distinct : (declared.map (·.name)).Nodup)
    (counted : ∀ uniform ∈ declared, 0 < uniform.count)
    (unchanged : (registry.rebuild declared).2.isUnchanged = true) (name : String) :
    ((registry.rebuild declared).1.slots.get? name).map (·.contents.2) =
      (registry.slots.get? name).map (·.contents.2) := by
  have tells := rebuild_tells registry distinct counted
  obtain ⟨noneAdded, noneResized, noneRemoved⟩ := lists_of_unchanged unchanged
  by_cases member : name ∈ declared.map (·.name)
  · obtain ⟨uniform, listed, rfl⟩ := List.mem_map.mp member
    have now := get_rebuild registry declared distinct listed
    have present : registry.contains uniform.name = true := by
      refine eq_true_of_ne_false fun missing => ?_
      have isAdded := (tells.added uniform.name).mpr
        ⟨(contains_rebuild registry declared distinct _).mpr member, missing⟩
      rw [noneAdded] at isAdded
      cases isAdded
    obtain ⟨slot, held⟩ := Option.isSome_iff_exists.mp present
    have same : slot.count = uniform.count := by
      refine Decidable.byContradiction fun other => ?_
      rw [← taken_count uniform (some slot) (counted uniform listed), ← held] at other
      have isResized := (tells.resized uniform.name).mpr ⟨slot, _, held, now, other⟩
      rw [noneResized] at isResized
      cases isResized
    rw [now, held]
    simp [Declared.taken, same, Slot.bind, Slot.contents]
  · have gone := get_rebuild_other registry declared member
    have absent : registry.slots.get? name = none := by
      refine Option.eq_none_iff_forall_ne_some.mpr fun slot held => ?_
      have isRemoved := (mem_removed_rebuild registry declared name).mpr
        ⟨Option.isSome_iff_exists.mpr ⟨slot, held⟩, member⟩
      rw [noneRemoved] at isRemoved
      cases isRemoved
    rw [gone, absent]

/-- Taking in uniforms again that are declared alike, but for their places, reports nothing and
keeps what the slots hold. -/
theorem rebuild_again (registry : Registry Location) {declared again : List (Declared Location)}
    (distinct : (declared.map (·.name)).Nodup) (counted : ∀ uniform ∈ declared, 0 < uniform.count)
    (alike : again.map (fun uniform => (uniform.name, uniform.shape, uniform.count)) =
      declared.map fun uniform => (uniform.name, uniform.shape, uniform.count)) :
    let now := (registry.rebuild declared).1
    (now.rebuild again).2 = .unchanged ∧
    ∀ name, ((now.rebuild again).1.slots.get? name).map Slot.contents =
      (now.slots.get? name).map Slot.contents := by
  intro now
  have names : again.map (·.name) = declared.map (·.name) := by
    have firsts := congrArg (List.map Prod.fst) alike
    rwa [List.map_map, List.map_map] at firsts
  have distinctAgain : (again.map (·.name)).Nodup := names ▸ distinct
  -- A uniform that is declared again finds its slot with the shape and the count that it asks for.
  have found : ∀ uniform ∈ again, ∃ slot, now.slots.get? uniform.name = some slot ∧
      slot.shape = uniform.shape ∧ slot.count = uniform.count := by
    intro uniform member
    have declares : (uniform.name, uniform.shape, uniform.count) ∈
        declared.map fun uniform => (uniform.name, uniform.shape, uniform.count) := by
      rw [← alike]
      exact List.mem_map.mpr ⟨uniform, member, rfl⟩
    obtain ⟨first, listed, name, shape, count⟩ := declared_of_mem declares
    have held := get_rebuild registry declared distinct listed
    rw [name] at held
    exact ⟨_, held, (taken_shape first _).trans shape,
      (taken_count first _ (counted first listed)).trans count⟩
  have noneAdded : (now.rebuild again).2.added = [] := by
    rw [added_rebuild now again distinctAgain, List.filter_eq_nil_iff]
    intro name member
    obtain ⟨uniform, listed, rfl⟩ := List.mem_map.mp member
    obtain ⟨slot, held, -⟩ := found uniform listed
    simp [held]
  have noneResized : (now.rebuild again).2.resized = [] := by
    rw [resized_rebuild now again distinctAgain, List.map_eq_nil_iff, List.filter_eq_nil_iff]
    intro uniform listed
    obtain ⟨slot, held, -, count⟩ := found uniform listed
    simp [Declared.resizes, held, count]
  have noneRemoved : (now.rebuild again).2.removed = [] := by
    refine List.eq_nil_iff_forall_not_mem.mpr fun name isRemoved => ?_
    obtain ⟨present, absent⟩ := (mem_removed_rebuild now again name).mp isRemoved
    rw [names, ← contains_rebuild registry declared distinct] at absent
    exact absent present
  constructor
  · cases report : (now.rebuild again).2
    simp_all [RebuildReport.unchanged]
  · intro name
    by_cases member : name ∈ again.map (·.name)
    · obtain ⟨uniform, listed, rfl⟩ := List.mem_map.mp member
      obtain ⟨slot, held, shape, count⟩ := found uniform listed
      rw [get_rebuild now again distinctAgain listed, held, Option.map_some, Option.map_some,
        taken_contents uniform shape count]
    · have before := get_rebuild_other registry declared (names ▸ member)
      rw [get_rebuild_other now again member, before]

end Registry

section Listed

variable {handles : Handles} {State : Type}

/-- A program declares what the driver lists, without the suffix of arrays. -/
theorem declared_uniforms (driver : Driver handles State) (program : handles.Program)
    (state : State) :
    (driver.declared program state).1.map
        (fun uniform => (uniform.name, uniform.shape, uniform.count)) =
      (driver.activeUniforms program state).1.map fun active =>
        (baseName active.name, Shape.ofType active.type, active.componentCount) :=
  located_uniforms driver program _ _

/-- The names that a program declares. -/
theorem declared_names (driver : Driver handles State) (program : handles.Program) (state : State) :
    (driver.declared program state).1.map (·.name) =
      (driver.activeUniforms program state).1.map fun active => baseName active.name := by
  have firsts := congrArg (List.map Prod.fst) (declared_uniforms driver program state)
  rwa [List.map_map, List.map_map] at firsts

/-- Every uniform that a program declares has a component. -/
theorem declared_counted (driver : Driver handles State) (program : handles.Program)
    (state : State) : ∀ uniform ∈ (driver.declared program state).1, 0 < uniform.count := by
  intro uniform member
  have listed : (uniform.name, uniform.shape, uniform.count) ∈
      (driver.activeUniforms program state).1.map fun active =>
        (baseName active.name, Shape.ofType active.type, active.componentCount) := by
    rw [← declared_uniforms]
    exact List.mem_map.mpr ⟨uniform, member, rfl⟩
  obtain ⟨active, -, same⟩ := List.mem_map.mp listed
  simp only [Prod.mk.injEq] at same
  exact same.2.2 ▸ component_count_pos active

/-- Reports of rebuilds are exact.

Whatever a registry holds, if the driver lists no name of a program twice, the registry that takes
the program in has slots for the listed names and no others, and the report tells exactly what
changed: the names that are new and those whose slots have another count, each in the driver's
order, and the names that are gone, in theirs; no name is told twice. If the driver then gives the
same list again, for whatever program and with whatever places, taking it in reports nothing and
keeps the shape, the values and the modifiers of every slot. -/
theorem reports_are_exact (driver : Driver handles State) (program : handles.Program)
    (state : State) (registry : Registry handles.Location)
    (distinct : ((driver.activeUniforms program state).1.map
      fun active => baseName active.name).Nodup) :
    let listed := (driver.activeUniforms program state).1.map fun active => baseName active.name
    let now := (registry.rebuild (driver.declared program state).1).1
    (∀ name, now.contains name = true ↔ name ∈ listed) ∧
    (registry.rebuild (driver.declared program state).1).2.Tells listed registry now ∧
    ∀ again later,
      (driver.activeUniforms again later).1 = (driver.activeUniforms program state).1 →
      let rebuilt := now.rebuild (driver.declared again later).1
      rebuilt.2 = .unchanged ∧
      ∀ name, (rebuilt.1.slots.get? name).map Slot.contents =
        (now.slots.get? name).map Slot.contents := by
  intro listed now
  have names := declared_names driver program state
  have distinctDeclared : ((driver.declared program state).1.map (·.name)).Nodup := names ▸ distinct
  have counted := declared_counted driver program state
  refine ⟨fun name => ?_, ?_, fun again later same => ?_⟩
  · rw [Registry.contains_rebuild registry _ distinctDeclared, names]
  · have tells := Registry.rebuild_tells registry distinctDeclared counted
    rwa [names] at tells
  · refine Registry.rebuild_again registry distinctDeclared counted ?_
    rw [declared_uniforms, declared_uniforms, same]

/-- What programs of the scripted driver declare, as programs that replace one another. -/
def relinkedMemory : Scripted.Memory :=
  let first : List ScriptedUniform :=
    [⟨"iTime", .float, 1, true⟩, ⟨"gone", .float, 1, true⟩, ⟨"weights[0]", .float, 3, true⟩,
      ⟨"tint", .vec3, 1, true⟩]
  let second : List ScriptedUniform :=
    [⟨"tint", .vec3, 1, true⟩, ⟨"weights[0]", .float, 5, true⟩, ⟨"iResolution", .vec2, 1, true⟩,
      ⟨"gain", .float, 1, false⟩]
  ⟨.plain, 2, [(1, first), (2, second)], []⟩

/-- The registry of the first of these programs, in which one component of the vector was set and
one component of the array is moved. -/
def firstRegistry : Registry Scripted.handles.Location :=
  ((Registry.empty.rebuild (Scripted.driver.declared 1 relinkedMemory).1).1.edit
    "tint" 1 (.set 2)).edit "weights" 2 (.animate (Formula.ramp 3).modifier)

/-- The second program adds two names, drops two, makes an array longer and keeps a vector, and then
takes its own place. What was set and what is moved stays through both. -/
theorem relinked_program_is_reported :
    ((Scripted.driver.activeUniforms 2 relinkedMemory).1.map
      fun active => baseName active.name).Nodup ∧
    (firstRegistry.rebuild (Scripted.driver.declared 2 relinkedMemory).1).2 =
      ⟨["iResolution", "gain"], ["weights"], ["gone", "iTime"]⟩ ∧
    let now := (firstRegistry.rebuild (Scripted.driver.declared 2 relinkedMemory).1).1
    let again := now.rebuild (Scripted.driver.declared 2 relinkedMemory).1
    now.contains "gain" = true ∧ again.2 = .unchanged ∧
    (again.1.slots.get? "tint").map Slot.contents =
      some (.vec3, [0, 2, 0], [none, none, none]) ∧
    (again.1.slots.get? "weights").map Slot.contents =
      some (.scalar, [0, 0, 0, 0, 0],
        [none, none, some (Formula.ramp 3).modifier, none, none]) := by
  have distinct : ((Scripted.driver.activeUniforms 2 relinkedMemory).1.map
      fun active => baseName active.name).Nodup := by decide
  obtain ⟨registered, -, repeated⟩ :=
    reports_are_exact Scripted.driver 2 relinkedMemory firstRegistry distinct
  obtain ⟨report, kept⟩ := repeated 2 relinkedMemory rfl
  exact ⟨distinct, by decide, (registered "gain").mpr (by decide), report, kept "tint",
    kept "weights"⟩

/-- What hosts see of the uniform of a name. -/
theorem Registry.get_snapshot (registry : Registry Location) (name : String) :
    registry.snapshot.get? name =
      if isReserved name then none else (registry.slots.get? name).map Slot.snapshot := by
  refine (NameTable.get_map _ _ name).trans ?_
  rw [NameTable.get_filter registry.slots (fun name => !isReserved name) name]
  cases isReserved name <;> rfl

/-- What hosts see of a slot beside its shape: the values, and which of them are moved. -/
def SlotSnapshot.unshaped (seen : SlotSnapshot) : List Float32 × List Nat :=
  (seen.values, seen.animated)

/-- Where registries have the same values and modifiers, hosts see the same of them. -/
theorem Registry.unshaped_seen {before now : Registry Location}
    (same : ∀ name, (now.slots.get? name).map (·.contents.2) =
      (before.slots.get? name).map (·.contents.2)) :
    now.snapshot.map (fun _ seen => seen.unshaped) =
      before.snapshot.map fun _ seen => seen.unshaped := by
  refine NameTable.ext_get fun name => ?_
  rw [NameTable.get_map, NameTable.get_map, get_snapshot, get_snapshot]
  split
  · rfl
  · have told := congrArg (Option.map fun lists : List Float32 × List (Option Modifier) =>
      (lists.1, Slot.animatedFrom 0 lists.2)) (same name)
    rw [Option.map_map, Option.map_map] at told ⊢
    exact told

/-- Where hosts see a uniform, a rebuild has given it the shape that is declared. -/
theorem Registry.shape_seen (registry : Registry Location) {declared : List (Declared Location)}
    (distinct : (declared.map (·.name)).Nodup) {uniform : Declared Location}
    (listed : uniform ∈ declared) {seen : SlotSnapshot}
    (shown : (registry.rebuild declared).1.snapshot.get? uniform.name = some seen) :
    seen.shape = uniform.shape := by
  rw [get_snapshot, get_rebuild registry declared distinct listed, Option.ite_none_left_eq_some,
    Option.map_some, Option.some.injEq] at shown
  rw [← shown.2]
  exact taken_shape uniform _

/-- Hosts see no uniform that was not declared. -/
theorem Registry.declared_of_seen (registry : Registry Location)
    {declared : List (Declared Location)} {name : String} {seen : SlotSnapshot}
    (shown : (registry.rebuild declared).1.snapshot.get? name = some seen) :
    name ∈ declared.map (·.name) := by
  refine Decidable.byContradiction fun absent => ?_
  rw [get_snapshot, get_rebuild_other registry declared absent] at shown
  simp at shown

/-- A report that names nothing means that all components stayed.

If the driver lists no name of a program twice and the report of taking the program in names
nothing, hosts see the same names as before, with the same values and the same components moved.
Each has the shape of its type in the new list, so hosts see the same as before just when every
uniform that they saw is listed with the shape it had. -/
theorem unchanged_reports_keep_components (driver : Driver handles State)
    (program : handles.Program) (state : State) (registry : Registry handles.Location)
    (distinct : ((driver.activeUniforms program state).1.map
      fun active => baseName active.name).Nodup)
    (unchanged : (registry.rebuild (driver.declared program state).1).2.isUnchanged = true) :
    let actives := (driver.activeUniforms program state).1
    let before := registry.snapshot
    let after := (registry.rebuild (driver.declared program state).1).1.snapshot
    (after.map fun _ seen => seen.unshaped) = (before.map fun _ seen => seen.unshaped) ∧
    (∀ active ∈ actives, ∀ seen, after.get? (baseName active.name) = some seen →
      seen.shape = Shape.ofType active.type) ∧
    (after = before ↔ ∀ active ∈ actives, ∀ seen,
      before.get? (baseName active.name) = some seen → seen.shape = Shape.ofType active.type) := by
  intro actives before after
  have names := declared_names driver program state
  have distinctDeclared : ((driver.declared program state).1.map (·.name)).Nodup := names ▸ distinct
  have kept : (after.map fun _ seen => seen.unshaped) = before.map fun _ seen => seen.unshaped :=
    Registry.unshaped_seen (registry.components_of_unchanged distinctDeclared
      (declared_counted driver program state) unchanged)
  have shapes : ∀ active ∈ actives, ∀ seen, after.get? (baseName active.name) = some seen →
      seen.shape = Shape.ofType active.type := by
    intro active member seen shown
    have declares : (baseName active.name, Shape.ofType active.type, active.componentCount) ∈
        (driver.declared program state).1.map
          fun uniform => (uniform.name, uniform.shape, uniform.count) := by
      rw [declared_uniforms]
      exact List.mem_map.mpr ⟨active, member, rfl⟩
    obtain ⟨uniform, listed, name, shape, -⟩ := declared_of_mem declares
    rw [← name] at shown
    exact (registry.shape_seen distinctDeclared listed shown).trans shape
  refine ⟨kept, shapes, fun same active member seen shown => ?_, fun same => ?_⟩
  · exact shapes active member seen (same ▸ shown)
  · refine NameTable.ext_get fun name => ?_
    have contents := congrArg (NameTable.get? · name) kept
    simp only [NameTable.get_map] at contents
    cases shown : after.get? name with
    | none =>
      rw [shown, Option.map_none, eq_comm, Option.map_eq_none_iff] at contents
      exact contents.symm
    | some seen =>
      rw [shown, Option.map_some, eq_comm, Option.map_eq_some_iff] at contents
      obtain ⟨old, held, alike⟩ := contents
      have listed := registry.declared_of_seen shown
      rw [names] at listed
      obtain ⟨active, member, rfl⟩ := List.mem_map.mp listed
      have shape : old.shape = seen.shape :=
        (same active member old held).trans (shapes active member seen shown).symm
      rw [held, Option.some.injEq]
      cases old
      cases seen
      simp_all [SlotSnapshot.unshaped]

/-- The second of these programs takes its own place, and hosts see no change, neither of what was
set nor of what is moved. -/
theorem relinked_program_keeps_snapshot :
    let now := (firstRegistry.rebuild (Scripted.driver.declared 2 relinkedMemory).1).1
    let again := now.rebuild (Scripted.driver.declared 2 relinkedMemory).1
    again.2.isUnchanged = true ∧ again.1.snapshot = now.snapshot ∧
    now.snapshot.get? "tint" = some ⟨.vec3, [0, 2, 0], []⟩ ∧
    now.snapshot.get? "weights" = some ⟨.scalar, [0, 0, 0, 0, 0], [2]⟩ := by
  intro now again
  have distinct : ((Scripted.driver.activeUniforms 2 relinkedMemory).1.map
      fun active => baseName active.name).Nodup := by decide
  have unchanged : again.2.isUnchanged = true := by decide
  refine ⟨unchanged, (unchanged_reports_keep_components Scripted.driver 2 relinkedMemory now
    distinct unchanged).2.2.mpr ?_, rfl, rfl⟩
  decide

/-- Programs with a vector of two, and with an array of two under the same name. -/
def retypedMemory : Scripted.Memory :=
  ⟨.plain, 2, [(1, [⟨"offset", .vec2, 1, true⟩]), (2, [⟨"offset[0]", .float, 2, true⟩])], []⟩

/-- An array in the place of a vector is not reported, and hosts see its shape. -/
theorem retyped_vector_is_unreported :
    let before := ((Registry.empty : Registry Scripted.handles.Location).rebuild
      (Scripted.driver.declared 1 retypedMemory).1).1
    let rebuilt := before.rebuild (Scripted.driver.declared 2 retypedMemory).1
    ((Scripted.driver.activeUniforms 2 retypedMemory).1.map
      fun active => baseName active.name).Nodup ∧
    rebuilt.2.isUnchanged = true ∧ rebuilt.1.snapshot ≠ before.snapshot := by
  refine ⟨by decide, by decide, fun same => ?_⟩
  have seen := congrArg (fun table => (table.get? "offset").map (·.shape)) same
  revert seen
  decide

end Listed

end LiveShader

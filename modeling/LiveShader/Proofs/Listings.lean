import LiveShader.Proofs.Requests

/-!
# Components through listings

A driver may list a name more than once, and each listing gives the slot another count in turn. So a
component is kept just when its name is listed and every listing of the name leaves room for it; one
that was cut off on the way comes back as zero, if it comes back.

Taking in a program gives no component a modifier: what moves a component afterwards moved it
before, and was kept. Initial values only ever take a modifier away.
-/
namespace LiveShader

variable {Location : Type}

/-- Whether a name is declared, and every declaration of it leaves room for an index. -/
def keepsDeclared (declared : List (Declared Location)) (name : String) (index : Nat) : Bool :=
  declared.any (fun uniform => uniform.name == name) &&
    declared.all fun uniform => uniform.name != name || decide (index < uniform.count)

/-- The slot of a declared uniform has no components beyond the count. -/
theorem taken_ends (declared : Declared Location) (old : Option (Slot Location))
    (counted : 0 < declared.count) {index : Nat} (beyond : declared.count ≤ index) :
    (declared.taken old).component? index = none :=
  Slot.component_beyond _ ((taken_count declared old counted).symm ▸ beyond)

namespace Registry

/-- The component of a uniform at an index, which is not wrapped around. An index beyond the last
component has none, so that what was cut off is told from what is still there. -/
def component? (registry : Registry Location) (name : String) (index : Nat) : Option Component :=
  (registry.slots.get? name).bind fun slot => slot.component? index

/-- What moves a component, if there is one and something does. -/
def mover? (registry : Registry Location) (name : String) (index : Nat) : Option Modifier :=
  (registry.component? name index).bind (·.modifier)

/-- Initial values give no component of a slot a modifier. They are set like any other value, which
takes a modifier away. -/
theorem seeded_mover (defaults : NameTable (List Float32)) (name : String) {slot : Slot Location}
    (paired : slot.IsPaired) {index : Nat}
    (still : (slot.component? index).bind (·.modifier) = none) :
    ((seeded defaults name slot).component? index).bind (·.modifier) = none := by
  unfold seeded
  split
  · rename_i values reserved given
    by_cases within : index < slot.count
    · rw [Slot.component_seed paired values within]
      cases value : values[index]? with
      | none => exact still
      | some value => rfl
    · have beyond : (seed slot values).count ≤ index := by
        rw [slot.count_seed values]
        omega
      rw [Slot.component_beyond _ beyond, Option.bind_none]
  · exact still

/-- A declared uniform keeps the component if there is room, and makes one of zero where there was
none. -/
theorem component_declare (declared : Declared Location) (counted : 0 < declared.count)
    {registry : Registry Location} (paired : registry.IsPaired) (report : RebuildReport)
    (name : String) (index : Nat) :
    (registry.declare declared report).1.component? name index =
      if declared.name = name then
        if index < declared.count then some ((registry.component? name index).getD .zero) else none
      else registry.component? name index := by
  unfold component?
  rw [get_declare]
  by_cases here : declared.name = name
  · subst here
    rw [if_pos rfl, if_pos rfl, Option.bind_some]
    by_cases within : index < declared.count
    · rw [if_pos within,
        taken_component declared (fun slot found => paired declared.name slot found) within]
    · rw [if_neg within, taken_ends declared _ counted (by omega)]
  · rw [if_neg here, if_neg here]

/-- A component stays when every declaration of its name leaves room for it. By induction on the
declarations: each of them cuts the slot off behind the component, or fills it up there, or is about
another name. -/
theorem component_declare_all {declared : List (Declared Location)} {name : String} {index : Nat}
    (counted : ∀ uniform ∈ declared, 0 < uniform.count)
    (room : ∀ uniform ∈ declared, uniform.name = name → index < uniform.count)
    {registry : Registry Location} (paired : registry.IsPaired) (report : RebuildReport)
    {component : Component} (held : registry.component? name index = some component) :
    (declareAll declared registry report).1.component? name index = some component := by
  induction declared generalizing registry report with
  | nil => exact held
  | cons first rest induction =>
    obtain ⟨countedFirst, countedRest⟩ := List.forall_mem_cons.mp counted
    obtain ⟨roomFirst, roomRest⟩ := List.forall_mem_cons.mp room
    have taken : (registry.declare first report).1.component? name index = some component := by
      rw [component_declare first countedFirst paired, held]
      split
      · rename_i here
        rw [if_pos (roomFirst here), Option.getD_some]
      · rfl
    exact induction countedRest roomRest (paired.declare first report) _ taken

/-- What moves a component after all declarations moved it before, and every declaration of its name
left room for it. -/
theorem mover_declare_all {declared : List (Declared Location)} {name : String} {index : Nat}
    (counted : ∀ uniform ∈ declared, 0 < uniform.count)
    {registry : Registry Location} (paired : registry.IsPaired) (report : RebuildReport) :
    (declareAll declared registry report).1.mover? name index =
      if declared.all (fun uniform => uniform.name != name || decide (index < uniform.count)) then
        registry.mover? name index
      else none := by
  induction declared generalizing registry report with
  | nil => rfl
  | cons first rest induction =>
    obtain ⟨countedFirst, countedRest⟩ := List.forall_mem_cons.mp counted
    refine (induction countedRest (paired.declare first report) _).trans ?_
    unfold mover?
    rw [component_declare first countedFirst paired, List.all_cons]
    by_cases here : first.name = name
    · by_cases within : index < first.count
      · have kept : (some ((registry.component? name index).getD .zero)).bind (·.modifier) =
            (registry.component? name index).bind (·.modifier) := by
          cases registry.component? name index <;> rfl
        simp [here, within, kept]
      · simp [here, within]
    · simp [here]

/-- Names that are reported as added had no slot when the taking in began. A name that is declared a
second time has one by then, and is not reported again. -/
theorem added_had_none (declared : List (Declared Location)) (registry : Registry Location)
    (report : RebuildReport) {name : String}
    (added : name ∈ (declareAll declared registry report).2.added) :
    name ∈ report.added ∨ registry.slots.get? name = none := by
  induction declared generalizing registry report with
  | nil => exact .inl added
  | cons first rest induction =>
    rcases induction (registry.declare first report).1 (registry.declare first report).2 added with
      sooner | absent
    · rw [added_declare, List.mem_append] at sooner
      refine sooner.imp_right fun here => ?_
      split at here
      · rename_i missing
        rw [List.mem_singleton.mp here]
        exact Option.isNone_iff_eq_none.mp missing
      · cases here
    · rw [get_declare] at absent
      split at absent
      · cases absent
      · exact .inr absent

/-- Initial values leave the slots of other names alone, and with them whatever a host has set
there. -/
theorem get_apply_defaults_other (defaults : NameTable (List Float32)) {added : List String}
    {name : String} (absent : name ∉ added) (registry : Registry Location) :
    (registry.applyDefaults defaults added).slots.get? name = registry.slots.get? name := by
  induction added generalizing registry with
  | nil => rfl
  | cons first rest induction =>
    rw [List.mem_cons, not_or] at absent
    refine (induction absent.2 (registry.applyDefaults defaults [first])).trans ?_
    rw [get_default, if_neg absent.1]

/-- Initial values give no component a modifier, in whatever order the added names come. -/
theorem mover_apply_defaults (defaults : NameTable (List Float32)) (added : List String)
    {registry : Registry Location} (paired : registry.IsPaired) {name : String} {index : Nat}
    (still : registry.mover? name index = none) :
    (registry.applyDefaults defaults added).mover? name index = none := by
  induction added generalizing registry with
  | nil => exact still
  | cons first rest induction =>
    have seededFirst : (registry.applyDefaults defaults [first]).mover? name index = none := by
      unfold mover? component? at still ⊢
      rw [get_default]
      split
      · cases held : registry.slots.get? name with
        | none => rfl
        | some slot =>
          rw [held] at still
          exact seeded_mover defaults name (paired name slot held) still
      · exact still
    exact induction (paired.given defaults [first]) seededFirst

/-- A rebuild keeps the slots whose names are declared, as taking them in has left them, and drops
all others. -/
theorem component_rebuild (registry : Registry Location) (declared : List (Declared Location))
    (name : String) (index : Nat) :
    (registry.rebuild declared).1.component? name index =
      if declared.any (fun uniform => uniform.name == name) then
        (declareAll declared registry .unchanged).1.component? name index
      else none := by
  unfold component?
  have filtered := NameTable.get_filter (declareAll declared registry .unchanged).1.slots
    (fun name => declared.any fun uniform => uniform.name == name) name
  refine (congrArg (Option.bind · _) filtered).trans ?_
  split <;> rfl

section Adopted

variable {declared : List (Declared Location)} (counted : ∀ uniform ∈ declared, 0 < uniform.count)
  (defaults : NameTable (List Float32)) {name : String} {index : Nat}
include counted

/-- Taking in a program keeps the components that there is room for. Initial values do not touch
them, since they are for names that had no slot. -/
theorem component_adopted {registry : Registry Location} (paired : registry.IsPaired)
    {component : Component} (held : registry.component? name index = some component)
    (kept : keepsDeclared declared name index = true) :
    (registry.adopted declared defaults).component? name index = some component := by
  unfold keepsDeclared at kept
  rw [Bool.and_eq_true, List.all_eq_true] at kept
  have room : ∀ uniform ∈ declared, uniform.name = name → index < uniform.count := by
    intro uniform member named
    simpa [named] using kept.2 uniform member
  have old : name ∉ (registry.rebuild declared).2.added := by
    intro added
    rcases added_had_none declared registry .unchanged added with sooner | absent
    · cases sooner
    · unfold component? at held
      rw [absent] at held
      cases held
  have same := get_apply_defaults_other defaults old (registry.rebuild declared).1
  have rebuilt := component_rebuild registry declared name index
  rw [if_pos kept.1, component_declare_all counted room paired .unchanged held] at rebuilt
  unfold component? adopted at *
  rw [same]
  exact rebuilt

/-- What moves a component after a program was taken in moved it before, and was kept. -/
theorem mover_adopted {registry : Registry Location} (paired : registry.IsPaired) :
    (registry.adopted declared defaults).mover? name index =
      if keepsDeclared declared name index then registry.mover? name index else none := by
  have rebuilt : (registry.rebuild declared).1.mover? name index =
      if keepsDeclared declared name index then registry.mover? name index else none := by
    have movers : (declareAll declared registry .unchanged).1.mover? name index = _ :=
      mover_declare_all counted paired .unchanged
    unfold mover? at movers ⊢
    rw [component_rebuild]
    unfold keepsDeclared
    cases declared.any fun uniform => uniform.name == name with
    | false => rfl
    | true =>
      rw [Bool.true_and]
      exact movers
  unfold adopted
  by_cases added : name ∈ (registry.rebuild declared).2.added
  · rcases added_had_none declared registry .unchanged added with sooner | absent
    · cases sooner
    · have nothing : registry.mover? name index = none := by
        unfold mover? component?
        rw [absent]
        rfl
      rw [nothing, ite_self] at rebuilt ⊢
      exact mover_apply_defaults defaults _ (paired.rebuild declared) rebuilt
  · have same := get_apply_defaults_other defaults added (registry.rebuild declared).1
    unfold mover? component? at rebuilt ⊢
    rw [same]
    exact rebuilt

end Adopted

end Registry

end LiveShader

import LiveShader.NameTable

/-!
# Looking up in changed tables

What a table holds for a name after each way of changing tables, told by what it held before. An
insertion, a change of one value and a choice by name are told exactly. Where values are replaced
while a state is passed along, it is told for whatever the replacement leaves as it is. Replacing
all values may be done before such a change or after it.
-/
namespace LiveShader.NameTable

variable {α β γ σ : Type}

/-- A list of entries with one put in holds its value for its name, and else what it held. -/
theorem lookup_insert (entries : List (String × α)) (name other : String) (value : α) :
    lookup? other (insertEntry name value entries) =
      if name = other then some value else lookup? other entries := by
  induction entries with
  | nil => simp [insertEntry, lookup?]
  | cons entry rest induction =>
    obtain ⟨first, old⟩ := entry
    unfold insertEntry
    split
    · simp [lookup?]
    split
    · rename_i notSmaller greater
      have different : name ≠ first := fun same => String.lt_irrefl _ (same ▸ greater)
      simp only [lookup?, induction]
      by_cases found : first = other
      · have absent : name ≠ other := fun same => different (same.trans found.symm)
        rw [if_pos found, if_neg absent, if_pos found]
      · rw [if_neg found, if_neg found]
    · rename_i notSmaller notGreater
      have same : name = first :=
        String.le_antisymm (String.not_lt.1 notGreater) (String.not_lt.1 notSmaller)
      subst same
      simp only [lookup?]
      by_cases found : name = other
      · rw [if_pos found, if_pos found]
      · rw [if_neg found, if_neg found, if_neg found]

/-- A list of entries under other names holds nothing for a name. The induction is on the entries,
and none of them is the one that is looked for. -/
theorem lookup_absent {entries : List (String × α)} {name : String}
    (absent : ∀ entry ∈ entries, entry.1 ≠ name) : lookup? name entries = none := by
  induction entries with
  | nil => rfl
  | cons entry rest induction =>
    obtain ⟨other, absentRest⟩ := List.forall_mem_cons.mp absent
    rw [lookup?, if_neg other]
    exact induction absentRest

/-- What a table holds once an entry was put in: the new value for its name, and what it held before
for every other. -/
theorem get_insert (table : NameTable α) (name other : String) (value : α) :
    (table.insert name value).get? other = if name = other then some value else table.get? other :=
  lookup_insert table.entries name other value

/-- A table of the entries whose names are kept. -/
theorem get_filter (table : NameTable α) (keep : String → Bool) (name : String) :
    (table.filter fun name _ => keep name).get? name =
      if keep name then table.get? name else none := by
  suffices entries : ∀ entries : List (String × α),
      lookup? name (entries.filter fun entry => keep entry.1) =
        if keep name then lookup? name entries else none from entries table.entries
  intro entries
  induction entries with
  | nil => simp [lookup?]
  | cons entry rest induction =>
    by_cases found : entry.1 = name
    · by_cases kept : keep name
      · simp [lookup?, found, kept]
      · simp [found, kept, induction]
    · by_cases kept : keep entry.1
      · simp [lookup?, found, kept, induction]
      · simp [lookup?, found, kept, induction]

/-- What a table holds once all its values were replaced: the replacement, which may depend on the
name, of what it held before. -/
theorem get_map (table : NameTable α) (change : String → α → β) (name : String) :
    (table.map change).get? name = (table.get? name).map (change name) := by
  suffices entries : ∀ entries : List (String × α),
      lookup? name (entries.map fun entry => (entry.1, change entry.1 entry.2)) =
        (lookup? name entries).map (change name) from entries table.entries
  intro entries
  induction entries with
  | nil => rfl
  | cons entry rest induction =>
    by_cases found : entry.1 = name
    · simp [lookup?, found]
    · simp [lookup?, found, induction]

/-- What a table holds once the value of one name was changed. A name that it holds nothing for is
not put in. -/
theorem get_adjust (table : NameTable α) (name other : String) (change : α → α) :
    (table.adjust name change).get? other =
      if other = name then (table.get? other).map change else table.get? other := by
  unfold adjust
  rw [get_map]
  split
  · rfl
  · exact Option.map_id'

/-- Two replacements that agree under a view of their states replace the same, and pass along
states that agree. -/
theorem step_through_view {τ : Type} (table : NameTable α) (step : String → α → σ → β × σ)
    (other : String → α → τ → β × τ) (view : σ → τ) (state : σ)
    (same : ∀ name value state, ((step name value state).1, view (step name value state).2) =
      other name value (view state)) :
    ((table.stepThrough step state).1, view (table.stepThrough step state).2) =
      table.stepThrough other (view state) := by
  have entries (entries : List (String × α)) (state : σ) :
      ((stepEntries step entries state).1, view (stepEntries step entries state).2) =
        stepEntries other entries (view state) := by
    induction entries generalizing state with
    | nil => rfl
    | cons entry rest induction =>
      have first := same entry.1 entry.2 state
      have later := induction (step entry.1 entry.2 state).2
      rw [Prod.ext_iff] at first later ⊢
      obtain ⟨value, next⟩ := first
      dsimp only at value next later
      rw [next] at later
      simp only [stepEntries, value, later, and_self]
  have all := entries table.entries state
  rw [Prod.ext_iff] at all ⊢
  refine ⟨?_, all.2⟩
  unfold stepThrough
  simp only [mk.injEq]
  exact all.1

/-- A table holds the value of each of its entries. It has one entry for a name at most, so no other
one is found first. -/
theorem get_of_mem (table : NameTable α) {name : String} {value : α}
    (member : (name, value) ∈ table.entries) : table.get? name = some value := by
  suffices entries : ∀ entries : List (String × α),
      entries.Pairwise (fun left right => left.1 < right.1) → (name, value) ∈ entries →
        lookup? name entries = some value from entries table.entries table.sorted member
  intro entries ascending member
  induction entries with
  | nil => cases member
  | cons entry rest induction =>
    obtain ⟨above, ascendingRest⟩ := List.pairwise_cons.mp ascending
    unfold lookup?
    rcases List.mem_cons.mp member with rfl | later
    · exact if_pos rfl
    · rw [if_neg (String.ne_of_lt (above _ later))]
      exact induction ascendingRest later

/-- Two tables with the same entries are the same, as the order of the entries is no more than a
fact about them. -/
theorem ext {left right : NameTable α} (same : left.entries = right.entries) : left = right := by
  cases left
  cases right
  simpa using same

/-- Replacing all values twice is replacing them once, by both replacements. -/
theorem map_map {δ : Type} (table : NameTable α) (first : String → α → β)
    (second : String → β → δ) :
    (table.map first).map second = table.map fun name value => second name (first name value) :=
  ext List.map_map

/-- Replacing all values keeps the names. -/
theorem names_map (table : NameTable α) (change : String → α → β) :
    (table.map change).names = table.names :=
  List.map_map

/-- Replacing all values of a table with an entry put in replaces the new value like all others. -/
theorem map_insert (table : NameTable α) (name : String) (value : α) (change : String → α → β) :
    (table.insert name value).map change = (table.map change).insert name (change name value) := by
  suffices entries : ∀ entries : List (String × α),
      (insertEntry name value entries).map (fun entry => (entry.1, change entry.1 entry.2)) =
        insertEntry name (change name value)
          (entries.map fun entry => (entry.1, change entry.1 entry.2)) from
    ext (entries table.entries)
  intro entries
  induction entries with
  | nil => rfl
  | cons entry rest induction =>
    obtain ⟨first, old⟩ := entry
    simp only [List.map_cons, insertEntry]
    by_cases smaller : name < first
    · rw [if_pos smaller, if_pos smaller]
      rfl
    · rw [if_neg smaller, if_neg smaller]
      by_cases greater : first < name
      · rw [if_pos greater, if_pos greater, List.map_cons, induction]
      · rw [if_neg greater, if_neg greater]
        rfl

/-- Replacing all values of the entries whose names are kept comes to the same before the choice and
after it, as the choice goes by the names. -/
theorem map_filter (table : NameTable α) (keep : String → Bool) (change : String → α → β) :
    (table.filter fun name _ => keep name).map change =
      (table.map change).filter fun name _ => keep name := by
  refine ext ?_
  show (table.entries.filter _).map _ = (table.entries.map _).filter _
  rw [List.filter_map]
  rfl

/-- Replacing all values where one of them is changed comes to the same before the change and after
it, if the change and the replacement go together for every value. -/
theorem map_adjust (table : NameTable α) (name : String) {before : α → α} {after : β → β}
    {change : α → β} (same : ∀ value, change (before value) = after (change value)) :
    (table.adjust name before).map (fun _ => change) =
      (table.map fun _ => change).adjust name after := by
  unfold adjust
  rw [map_map, map_map]
  congr 1
  funext other value
  split
  · exact same value
  · rfl

/-- Replacing all values where a state is passed along, as far as the replacement leaves them as
they are. -/
theorem map_step_through (table : NameTable α) (step : String → α → σ → β × σ) (state : σ)
    (before : α → γ) (after : β → γ)
    (same : ∀ name value state, after (step name value state).1 = before value) :
    (table.stepThrough step state).1.map (fun _ => after) = table.map fun _ => before := by
  suffices entries : ∀ (entries : List (String × α)) (state : σ),
      (stepEntries step entries state).1.map (fun entry => (entry.1, after entry.2)) =
        entries.map fun entry => (entry.1, before entry.2) from
    ext (entries table.entries state)
  intro entries
  induction entries with
  | nil => intro state; rfl
  | cons entry rest induction =>
    intro state
    simp only [stepEntries, List.map_cons, same, induction]

/-- A table with all values replaced while a state is passed along, name by name. -/
theorem get_step_through (table : NameTable α) (step : String → α → σ → β × σ) (state : σ)
    (before : α → γ) (after : β → γ)
    (same : ∀ name value state, after (step name value state).1 = before value) (name : String) :
    ((table.stepThrough step state).1.get? name).map after = (table.get? name).map before := by
  have mapped := congrArg (get? · name) (map_step_through table step state before after same)
  simpa only [get_map] using mapped

/-- A table has an entry for each value it holds, under the name it holds it for. -/
theorem mem_of_get (table : NameTable α) {name : String} {value : α}
    (held : table.get? name = some value) : (name, value) ∈ table.entries := by
  suffices entries : ∀ entries : List (String × α),
      lookup? name entries = some value → (name, value) ∈ entries from entries table.entries held
  intro entries found
  induction entries with
  | nil => cases found
  | cons entry rest induction =>
    obtain ⟨first, other⟩ := entry
    simp only [lookup?] at found
    split at found
    · rename_i here
      cases found
      exact here ▸ .head rest
    · exact .tail _ (induction found)

/-- Two tables that hold the same for every name are the same: they have the same entries, and both
have them in the order of the names. -/
theorem ext_get {left right : NameTable α} (same : ∀ name, left.get? name = right.get? name) :
    left = right := by
  have distinct (table : NameTable α) : table.entries.Nodup :=
    table.sorted.imp fun ascends same => String.ne_of_lt ascends (congrArg Prod.fst same)
  have entries : left.entries.Perm right.entries := by
    refine (List.perm_ext_iff_of_nodup (distinct left) (distinct right)).mpr fun entry => ?_
    constructor
    · intro member
      exact right.mem_of_get ((same entry.1).symm.trans (left.get_of_mem member))
    · intro member
      exact left.mem_of_get ((same entry.1).trans (right.get_of_mem member))
  refine ext (entries.eq_of_pairwise ?_ left.sorted right.sorted)
  intro first second _ _ ascends descends
  exact absurd (String.lt_trans ascends descends) (String.lt_irrefl _)

/-- The names of a table are those it holds a value for, so a name may be looked for in either way.
-/
theorem mem_names (table : NameTable α) (name : String) :
    name ∈ table.names ↔ (table.get? name).isSome := by
  suffices entries : ∀ entries : List (String × α),
      name ∈ entries.map (·.1) ↔ (lookup? name entries).isSome from entries table.entries
  intro entries
  induction entries with
  | nil => simp [lookup?]
  | cons entry rest induction =>
    by_cases found : entry.1 = name
    · simp [lookup?, found]
    · have other : name ≠ entry.1 := fun same => found same.symm
      simp only [List.map_cons, List.mem_cons, induction, lookup?, if_neg found, other, false_or]

/-- No name stands twice among the names of a table, since they ascend strictly. -/
theorem names_nodup (table : NameTable α) : table.names.Nodup :=
  List.pairwise_map.mpr (table.sorted.imp String.ne_of_lt)

end LiveShader.NameTable

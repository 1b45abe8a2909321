/-!
# Tables by name

A finite map from names to values, kept as a list of entries whose names strictly ascend. Names
ascend by code point. Two tables with the same entries are therefore equal, and reading a table in
order is reading its list.
-/
namespace LiveShader

/-- Entries with strictly ascending names. -/
structure NameTable (α : Type) where
  /-- The entries, in the order of their names. -/
  entries : List (String × α)
  /-- No name stands twice, and none stands before a smaller one. -/
  sorted : entries.Pairwise fun left right => left.1 < right.1

namespace NameTable

variable {α β σ : Type}

/-- The table without entries. -/
def empty : NameTable α := ⟨[], .nil⟩

/-- The table of no names stands for any table. -/
instance : Inhabited (NameTable α) := ⟨empty⟩

/-- The names, in order. -/
def names (table : NameTable α) : List String := table.entries.map (·.1)

/-- How many names there are. -/
def size (table : NameTable α) : Nat := table.entries.length

/-- Whether there is no name at all. -/
def isEmpty (table : NameTable α) : Bool := table.entries.isEmpty

/-- The value of the first entry of a list that has the name. -/
def lookup? (name : String) : List (String × α) → Option α
  | [] => none
  | (other, value) :: rest => if other = name then some value else lookup? name rest

/-- The value a table holds for a name. -/
def get? (table : NameTable α) (name : String) : Option α := lookup? name table.entries

/-- Whether a table has the name. -/
def contains (table : NameTable α) (name : String) : Bool := (table.get? name).isSome

/-- Puts an entry at its place in an ascending list, in place of an entry of the same name. -/
def insertEntry (name : String) (value : α) : List (String × α) → List (String × α)
  | [] => [(name, value)]
  | (other, old) :: rest =>
    if name < other then (name, value) :: (other, old) :: rest
    else if other < name then (other, old) :: insertEntry name value rest
    else (name, value) :: rest

/-- What an insertion leaves in a list is the new entry or was there before. Nothing is said of what
it took out: an entry of the same name goes. -/
theorem eq_of_mem_insert_entry {name : String} {value : α} {entry : String × α} :
    ∀ {entries : List (String × α)}, entry ∈ insertEntry name value entries →
      entry = (name, value) ∨ entry ∈ entries
  | [], member => by simpa [insertEntry] using member
  | (other, old) :: rest, member => by
    unfold insertEntry at member
    split at member
    · simpa using member
    · split at member
      · rcases List.mem_cons.1 member with same | later
        · exact .inr (by simp [same])
        · rcases eq_of_mem_insert_entry later with new | kept
          · exact .inl new
          · exact .inr (List.mem_cons_of_mem _ kept)
      · rcases List.mem_cons.1 member with same | later
        · exact .inl same
        · exact .inr (List.mem_cons_of_mem _ later)

/-- An insertion keeps the names strictly ascending, so that a table never has two entries of one
name and its order is that of the names alone. -/
theorem pairwise_insert_entry {name : String} {value : α} :
    ∀ {entries : List (String × α)}, entries.Pairwise (fun left right => left.1 < right.1) →
      (insertEntry name value entries).Pairwise fun left right => left.1 < right.1
  | [], _ => by simp [insertEntry]
  | (other, old) :: rest, ascending => by
    obtain ⟨above, ascendingRest⟩ := List.pairwise_cons.1 ascending
    unfold insertEntry
    split
    · rename_i smaller
      refine List.pairwise_cons.2 ⟨fun entry member => ?_, ascending⟩
      rcases List.mem_cons.1 member with rfl | later
      · exact smaller
      · exact String.lt_trans smaller (above entry later)
    · rename_i notSmaller
      split
      · rename_i greater
        refine List.pairwise_cons.2 ⟨fun entry member => ?_, pairwise_insert_entry ascendingRest⟩
        rcases eq_of_mem_insert_entry member with rfl | later
        · exact greater
        · exact above entry later
      · rename_i notGreater
        have same : name = other :=
          String.le_antisymm (String.not_lt.1 notGreater) (String.not_lt.1 notSmaller)
        subst same
        exact List.pairwise_cons.2 ⟨fun entry member => above entry member, ascendingRest⟩

/-- The table with a value for the name, in place of the value it had. -/
def insert (table : NameTable α) (name : String) (value : α) : NameTable α :=
  ⟨insertEntry name value table.entries, pairwise_insert_entry table.sorted⟩

/-- The table of a list of entries; of two entries with one name the later counts. -/
def ofList (entries : List (String × α)) : NameTable α :=
  entries.foldl (fun table (name, value) => table.insert name value) empty

/-- The table of the entries that `keep` holds of. -/
def filter (keep : String → α → Bool) (table : NameTable α) : NameTable α :=
  ⟨table.entries.filter fun (name, value) => keep name value, table.sorted.filter _⟩

/-- The table with every value replaced by a function of its name and value. -/
def map (change : String → α → β) (table : NameTable α) : NameTable β :=
  ⟨table.entries.map fun (name, value) => (name, change name value),
    List.pairwise_map.2 table.sorted⟩

/-- The table with the value of one name changed, and itself when it lacks the name. -/
def adjust (table : NameTable α) (name : String) (change : α → α) : NameTable α :=
  table.map fun other value => if other = name then change value else value

/-- Replaces values from the first entry to the last while a state is passed along. -/
def stepEntries (step : String → α → σ → β × σ) :
    List (String × α) → σ → List (String × β) × σ
  | [], state => ([], state)
  | (name, value) :: rest, state =>
    let (replaced, next) := step name value state
    let (replacedRest, last) := stepEntries step rest next
    ((name, replaced) :: replacedRest, last)

/-- A walk over the entries changes their values and the state it carries along, and leaves the
names as they are. -/
theorem map_fst_step_entries (step : String → α → σ → β × σ) :
    ∀ (entries : List (String × α)) (state : σ),
      (stepEntries step entries state).1.map (·.1) = entries.map (·.1)
  | [], _ => rfl
  | (name, value) :: rest, state => by
    simp [stepEntries, map_fst_step_entries step rest]

/-- The names are ascending after a walk because they are the same names. This is what makes the
outcome of a walk a table again. -/
theorem pairwise_step_entries (step : String → α → σ → β × σ) {entries : List (String × α)}
    (state : σ) (ascending : entries.Pairwise fun left right => left.1 < right.1) :
    (stepEntries step entries state).1.Pairwise fun left right => left.1 < right.1 := by
  have names := List.pairwise_map.2 ascending
  rw [← map_fst_step_entries step entries state] at names
  exact List.pairwise_map.1 names

/-- The table with its values replaced in name order, and the state that was passed along. -/
def stepThrough (table : NameTable α) (step : String → α → σ → β × σ) (state : σ) :
    NameTable β × σ :=
  let result := stepEntries step table.entries state
  (⟨result.1, pairwise_step_entries step state table.sorted⟩, result.2)

end NameTable

end LiveShader

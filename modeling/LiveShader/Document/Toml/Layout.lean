import LiveShader.Document.Value

/-!
# The layout of a document

Sections and dotted keys put entries into nested tables, and not every way of doing so is allowed.
A table knows how it came about: by a header of its own, implied by the path of another header or
key, or by a dotted key. A table may get a header once, and only if it was implied by headers
alone; dotted keys may add only to tables that dotted keys made.
-/
namespace LiveShader.Document.Toml

/-- How a table came about. -/
structure Origin where
  /-- It has no header of its own. -/
  isImplied : Bool
  /-- A dotted key made it. -/
  isDotted : Bool

/-- The origin of a table with a header or braces of its own. -/
def Origin.written : Origin := ⟨false, false⟩

/-- What an entry of a table holds. -/
inductive Node where
  | value (value : Value)
  | table (origin : Origin) (entries : List (String × Node))
  /-- A list of tables that headers make, one after the other. -/
  | tables (items : List (List (String × Node)))

namespace Section

/-- The entries of a table. -/
abbrev Entries := List (String × Node)

/-- The entry of a name. -/
def find? (name : String) (entries : Entries) : Option Node := entries.lookup name

/-- Puts a node in the place of the one of the same name. -/
def replace (name : String) (node : Node) (entries : Entries) : Entries :=
  entries.map fun (other, old) => if other = name then (other, node) else (other, old)

/-- Drops the entry of a name. -/
def remove (name : String) (entries : Entries) : Entries :=
  entries.filter fun entry => entry.1 != name

/-- Changes the table at a path, which starts in a table of the given origin. Tables that are
missing are implied. Of a list of tables the last is meant. A dotted path does not lead into tables
that are written elsewhere. -/
def changeAt? (dotted : Bool) (change : Origin → Entries → Option Entries) :
    Origin → List String → Entries → Option Entries
  | origin, [], entries => change origin entries
  | _, name :: path, entries =>
    match find? name entries with
    | none => do
      let origin : Origin := ⟨true, dotted⟩
      let inner ← changeAt? dotted change origin path []
      some (entries ++ [(name, .table origin inner)])
    | some (.value _) => none
    | some (.table origin inner) => do
      if dotted && !origin.isImplied then none
      else
        let inner ← changeAt? dotted change origin path inner
        some (replace name (.table origin inner) entries)
    | some (.tables items) =>
      match items.reverse with
      | [] => none
      | last :: before => do
        let last ← changeAt? dotted change .written path last
        some (replace name (.tables (last :: before).reverse) entries)

/-- Adds an entry under a key with at least one part. A dotted key ends in a table that a dotted
key made, a plain key in one that it did not. -/
def addEntry? (path : List String) (value : Value) (entries : Entries) : Option Entries :=
  match path.getLast? with
  | none => none
  | some name =>
    let parents := path.dropLast
    changeAt? true
      (fun origin inner =>
        if origin.isDotted == parents.isEmpty then none
        else if (find? name inner).isSome then none
        else some (inner ++ [(name, .value value)]))
      .written parents entries

mutual

/-- The value a node stands for. -/
def valueOf : Node → Value
  | .value value => value
  | .table _ entries => .table (values entries)
  | .tables items => .tables (valuesOfItems items)

/-- The values of entries. -/
def values : Entries → List (String × Value)
  | [] => []
  | (name, node) :: rest => (name, valueOf node) :: values rest

/-- The values of the entries of each table of a list. -/
def valuesOfItems : List Entries → List (List (String × Value))
  | [] => []
  | entries :: rest => values entries :: valuesOfItems rest

end

end Section

/-- Which section is open. -/
inductive OpenSection where
  /-- The entries before the first header. -/
  | top
  /-- The table at a path. -/
  | table (path : List String)
  /-- A new table of the list at a path. -/
  | item (path : List String)

/-- A document that has been read up to some line: the closed sections, and the open one. -/
structure Layout where
  root : Section.Entries
  current : OpenSection
  entries : Section.Entries

namespace Layout

/-- The document before its first line. -/
def empty : Layout := ⟨[], .top, []⟩

/-- Adds an entry to the open section. -/
def addEntry? (layout : Layout) (path : List String) (value : Value) : Option Layout :=
  (Section.addEntry? path value layout.entries).map fun entries => { layout with entries }

/-- The root once the open section is closed. -/
def close? (layout : Layout) : Option Section.Entries :=
  match layout.current with
  | .top => some layout.entries
  | .table path =>
    match path.getLast? with
    | none => none
    | some name =>
      Section.changeAt? false
        (fun _ inner => some (inner ++ [(name, .table .written layout.entries)]))
        .written path.dropLast layout.root
  | .item path =>
    match path.getLast? with
    | none => none
    | some name =>
      Section.changeAt? false
        (fun _ inner =>
          match Section.find? name inner with
          | none => some (inner ++ [(name, .tables [layout.entries])])
          | some (.tables items) =>
            some (Section.replace name (.tables (items ++ [layout.entries])) inner)
          | some _ => none)
        .written path.dropLast layout.root

/-- The table at a path that a header may open: one that is missing, or that other headers implied.
Its entries come first out of the root. -/
def takeTable? (path : List String) (root : Section.Entries) :
    Option (Section.Entries × Section.Entries) := do
  let name ← path.getLast?
  let parents := path.dropLast
  let implied ← Section.changeAt? false (fun _ inner => some inner) .written parents root
  let held ← findAt? parents implied
  match Section.find? name held with
  | none => some ([], implied)
  | some (.table origin entries) =>
    if origin.isImplied && !origin.isDotted then do
      let root ← Section.changeAt? false (fun _ inner => some (Section.remove name inner))
        .written parents implied
      some (entries, root)
    else none
  | some _ => none
where
  findAt? : List String → Section.Entries → Option Section.Entries
    | [], entries => some entries
    | name :: path, entries =>
      match Section.find? name entries with
      | some (.table _ inner) => findAt? path inner
      | some (.tables items) => items.getLast?.bind (findAt? path)
      | _ => none

/-- Closes the open section and opens the table at a path. -/
def openSection? (layout : Layout) (path : List String) : Option Layout := do
  let root ← layout.close?
  let (entries, root) ← takeTable? path root
  some ⟨root, .table path, entries⟩

/-- Closes the open section and opens a new table of the list at a path. -/
def openItem? (layout : Layout) (path : List String) : Option Layout := do
  let root ← layout.close?
  let name ← path.getLast?
  let root ← Section.changeAt? false
    (fun _ inner =>
      match Section.find? name inner with
      | none => some (inner ++ [(name, .tables [])])
      | some (.tables _) => some inner
      | some _ => none)
    .written path.dropLast root
  some ⟨root, .item path, []⟩

end Layout

end LiveShader.Document.Toml

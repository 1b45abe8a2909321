import LiveShader.Text.Find

/-!
# Paths

A path is a text whose parts stand between slashes. Empty parts and single dots lead nowhere, two
dots lead to the folder above. Nothing here looks at files.
-/
namespace LiveShader.Path

/-- The parts between the slashes of a path, empty ones too. -/
def parts (path : String) : List String :=
  (Text.pieces (· == '/') path.toList).map String.ofList

/-- Whether a path starts at the root. -/
def isAbsolute (path : String) : Bool := path.toList.head? == some '/'

/-- Whether a part leads anywhere. -/
def isStep (part : String) : Bool := !(part == "" || part == ".")

/-- The name of the file that a path ends with. A path that ends by leading up has none. -/
def fileName? (path : String) : Option String :=
  match ((parts path).filter isStep).getLast? with
  | some last => if last = ".." then none else some last
  | none => none

/-- The path of the place that names lead to from the root. -/
def ofNames (names : List String) : String := "/" ++ String.intercalate "/" names

/-- The path of a name within a folder. -/
def join (folder name : String) : String :=
  if folder.isEmpty || folder.toList.getLast? == some '/' then folder ++ name
  else folder ++ "/" ++ name

end LiveShader.Path

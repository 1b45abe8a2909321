import LiveShader.Files.Fault
import LiveShader.Files.Path

/-!
# Trees of files

Folders that hold files and further folders, with one folder to work in. Paths are followed part
by part: whatever a part leads out of has to be a folder, so a file followed by a slash is refused,
and a folder that is left again has to exist.
-/
namespace LiveShader

/-- A file or a folder. -/
inductive FileNode where
  | file (content : ByteArray)
  | folder (entries : List (String × FileNode))

namespace FileNode

/-- The entries after one of them has been put in, in place of one of the same name. -/
def putEntry (name : String) (node : FileNode) (entries : List (String × FileNode)) :
    List (String × FileNode) :=
  (name, node) :: entries.filter fun entry => entry.1 != name

/-- The node that a list of names leads to. -/
def at? : List String → FileNode → Option FileNode
  | [], node => some node
  | name :: rest, .folder entries => (entries.lookup name).bind (at? rest)
  | _ :: _, .file _ => none

/-- The node with a file at a list of names. Folders on the way are made, and a file that stands
in the way gives way. -/
def write (content : ByteArray) : List String → FileNode → FileNode
  | [], _ => .file content
  | name :: rest, node =>
    let entries := match node with
      | .folder entries => entries
      | .file _ => []
    .folder (putEntry name (write content rest ((entries.lookup name).getD (.folder []))) entries)

/-- The node without what stands at a list of names. -/
def remove : List String → FileNode → FileNode
  | [], node => node
  | _, .file content => .file content
  | [name], .folder entries => .folder (entries.filter fun entry => entry.1 != name)
  | name :: rest, .folder entries =>
    match entries.lookup name with
    | some node => .folder (putEntry name (remove rest node) entries)
    | none => .folder entries

end FileNode

/-- A tree and the folder in which relative paths start. -/
structure FileTree where
  root : FileNode
  working : List String

namespace FileTree

/-- The longest name that a file may have, in bytes. -/
def longestName : Nat := 255

/-- The first length of a path, in bytes, that is refused as a whole. -/
def pathLimit : Nat := 4096

/-- Follows parts from a place, which is given by its names from the last to the first. -/
def follow (root : FileNode) : List String → List String → Except ReadFault (List String)
  | here, [] => .ok here
  | here, part :: rest =>
    match root.at? here.reverse with
    | none => .error .notFound
    | some (.file _) => .error .notADirectory
    | some (.folder entries) =>
      if !Path.isStep part then follow root here rest
      else if part = ".." then follow root here.tail rest
      else if longestName < part.utf8ByteSize then .error .nameTooLong
      else
        match entries.lookup part with
        | some _ => follow root (part :: here) rest
        | none => .error .notFound

/-- The names of the place that a path leads to, from the root on. -/
def resolve (tree : FileTree) (path : String) : Except ReadFault (List String) :=
  if path.isEmpty then .error .notFound
  else if path.toList.contains '\x00' then .error .invalidPath
  else if pathLimit ≤ path.utf8ByteSize then .error .nameTooLong
  else
    let start := if Path.isAbsolute path then [] else tree.working.reverse
    (follow tree.root start (Path.parts path)).map List.reverse

/-- Whether a path leads anywhere. -/
def exists? (tree : FileTree) (path : String) : Bool :=
  match tree.resolve path with
  | .ok _ => true
  | .error _ => false

/-- The text of the file at a path. -/
def readText (tree : FileTree) (path : String) : Except ReadFault String :=
  match tree.resolve path with
  | .error fault => .error fault
  | .ok names =>
    match tree.root.at? names with
    | some (.file content) =>
      match String.fromUTF8? content with
      | some text => .ok text
      | none => .error .invalidText
    | some (.folder _) => .error .isADirectory
    | none => .error .notFound

/-- The names that a path within the working folder spells. -/
def namesOf (tree : FileTree) (path : String) : List String :=
  tree.working ++ (Path.parts path).filter Path.isStep

/-- The tree with a file at a path within the working folder. -/
def write (tree : FileTree) (path : String) (content : ByteArray) : FileTree :=
  { tree with root := tree.root.write content (tree.namesOf path) }

/-- The tree without the file at a path within the working folder. -/
def remove (tree : FileTree) (path : String) : FileTree :=
  { tree with root := tree.root.remove (tree.namesOf path) }

/-- The tree whose only place is an empty folder to work in. -/
def bare (working : List String) : FileTree :=
  ⟨working.foldr (fun name node => .folder [(name, node)]) (.folder []), working⟩

end FileTree

end LiveShader

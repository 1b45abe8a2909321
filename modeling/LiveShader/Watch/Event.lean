import LiveShader.Files.Path

/-!
# File events

What a watcher of a folder is told, and which of it concerns the watched file. Editors often put a
new file in the place of the old one, so the folder is watched and events are told apart by name.
-/
namespace LiveShader.Watch

/-- What happened to files. -/
inductive Change where
  | created
  | modified
  | removed
  | accessed
  /-- Something else, or nothing that can be named. -/
  | other
  deriving DecidableEq

/-- Something that happened to the files at some paths. -/
structure Event where
  change : Change
  paths : List String

/-- Whether an event may mean that the file of a name has new content. -/
def Event.touches (event : Event) (fileName : String) : Bool :=
  (event.change == .created || event.change == .modified) &&
    event.paths.any fun path => Path.fileName? path == some fileName

end LiveShader.Watch

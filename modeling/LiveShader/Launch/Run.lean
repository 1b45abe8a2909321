import LiveShader.Launch.CommandLine
import LiveShader.Launch.RunError
import LiveShader.Session.Notice
import LiveShader.Shader.Listing

/-!
# Running a shader

How a run starts: the configuration is read and checked, what the command line says is put over it,
the shader's text is read, and only then a window is opened. The text that was read is the first
that the window gets, and the watcher is set up after that. Files, window and log are known by their
answers, so that what is said here holds of any of them.
-/
namespace LiveShader

/-- Files as a program sees them. -/
structure FileAccess (m : Type → Type) where
  readText : String → m (Except ReadFault String)
  /-- Whether a path leads anywhere. -/
  exists? : String → m Bool
  /-- The names of the place that a path leads to, from the root on. -/
  resolve : String → m (Except ReadFault (List String))

/-- What a run is to watch. -/
structure WatchTarget where
  /-- The names of the folder, from the root on. -/
  folder : List String
  fileName : String
  /-- The name of the document that the file's texts belong to. -/
  document : String
  /-- How long the file must rest before it is read. -/
  debounce : Duration

/-- All that a run needs of its surroundings. -/
structure System (m : Type → Type) where
  files : FileAccess m
  log : LogLine → m Unit
  openWindow : WindowOptions → m (Except WindowError Unit)
  /-- Hands the window a source and the name of its document. -/
  eval : String → String → m (Except ProxyError Unit)
  /-- Starts to watch a file. -/
  watch : WatchTarget → m Unit
  /-- Serves the console and the window until the window closes. The path is the shader's. -/
  converse : String → m (Except WindowError Unit)

/-- A run that can start: the window's options, the shader's path and text, and how long its file
must rest if it is to be watched. -/
structure LaunchPlan where
  options : WindowOptions
  path : String
  source : String
  debounce : Option Duration

namespace Launch

/-- The options of the window: what the configuration says, with the command line's word over it. -/
def windowOptions (config : Config) (arguments : RunArguments) : WindowOptions :=
  { title := config.window.title
    size := config.window.size
    smallSize := config.window.smallSize
    context := arguments.context.getD config.runtime.context
    presentation := if arguments.small then .small else .fullscreen
    session :=
      { SessionOptions.standard with
        idleFrames := arguments.idleFrames.getD config.runtime.idleFrames
        defaults := config.defaults } }

/-- The line of the log for a configuration. -/
def configLine (message path : String) : LogLine :=
  ⟨.debug, "shadelive::run", message, [("path", path)]⟩

variable {m : Type → Type} [Monad m]

/-- The line of the log for a file that is watched from now on. -/
def watchLine (target : WatchTarget) : LogLine :=
  ⟨.info, "shadelive::watch", "watching for shader changes",
    [("dir", Path.ofNames target.folder)]⟩

/-- Reads the configuration at a path. -/
def readConfig (system : System m) (path : String) : ExceptT RunError m Config := do
  match ← system.files.readText path with
  | .error fault => throw (.unreadableConfig path fault)
  | .ok text =>
    match Config.ofToml text with
    | .error error => throw (.refusedConfig path error)
    | .ok config =>
      system.log (configLine "loaded config" path)
      pure config

/-- Reads the configuration. One that is named has to be there; the user's own may be missing. -/
def loadConfig (system : System m) (environment : Environment) (named : Option String) :
    ExceptT RunError m Config := do
  match named with
  | some path => readConfig system path
  | none =>
    let path := environment.file
    if ← system.files.exists? path then readConfig system path
    else
      system.log (configLine "no config file; using defaults" path)
      pure .standard

/-- Does all that comes before a window. -/
def prepare (system : System m) (environment : Environment) (arguments : RunArguments) :
    ExceptT RunError m LaunchPlan := do
  match arguments.shader with
  | none => throw .noShader
  | some path =>
    let config ← loadConfig system environment arguments.config
    match ← system.files.readText path with
    | .error fault => throw (.unreadableShader path fault)
    | .ok source =>
      let watches := config.watch.enabled && !arguments.noWatch
      pure ⟨windowOptions config arguments, path, source,
        if watches then some config.watch.debounce else none⟩

/-- What is to be watched for a path, which is also the name of the document. -/
def watchTarget (files : FileAccess m) (path : String) (debounce : Duration) :
    ExceptT RunError m WatchTarget := do
  match ← files.resolve path with
  | .error fault => throw (.unresolvedShader path fault)
  | .ok names =>
    match names.getLast? with
    | none => throw (.noFolder "/")
    | some fileName => pure ⟨names.dropLast, fileName, path, debounce⟩

/-- Runs a shader until its window closes. -/
def run (system : System m) (environment : Environment) (arguments : RunArguments) :
    ExceptT RunError m Unit := do
  let plan ← prepare system environment arguments
  if let .error error ← system.openWindow plan.options then throw (.window error)
  if let .error error ← system.eval plan.source plan.path then throw (.request error)
  match plan.debounce with
  | some debounce =>
    let target ← watchTarget system.files plan.path debounce
    system.watch target
    system.log (watchLine target)
  | none => pure ()
  if let .error error ← system.converse plan.path then throw (.window error)

/-- The text that shows a shader as the driver sees it. -/
def wrap (files : FileAccess m) (path : String) (context : Option ContextChoice) :
    ExceptT RunError m String := do
  match ← files.readText path with
  | .error fault => throw (.unreadableShader path fault)
  | .ok source =>
    pure (renderListing source (if context = some .desktop then .glsl330 else .gles300))

end Launch

end LiveShader

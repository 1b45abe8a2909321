import LiveShader.Desktop.Context
import LiveShader.Duration.Basic
import LiveShader.NameTable
import LiveShader.Text.Blank
import LiveShader.Uniform.Shape

/-!
# Configuration

What a user can set in a file: the window, the frame rate's idle rule, whether the shader's file is
watched, and first values of uniforms. A configuration is checked after it has been read; the first
rule that it breaks is the one that is reported, and presets are checked in the order of their
names.
-/
namespace LiveShader

/-- The first values of a uniform, written as one number or as a list. -/
inductive Preset where
  | scalar (value : Float32)
  | components (values : List Float32)

/-- The values of a preset. -/
def Preset.values : Preset → List Float32
  | .scalar value => [value]
  | .components values => values

/-- How the window looks. -/
structure WindowSection where
  title : String
  size : Size
  smallSize : Size

/-- How the session runs. -/
structure RuntimeSection where
  /-- How many frames a still shader draws after its last change. -/
  idleFrames : Nat
  context : ContextChoice

/-- How the shader's file is watched. -/
structure WatchSection where
  enabled : Bool
  /-- How long the file must rest before it is read again. -/
  debounce : Duration

/-- A configuration. -/
structure Config where
  version : Nat
  window : WindowSection
  runtime : RuntimeSection
  watch : WatchSection
  presets : NameTable Preset

/-- The window of a configuration that says nothing about it. -/
def WindowSection.standard : WindowSection := ⟨"shadelive", ⟨1280, 720⟩, ⟨480, 270⟩⟩

/-- The running of a configuration that says nothing about it. -/
def RuntimeSection.standard : RuntimeSection := ⟨100, .auto⟩

/-- The watching of a configuration that says nothing about it. -/
def WatchSection.standard : WatchSection := ⟨true, ⟨150000000, by decide⟩⟩

/-- The rule of a configuration that is broken. -/
inductive ConfigFault where
  | version (found : Nat)
  | windowSize
  | smallSize
  | idleFrames
  | blankPresetName
  | reservedPreset (name : String)
  | emptyPreset (name : String)
  deriving DecidableEq

/-- The words for a broken rule. -/
def ConfigFault.message (fault : ConfigFault) : String :=
  "invalid configuration: " ++
    match fault with
    | .version found => s!"unsupported config version {found}; expected 1"
    | .windowSize => "window width and height must be greater than zero"
    | .smallSize => "window small_width and small_height must be greater than zero"
    | .idleFrames => "runtime.idle_frames must be greater than zero"
    | .blankPresetName => "uniform preset names may not be empty"
    | .reservedPreset name => s!"uniform '{name}' is driven by the runtime and cannot be preset"
    | .emptyPreset name => s!"uniform '{name}' preset must contain at least one value"

namespace Config

/-- The configuration of a user without a file. -/
def standard : Config := ⟨1, .standard, .standard, .standard, .empty⟩

/-- The first values of uniforms, as plain lists. -/
def defaults (config : Config) : NameTable (List Float32) :=
  config.presets.map fun _ preset => preset.values

/-- Whether a size has no area. -/
def isFlat (size : Size) : Bool := size.width == 0 || size.height == 0

/-- The rule that a preset breaks. -/
def presetFault? (name : String) (preset : Preset) : Option ConfigFault :=
  if (Text.trim name.toList).isEmpty then some .blankPresetName
  else if isReserved name then some (.reservedPreset name)
  else if preset.values.isEmpty then some (.emptyPreset name)
  else none

/-- The first rule that a configuration breaks. -/
def fault? (config : Config) : Option ConfigFault :=
  if config.version != 1 then some (.version config.version)
  else if isFlat config.window.size then some .windowSize
  else if isFlat config.window.smallSize then some .smallSize
  else if config.runtime.idleFrames == 0 then some .idleFrames
  else config.presets.entries.findSome? fun (name, preset) => presetFault? name preset

end Config

end LiveShader

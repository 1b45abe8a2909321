import LiveShader.Config.Basic
import LiveShader.Document.Decode
import LiveShader.Document.Toml
import LiveShader.Duration.Spelled
import LiveShader.Word

/-!
# Configurations as documents

A configuration is a table with a section for each part. Everything but the version may be left
out. Parts are read in the order in which the document gives them, and only a document that fits as
a whole is checked against the rules of configurations.
-/
namespace LiveShader

open Document

/-- Why a document gives no configuration. -/
inductive ConfigError where
  /-- The text follows no document's rules. -/
  | malformed
  /-- A part of the document is not what it should be. -/
  | misfit (misfit : Misfit)
  /-- The configuration breaks a rule. -/
  | invalid (fault : ConfigFault)
  deriving DecidableEq

namespace Config

/-- Reads a number that a 32-bit word holds. -/
def readWord (format : Format) (value : Value) : Decoded Nat :=
  readNatural format (wordLimit 32) "u32" value

/-- A duration that may be missing because it would be too long. -/
def held : Option Duration → Decoded Duration
  | some duration => .ok duration
  | none => .error .overflow

/-- Reads a number of seconds. -/
def readSeconds (value : Float) : Decoded Duration :=
  match Decimal.BinaryFormat.double.decode value.toBits.toNat with
  | .finite false significand exponent =>
    held (Duration.ofNanoseconds? (Duration.nearestNanoseconds significand exponent))
  | _ => .error (.custom "duration must be a finite, non-negative number")

/-- Reads a length of time: a number of seconds, or a text that spells it. -/
def readDuration (format : Format) : Value → Decoded Duration
  | .text text =>
    match Duration.readSpelled text with
    | .ok duration => .ok duration
    | .error .outOfRange => .error .overflow
    | .error fault => .error (.custom s!"invalid duration '{text}': {fault.message}")
  | .integer n =>
    if n < 0 then .error (.custom "duration must be non-negative")
    else held (Duration.ofSeconds? n.toNat)
  | .float value => readSeconds value
  | found =>
    mismatch format found "a duration as number of seconds or human-readable string"

/-- Reads one entry of the window's section. -/
def readWindowEntry (format : Format) (name : String) (value : Value) (part : WindowSection) :
    Decoded WindowSection :=
  let word (change : UInt32 → WindowSection) : Decoded WindowSection :=
    (readWord format value).map fun n => change (UInt32.ofNat n)
  match name with
  | "title" => (readText format value).map fun title => { part with title }
  | "width" => word fun width => { part with size.width := width }
  | "height" => word fun height => { part with size.height := height }
  | "small_width" => word fun width => { part with smallSize.width := width }
  | "small_height" => word fun height => { part with smallSize.height := height }
  | _ => .ok part

/-- Reads one entry of the runtime's section. -/
def readRuntimeEntry (format : Format) (name : String) (value : Value)
    (part : RuntimeSection) : Decoded RuntimeSection :=
  match name with
  | "idle_frames" => (readWord format value).map fun idleFrames => { part with idleFrames }
  | "dialect" =>
    (readVariant format ContextChoice.all value).map fun context => { part with context }
  | _ => .ok part

/-- Reads one entry of the watcher's section. -/
def readWatchEntry (format : Format) (name : String) (value : Value) (part : WatchSection) :
    Decoded WatchSection :=
  match name with
  | "enabled" => (readBoolean format value).map fun enabled => { part with enabled }
  | "debounce" => (readDuration format value).map fun debounce => { part with debounce }
  | _ => .ok part

/-- Reads the numbers of a list. -/
def readSingles (format : Format) : List Value → Decoded (List Float32)
  | [] => .ok []
  | item :: rest => do
    let value ← readSingle format item
    let values ← readSingles format rest
    pure (value :: values)

/-- Reads a preset: a number, or a list of numbers. -/
def readPreset (format : Format) (value : Value) : Decoded Preset :=
  let read : Decoded Preset := match value.items? with
    | some items => (readSingles format items).map .components
    | none => (readSingle format value).map .scalar
  match read with
  | .ok preset => .ok preset
  | .error _ => .error (.custom "data did not match any variant of untagged enum UniformPreset")

/-- Reads the presets. -/
def readPresets (format : Format) (value : Value) : Decoded (NameTable Preset) :=
  match value.entries? with
  | some entries =>
    readEntries (fun name value table => (readPreset format value).map (table.insert name))
      entries .empty
  | none => mismatch format value "a map"

/-- Reads one entry of a configuration whose version may not have been seen yet. -/
def readEntry (format : Format) (name : String) (value : Value)
    (read : Option Nat × Config) : Decoded (Option Nat × Config) :=
  let (version, config) := read
  match name with
  | "version" => (readWord format value).map fun version => (some version, config)
  | "window" =>
    (readRecord format "struct WindowSection"
      ["title", "width", "height", "small_width", "small_height"]
      (readWindowEntry format) .standard value).map fun window => (version, { config with window })
  | "runtime" =>
    (readRecord format "struct RuntimeSection" ["idle_frames", "dialect"]
      (readRuntimeEntry format) .standard value).map fun runtime =>
        (version, { config with runtime })
  | "watch" =>
    (readRecord format "struct WatchSection" ["enabled", "debounce"]
      (readWatchEntry format) .standard value).map fun watch => (version, { config with watch })
  | "uniforms" =>
    (readPresets format value).map fun presets => (version, { config with presets })
  | _ => .ok read

/-- Reads a configuration without checking it. -/
def read (format : Format) (value : Value) : Decoded Config := do
  match value with
  | .list [] => .error (.wrongLength 0 "struct LiveConfig with 5 elements")
  | _ =>
    let (version, config) ← readRecord format "struct LiveConfig"
      ["version", "window", "runtime", "watch", "uniforms"] (readEntry format)
      (none, standard) value
    let version ← requireField "version" version
    pure { config with version }

/-- A configuration that is read and keeps the rules. -/
def ofValue (format : Format) (value : Value) : Except ConfigError Config :=
  match read format value with
  | .error misfit => .error (.misfit misfit)
  | .ok config =>
    match config.fault? with
    | some fault => .error (.invalid fault)
    | none => .ok config

/-- The configuration that a text in TOML gives. -/
def ofToml (text : String) : Except ConfigError Config :=
  match Toml.read? text with
  | some value => ofValue .toml value
  | none => .error .malformed

end Config

end LiveShader

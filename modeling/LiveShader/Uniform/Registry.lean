import LiveShader.Graphics.Driver
import LiveShader.NameTable
import LiveShader.Text.Find
import LiveShader.Uniform.Slot

/-!
# The registry of uniforms

Which uniforms a shader has is known only once its program is linked. The registry keeps a slot
for each, by name. After a new program is linked the driver's list is taken in: names that stay
keep their components, new names start with zeros, and names that are gone are dropped. A frame
runs the modifiers of the slots that hosts see and then uploads every slot that has a location.
-/
namespace LiveShader

/-- A uniform of a linked program as the registry takes it in: the name without the suffix of
arrays, the number of components, and the place to upload to. -/
structure Declared (Location : Type) where
  name : String
  shape : Shape
  count : Nat
  location : Option Location

/-- A reported name without the suffix of arrays. -/
def baseName (reported : String) : String :=
  match Text.beforeBack? "[0]".toList reported.toList with
  | some name => String.ofList name
  | none => reported

/-- The number of components of a reported uniform: whole elements, and at least one. -/
def ActiveUniform.componentCount (active : ActiveUniform) : Nat :=
  (Shape.ofType active.type).components * (max active.size 1).toNat

/-- Asks the driver where each uniform of a list is. -/
def locateAll {handles : Handles} {State : Type} (driver : Driver handles State)
    (program : handles.Program) : List ActiveUniform → State →
      List (Declared handles.Location) × State
  | [], state => ([], state)
  | active :: rest, state =>
    let (location, state) := driver.uniformLocation program active.name state
    let (declared, state) := locateAll driver program rest state
    (⟨baseName active.name, Shape.ofType active.type, active.componentCount, location⟩ :: declared,
      state)

/-- The uniforms that a linked program declares, in the driver's order. -/
def Driver.declared {handles : Handles} {State : Type} (driver : Driver handles State)
    (program : handles.Program) (state : State) : List (Declared handles.Location) × State :=
  let (actives, state) := driver.activeUniforms program state
  locateAll driver program actives state

/-- The names that a rebuild touched. -/
structure RebuildReport where
  added : List String
  resized : List String
  removed : List String
  deriving DecidableEq

namespace RebuildReport

/-- A report that names nothing. -/
def unchanged : RebuildReport := ⟨[], [], []⟩

/-- Whether a report names nothing. -/
def isUnchanged (report : RebuildReport) : Bool :=
  report.added.isEmpty && report.resized.isEmpty && report.removed.isEmpty

end RebuildReport

/-- The values that the runtime itself gives to a frame. -/
structure FrameInputs where
  /-- The session's time in seconds. -/
  time : Float32
  /-- The size that is drawn into. -/
  resolution : Size

/-- An upload that a driver refused. -/
structure FailedUpload where
  uniform : String
  error : UploadError
  /-- An upload of the slot has failed before since the slot was bound. -/
  again : Bool
  deriving DecidableEq

/-- The slots of the running shader by name. -/
structure Registry (Location : Type) where
  slots : NameTable (Slot Location)

namespace Registry

variable {Location : Type}

/-- The registry without slots. -/
def empty : Registry Location := ⟨.empty⟩

/-- How many slots there are, reserved ones included. -/
def size (registry : Registry Location) : Nat := registry.slots.size

/-- Whether there are no slots at all. -/
def isEmpty (registry : Registry Location) : Bool := registry.slots.isEmpty

/-- Whether a name has a slot, reserved or not. -/
def contains (registry : Registry Location) (name : String) : Bool := registry.slots.contains name

/-- Whether the shader reads the time, and so moves by itself. -/
def readsTime (registry : Registry Location) : Bool := registry.contains timeUniform

/-- The slot of a name that hosts see. -/
def get? (registry : Registry Location) (name : String) : Option (Slot Location) :=
  if isReserved name then none else registry.slots.get? name

/-- The names hosts see, in order. -/
def names (registry : Registry Location) : List String :=
  registry.slots.names.filter fun name => !isReserved name

/-- What hosts see. -/
def snapshot (registry : Registry Location) : NameTable SlotSnapshot :=
  (registry.slots.filter fun name _ => !isReserved name).map fun _ slot => slot.snapshot

/-- Takes in one declared uniform: its slot is resized where needed and bound anew. -/
def declare (declared : Declared Location) (registry : Registry Location)
    (report : RebuildReport) : Registry Location × RebuildReport :=
  match registry.slots.get? declared.name with
  | some slot =>
    if slot.count = declared.count then
      (⟨registry.slots.insert declared.name (slot.bind declared.location declared.shape)⟩, report)
    else
      (⟨registry.slots.insert declared.name
          ((slot.resize declared.count).bind declared.location declared.shape)⟩,
        { report with resized := report.resized ++ [declared.name] })
  | none =>
    (⟨registry.slots.insert declared.name
        ((Slot.fresh declared.shape declared.count).bind declared.location declared.shape)⟩,
      { report with added := report.added ++ [declared.name] })

/-- Takes in declared uniforms one after the other. -/
def declareAll : List (Declared Location) → Registry Location → RebuildReport →
    Registry Location × RebuildReport
  | [], registry, report => (registry, report)
  | declared :: rest, registry, report =>
    let (registry, report) := registry.declare declared report
    declareAll rest registry report

/-- Drops the slots whose names are not declared. -/
def prune (declared : List (Declared Location)) (registry : Registry Location) :
    Registry Location × List String :=
  let stays (name : String) : Bool := declared.any fun uniform => uniform.name == name
  (⟨registry.slots.filter fun name _ => stays name⟩,
    registry.slots.names.filter fun name => !stays name)

/-- The registry for a new program, and what changed. -/
def rebuild (registry : Registry Location) (declared : List (Declared Location)) :
    Registry Location × RebuildReport :=
  let (registry, report) := declareAll declared registry .unchanged
  let (registry, removed) := registry.prune declared
  (registry, { report with removed })

/-- Changes one component of a slot; without a slot of the name nothing changes. -/
def edit (registry : Registry Location) (name : String) (index : Nat) (change : Edit Modifier) :
    Registry Location :=
  ⟨registry.slots.adjust name fun slot => slot.edit index change⟩

/-- Sets the components of a slot from the first on, for as long as there are values and
components. -/
def seed (slot : Slot Location) (values : List Float32) : Slot Location :=
  go slot 0 (values.take slot.count)
where
  go (slot : Slot Location) (index : Nat) : List Float32 → Slot Location
    | [] => slot
    | value :: rest => go (slot.edit index (.set value)) (index + 1) rest

/-- Gives the added names their initial values, where there are any. Reserved names have none. -/
def applyDefaults (registry : Registry Location) (defaults : NameTable (List Float32))
    (added : List String) : Registry Location :=
  added.foldl (fun registry name =>
    match isReserved name, defaults.get? name with
    | false, some values => ⟨registry.slots.adjust name fun slot => seed slot values⟩
    | _, _ => registry) registry

/-- Runs the modifiers of the slots that hosts see. -/
def advance (elapsed : Float32) (registry : Registry Location) : Registry Location :=
  ⟨registry.slots.map fun name slot => if isReserved name then slot else slot.advance elapsed⟩

/-- The values that a frame uploads for a slot. -/
def payload (inputs : FrameInputs) (name : String) (slot : Slot Location) : List Float32 :=
  if name = timeUniform then [inputs.time]
  else if name = resolutionUniform then
    [inputs.resolution.width.toFloat32, inputs.resolution.height.toFloat32]
  else slot.values

/-- Uploads one slot, if it has a location. A failure is added to the failures, and tells whether it
is the first since the slot was bound. -/
def sendSlot {handles : Handles} {State : Type} (driver : Driver handles State)
    (inputs : FrameInputs) (name : String) (slot : Slot handles.Location)
    (state : State × List FailedUpload) : Slot handles.Location × (State × List FailedUpload) :=
  match slot.location with
  | none => (slot, state)
  | some location =>
    match driver.upload location slot.shape (payload inputs name slot) state.1 with
    | (.ok (), after) => (slot, (after, state.2))
    | (.error error, after) =>
      (slot.markWarned, (after, state.2 ++ [⟨name, error, slot.warned⟩]))

/-- Uploads all slots in name order. A refused upload stops neither the others nor the frame. -/
def send {handles : Handles} {State : Type} (driver : Driver handles State)
    (registry : Registry handles.Location) (inputs : FrameInputs) (state : State) :
    Registry handles.Location × List FailedUpload × State :=
  let (slots, after, failures) := registry.slots.stepThrough (sendSlot driver inputs) (state, [])
  (⟨slots⟩, failures, after)

end Registry

end LiveShader

import LiveShader.Document.Decode
import LiveShader.Session.Command
import LiveShader.Word

/-!
# Commands as documents

Commands and modifiers as JSON values. The kind of a command stands under `op`, that of a modifier
under `kind`; the other fields depend on it. The kind is looked for first, wherever it stands. A
list may stand for a table: the kind first, the fields in order.
-/
namespace LiveShader

open Document

/-- The two places where a kind may stand. -/
inductive TagPlace where
  /-- In the value itself. -/
  | outer
  /-- In a value within another, where kinds may also be given by their number. -/
  | inner

/-- Reads a kind. -/
def readTag (place : TagPlace) (kinds : List String) (value : Value) : Decoded String :=
  match place, value with
  | _, .text name => variantNamed (kinds.map fun kind => (kind, kind)) name
  | .inner, .integer n =>
    if 0 ≤ n ∧ n < wordLimit 64 then
      match kinds[n.toNat]? with
      | some kind => .ok kind
      | none =>
        .error (.wrongValue (value.describe .json)
          ("variant index 0 <= i < " ++ toString kinds.length))
    else mismatch .json value "variant identifier"
  | _, _ => mismatch .json value "variant identifier"

/-- The kind of a value, and the rest of the value. -/
def splitTag (place : TagPlace) (owner tag : String) (kinds : List String) (value : Value) :
    Decoded (String × Value) :=
  match value with
  | .table entries =>
    match entry? tag entries with
    | none => .error (.missingField tag)
    | some found =>
      (readTag place kinds found).map fun kind =>
        (kind, .table (entries.filter fun entry => entry.1 != tag))
  | .list [] => .error (.missingField tag)
  | .list (found :: rest) => (readTag place kinds found).map fun kind => (kind, .list rest)
  | _ => mismatch .json value ("internally tagged enum " ++ owner)

/-- The words for a number of fields or items. -/
def countWords (count : Nat) (word : String) : String :=
  toString count ++ " " ++ word ++ if count = 1 then "" else "s"

/-- Reads the fields of a kind, from a table by name or from a list by position. -/
def readKind {Record : Type} (owner : String) (fields : List String)
    (step : String → Value → Record → Decoded Record) (initial : Record) (value : Value) :
    Decoded Record :=
  match value with
  | .list items =>
    match readEntries step (fields.zip items) initial with
    | .error misfit => .error misfit
    | .ok record =>
      if items.length < fields.length then
        .error (.wrongLength items.length
          ("struct variant " ++ owner ++ " with " ++ countWords fields.length "element"))
      else if fields.length < items.length then
        .error (.wrongLength items.length (countWords fields.length "element" ++ " in sequence"))
      else .ok record
  | .table entries => readEntries step entries initial
  | _ => .ok initial

/-- The numbers of a modifier that have been read. -/
structure ModifierFields where
  target : Option Float32
  rate : Option Float32
  speed : Option Float32

/-- Reads one number of a modifier, if the kind has a field of the name. -/
def readModifierField (fields : List String) (name : String) (value : Value)
    (record : ModifierFields) : Decoded ModifierFields :=
  if fields.contains name then
    (readSingle .json value).map fun number =>
      match name with
      | "target" => { record with target := some number }
      | "rate" => { record with rate := some number }
      | _ => { record with speed := some number }
  else .ok record

/-- Reads the formula of a modifier. -/
def readModifier (place : TagPlace) (value : Value) : Decoded Formula := do
  let (kind, rest) ← splitTag place "ModifierSpec" "kind" ["approach", "decay", "ramp"] value
  let read (owner : String) (fields : List String) : Decoded ModifierFields :=
    readKind owner fields (readModifierField fields) ⟨none, none, none⟩ rest
  match kind with
  | "approach" => do
    let fields ← read "ModifierSpec::Approach" ["target", "rate"]
    let target ← requireField "target" fields.target
    let rate ← requireField "rate" fields.rate
    pure (.approach target rate)
  | "decay" => do
    let fields ← read "ModifierSpec::Decay" ["rate"]
    let rate ← requireField "rate" fields.rate
    pure (.decay rate)
  | _ => do
    let fields ← read "ModifierSpec::Ramp" ["speed"]
    let speed ← requireField "speed" fields.speed
    pure (.ramp speed)

/-- The fields of a command that have been read. -/
structure CommandFields where
  name : Option String
  index : Option Nat
  number : Option Float32
  modifier : Option Formula

/-- Reads one field of a command, if the kind has a field of the name. -/
def readCommandField (fields : List String) (name : String) (value : Value)
    (record : CommandFields) : Decoded CommandFields :=
  if fields.contains name then
    match name with
    | "name" => (readText .json value).map fun text => { record with name := some text }
    | "index" =>
      (readNatural .json (wordLimit 64) "usize" value).map fun index =>
        { record with index := some index }
    | "modifier" =>
      (readModifier .inner value).map fun modifier => { record with modifier := some modifier }
    | _ => (readSingle .json value).map fun number => { record with number := some number }
  else .ok record

/-- The kinds of commands. -/
def commandKinds : List String := ["set", "increment", "animate", "clear", "get", "dump"]

/-- Reads a command. -/
def readCommand (value : Value) : Decoded Command := do
  let (kind, rest) ← splitTag .outer "UniformCommand" "op" commandKinds value
  let read (owner : String) (more : List String) : Decoded (CommandFields × String × Nat) := do
    let fields := ["name", "index"] ++ more
    let record ← readKind ("UniformCommand::" ++ owner) fields (readCommandField fields)
      ⟨none, none, none, none⟩ rest
    let name ← requireField "name" record.name
    let index ← requireField "index" record.index
    pure (record, name, index)
  match kind with
  | "set" => do
    let (record, name, index) ← read "Set" ["value"]
    let value ← requireField "value" record.number
    pure (.change name index (.set value))
  | "increment" => do
    let (record, name, index) ← read "Increment" ["delta"]
    let delta ← requireField "delta" record.number
    pure (.change name index (.increment delta))
  | "animate" => do
    let (record, name, index) ← read "Animate" ["modifier"]
    let modifier ← requireField "modifier" record.modifier
    pure (.change name index (.animate modifier))
  | "clear" => do
    let (_, name, index) ← read "Clear" []
    pure (.change name index .clear)
  | "get" => do
    let (_, name, index) ← read "Get" []
    pure (.get name index)
  | _ => do
    let _ ← readKind "UniformCommand::Dump" [] (fun _ _ => pure) () rest
    pure .dump

end LiveShader

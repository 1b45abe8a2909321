import LiveShader.NameTable
import LiveShader.Uniform.Slot

/-!
# Host commands

What a host can ask of the uniforms of a running shader, and what it is answered.
-/
namespace LiveShader

/-- A request about the uniforms. -/
inductive Command where
  /-- Change one component. -/
  | change (name : String) (index : Nat) (edit : Edit Formula)
  /-- Read one component. -/
  | get (name : String) (index : Nat)
  /-- Read everything hosts see. -/
  | dump
  deriving DecidableEq

/-- The uniform a request is about; a dump is about none in particular. -/
def Command.name? : Command → Option String
  | .change name _ _ => some name
  | .get name _ => some name
  | .dump => none

/-- The answer to a request. -/
inductive Reply where
  | applied
  | value (value : Float32)
  | snapshot (uniforms : NameTable SlotSnapshot)
  /-- Hosts see no uniform of the name; reserved names are never seen. -/
  | unknown (name : String)
  | noShader

end LiveShader

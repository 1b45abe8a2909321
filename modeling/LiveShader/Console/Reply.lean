import LiveShader.Decimal.Layout
import LiveShader.Document.Outline
import LiveShader.Session.Command

/-!
# Printed replies

What the console prints for a reply: nothing once a change is applied, a number by its shortest
digits, and a dump as an indented document.
-/
namespace LiveShader.Console

open Document

/-- A slot as it is printed. -/
def outlineSnapshot (snapshot : SlotSnapshot) : Outline :=
  .table
    [("shape", .text snapshot.shape.name),
     ("count", .natural snapshot.values.length),
     ("values", .list (snapshot.values.map fun value =>
       .scalar (Decimal.Layout.documentSingle.single value))),
     ("animated", .list (snapshot.animated.map Outline.natural))]

/-- All slots as they are printed. -/
def outlineSnapshots (uniforms : NameTable SlotSnapshot) : Outline :=
  .table (uniforms.entries.map fun (name, snapshot) => (name, outlineSnapshot snapshot))

/-- The text printed for a reply. -/
def replyText? : Reply → Option String
  | .applied => none
  | .value value => some (Decimal.Layout.plain.single value)
  | .snapshot uniforms => some ((outlineSnapshots uniforms).indented 0)
  | .unknown name => some ("unknown uniform '" ++ name ++ "'")
  | .noShader => some "no shader is running"

end LiveShader.Console

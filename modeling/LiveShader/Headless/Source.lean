import LiveShader.Decimal.Layout
import LiveShader.Decimal.Read
import LiveShader.Text.Blank
import LiveShader.Text.Find
import LiveShader.Text.Lines
import LiveShader.Text.Numeral
import LiveShader.Uniform.Shape
import LiveShader.Word

/-!
# Sources without a compiler

What can be said of a shader's source by reading its lines. A line `uniform TYPE NAME;` declares a
uniform, and `NAME[N]` an array. As in a compiler that leaves out what is not needed, a uniform
counts only if some other line mentions its name. A line with an `#error` fails the stage, and the
comment `// link-error` fails the link.
-/
namespace LiveShader.Headless

open Text

/-- The line number and the text of the first line with an `#error`, where `number` is the number
of the first of the lines. -/
def firstError? : Nat → List (List Char) → Option (Nat × List Char)
  | _, [] => none
  | number, line :: rest =>
    if holds "#error".toList line then some (number, line) else firstError? (number + 1) rest

/-- What an `#error` line says: the line without blanks around it and without the directive. -/
def errorText (line : List Char) : String :=
  String.ofList (trim (dropFronts "#error".toList (trim line)))

/-- The log for an `#error` in a line. -/
def errorLog (number : Nat) (line : List Char) : String :=
  let place := "ERROR: 0:" ++ String.ofList (Decimal.digitText number) ++ ": "
  place ++ "'#error' : " ++ errorText line ++ "\n" ++ place ++ "'' : compilation terminated\n"

/-- The type a word of the language names. Words other than those listed name samplers. -/
def typeOfWord (word : List Char) : UniformType :=
  match String.ofList word with
  | "float" => .float
  | "vec2" => .vec2
  | "vec3" => .vec3
  | "vec4" => .vec4
  | "int" => .other 0x1404
  | "mat4" => .other 0x8B5C
  | _ => .other 0x8B5E

/-- A declared array size: digits with an optional sign, within 32 bits. -/
def arraySize? (text : List Char) : Option Int :=
  let (negative, digits) := Decimal.takeSign text
  if digits.isEmpty || !digits.all Char.isDigit then none
  else
    let size := Decimal.readDigits 0 digits
    if negative then if size ≤ wordLimit 31 then some (-(size : Int)) else none
    else if size < wordLimit 31 then some size
    else none

/-- The name and size of a declared uniform. -/
def readDeclarator? (declared : List Char) : Option (String × Int) :=
  match splitAtMark? '[' declared with
  | none => some (String.ofList declared, 1)
  | some (base, length) =>
    (arraySize? (dropBacks [']'] length)).map fun size => (String.ofList base ++ "[0]", size)

/-- The uniform a line declares. -/
def readDeclaration? (line : List Char) : Option ActiveUniform := do
  let rest ← afterFront? "uniform ".toList (trim line)
  match words (dropBacks [';'] (trimEnd rest)) with
  | type :: declared :: _ => do
    let (name, size) ← readDeclarator? declared
    some ⟨name, typeOfWord type, size⟩
  | _ => none

/-- Whether a line is a declaration, and so does not count as a use. -/
def isDeclaration (line : List Char) : Bool :=
  (afterFront? "uniform ".toList (trimStart line)).isSome

/-- Whether a line that declares nothing mentions a word. -/
def mentions (sourceLines : List (List Char)) (word : List Char) : Bool :=
  sourceLines.any fun line => !isDeclaration line &&
    (pieces (fun c => !(isAlphanumeric c || c == '_')) line).contains word

/-- The uniforms of a source that are used, in the order of their declarations. -/
def activeUniforms (sourceLines : List (List Char)) : List ActiveUniform :=
  (sourceLines.filterMap readDeclaration?).filter fun active =>
    mentions sourceLines (dropBacks "[0]".toList active.name.toList)

end LiveShader.Headless

/-!
# Modifiers

A modifier moves a component from frame to frame: from the value before the frame and the seconds
since the frame before, it gives the value of the frame. A request can only name a formula, which
remembers nothing. A program that holds a session may hand over any function, and such a function
may keep a state of its own.
-/
namespace LiveShader

/-- The greater of a rate and zero; what is no number counts as zero. -/
def clampRate (rate : Float32) : Float32 :=
  if 0 < rate then rate else 0

/-- A way to move that a request can name. -/
inductive Formula where
  /-- Smooth movement towards a target; the rate is per second. -/
  | approach (target rate : Float32)
  /-- Exponential decay towards zero. -/
  | decay (rate : Float32)
  /-- Growth by a fixed amount per second. -/
  | ramp (speed : Float32)
  deriving DecidableEq

/-- The part of a distance that is left after some seconds at a rate. -/
def remaining (rate elapsed : Float32) : Float32 :=
  Float32.exp (-clampRate rate * elapsed)

/-- The value that a formula gives to a frame. -/
def Formula.apply (formula : Formula) (value elapsed : Float32) : Float32 :=
  match formula with
  | .approach target rate => value + (target - value) * (1 - remaining rate elapsed)
  | .decay rate => value * remaining rate elapsed
  | .ramp speed => value + speed * elapsed

/-- What moves a component: a function of the value and the seconds, together with what it
remembers. Whatever state such a function keeps is decided by the calls that were made of it, so its
answers are given here by those calls. -/
structure Modifier where
  /-- The answer to a call, by the calls before it (the latest first), the value and the seconds. -/
  answer : List (Float32 × Float32) → Float32 → Float32 → Float32
  /-- The calls made so far, the latest first: the value and the seconds of each. -/
  calls : List (Float32 × Float32)

/-- The value that a modifier gives to a frame. -/
def Modifier.apply (modifier : Modifier) (value elapsed : Float32) : Float32 :=
  modifier.answer modifier.calls value elapsed

/-- A modifier once it has been called. -/
def Modifier.called (modifier : Modifier) (value elapsed : Float32) : Modifier :=
  { modifier with calls := (value, elapsed) :: modifier.calls }

/-- The modifier of a formula, which gives the same answer whatever was asked before. -/
def Formula.modifier (formula : Formula) : Modifier := ⟨fun _ => formula.apply, []⟩

end LiveShader

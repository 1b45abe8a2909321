import LiveShader.Word

/-!
# The render loop

The loop has no timer. It says whether another frame is wanted, how many seconds a frame should be
taken to last, and falls idle when a shader that does not read the time has drawn enough frames
since anything last changed.
-/
namespace LiveShader

/-- Whether frames are wanted. -/
inductive LoopState where
  | idle
  | animating
  deriving DecidableEq

/-- The word for a loop's state. -/
def LoopState.name : LoopState → String
  | .idle => "idle"
  | .animating => "animating"

/-- The seconds that the first frame after a start, a reload or a change is taken to last. -/
def nominalFrame : Float32 := 1 / 60

/-- The age at which a loop stops counting. -/
def oldestAge : Nat := wordLimit 32 - 1

/-- The schedule of one running shader. -/
structure RenderLoop where
  state : LoopState
  /-- The frames drawn since the last start, reload or change. -/
  age : Nat
  /-- The clock's reading for the frame before. -/
  previous : Option Float
  /-- How many frames a still shader draws before the loop falls idle. -/
  idleFrames : Nat
  deriving DecidableEq

namespace RenderLoop

/-- The loop of a shader that has just been started. -/
def start (idleFrames : Nat) : RenderLoop := ⟨.animating, 0, none, idleFrames⟩

/-- The loop after the program was replaced. -/
def restart (loop : RenderLoop) : RenderLoop :=
  { loop with state := .animating, age := 0, previous := none }

/-- The loop after a host changed something: it counts from zero and animates. -/
def wake (loop : RenderLoop) : RenderLoop := { loop with state := .animating, age := 0 }

/-- A difference of times, not below zero. What is no number counts as zero. -/
def clampElapsed (difference : Float) : Float :=
  if 0 < difference then difference else 0

/-- The seconds that a frame drawn now lasts. -/
def elapsed (loop : RenderLoop) (now : Float) : Float32 :=
  match loop.previous with
  | some previous =>
    if 0 < loop.age then (clampElapsed (now - previous)).toFloat32 else nominalFrame
  | none => nominalFrame

/-- The first frame since a renewal lasts a sixtieth of a second, whatever the clock says. -/
theorem elapsed_of_young {loop : RenderLoop} (young : loop.age = 0) (now : Float) :
    loop.elapsed now = 1 / 60 := by
  unfold elapsed
  cases loop.previous with
  | none => rfl
  | some previous =>
    rw [young]
    rfl

/-- Any other frame lasts for as long as the clock says that it took since the frame before, and
for no time if the clock went back. -/
theorem elapsed_of_old {loop : RenderLoop} {before : Float} (old : 0 < loop.age)
    (previous : loop.previous = some before) (now : Float) :
    loop.elapsed now = (if 0 < now - before then now - before else 0).toFloat32 := by
  unfold elapsed
  rw [previous]
  exact if_pos old

/-- The loop once a frame has begun. -/
def beginFrame (loop : RenderLoop) (now : Float) : RenderLoop := { loop with previous := some now }

/-- The loop once a frame has ended: it is a frame older, and falls idle when the shader is still
and the age has passed the limit. -/
def endFrame (loop : RenderLoop) (readsTime : Bool) : RenderLoop :=
  let age := min (loop.age + 1) oldestAge
  { loop with
    age
    state := if !readsTime && loop.idleFrames < age then .idle else loop.state }

/-- Whether another frame is wanted. -/
def isAnimating (loop : RenderLoop) : Bool := loop.state == .animating

/-- Draws frames while they are wanted, but no more than `left`, and counts them on from `drawn`.
The frame of a number is drawn at that sixtieth of a second. -/
def animate (readsTime : Bool) : Nat → Nat → RenderLoop → Nat × RenderLoop
  | 0, drawn, loop => (drawn, loop)
  | left + 1, drawn, loop =>
    if loop.isAnimating then
      animate readsTime left (drawn + 1)
        ((loop.beginFrame (Float.ofNat drawn / 60)).endFrame readsTime)
    else (drawn, loop)

end RenderLoop

end LiveShader

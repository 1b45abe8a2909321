/-!
# Clocks

A clock is asked for the time once per frame. It is known by its readings, one for each time it is
asked, and can be set back to the first of them.
-/
namespace LiveShader

/-- A clock that has been read a number of times since it was last set back. -/
structure Clock where
  reading : Nat → Float
  taken : Nat

namespace Clock

/-- The next reading, and the clock after it. -/
def sample (clock : Clock) : Float × Clock :=
  (clock.reading clock.taken, { clock with taken := clock.taken + 1 })

/-- The clock set back to its first reading. -/
def reset (clock : Clock) : Clock := { clock with taken := 0 }

/-- A clock that starts at a time and goes on by a fixed step each time it is read. -/
def stepped (start step : Float) : Clock := ⟨fun n => start + step * Float.ofNat n, 0⟩

end Clock

/-- A clock that counts from an instant of a steady counter of nanoseconds. -/
structure Stopwatch where
  origin : Nat

/-- The seconds from the origin to an instant, none before it. -/
def Stopwatch.seconds (watch : Stopwatch) (instant : Nat) : Float :=
  Float.ofNat (instant - watch.origin) / 1000000000

end LiveShader

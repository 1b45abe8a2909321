import LiveShader.Decimal.Binary
import LiveShader.Word

/-!
# Lengths of time

A duration is a whole number of nanoseconds, and its seconds fit a 64-bit word. Numbers of seconds
become durations when they fit; what lies between two nanoseconds goes to the nearer one, and a
half to the even one.
-/
namespace LiveShader

/-- The nanoseconds of a second. -/
def nanosecondsPerSecond : Nat := 1000000000

/-- The first number of nanoseconds that is too many for a duration. -/
def durationLimit : Nat := wordLimit 64 * nanosecondsPerSecond

/-- A length of time. -/
structure Duration where
  nanoseconds : Nat
  bounded : nanoseconds < durationLimit

namespace Duration

/-- The duration of so many nanoseconds. -/
def ofNanoseconds? (nanoseconds : Nat) : Option Duration :=
  if bounded : nanoseconds < durationLimit then some ⟨nanoseconds, bounded⟩ else none

/-- The duration of so many seconds. -/
def ofSeconds? (seconds : Nat) : Option Duration :=
  ofNanoseconds? (seconds * nanosecondsPerSecond)

/-- No time at all. -/
def zero : Duration := ⟨0, by decide⟩

/-- The whole seconds. -/
def seconds (duration : Duration) : Nat := duration.nanoseconds / nanosecondsPerSecond

/-- The nanoseconds beyond the whole seconds. -/
def fraction (duration : Duration) : Nat := duration.nanoseconds % nanosecondsPerSecond

/-- The nanoseconds nearest to `significand * 2 ^ exponent` seconds. -/
def nearestNanoseconds (significand : Nat) (exponent : Int) : Nat :=
  let scaled := significand * nanosecondsPerSecond
  if 0 ≤ exponent then scaled * Nat.pow 2 exponent.toNat
  else Decimal.roundHalfEven scaled (Nat.pow 2 (-exponent).toNat)

/-- The whole seconds of a duration fit into a word of 64 bits, as the nanoseconds of a duration are
bounded by the longest that can be held. -/
theorem seconds_lt (duration : Duration) : duration.seconds < wordLimit 64 :=
  Nat.div_lt_of_lt_mul (by simpa [durationLimit, Nat.mul_comm] using duration.bounded)

/-- The nanoseconds beside the whole seconds are fewer than a second has. -/
theorem fraction_lt (duration : Duration) : duration.fraction < nanosecondsPerSecond :=
  Nat.mod_lt _ (by decide)

end Duration

end LiveShader

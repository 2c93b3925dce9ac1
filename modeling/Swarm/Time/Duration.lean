/-!
# Durations

A duration is a whole number of nanoseconds whose seconds fit in 64 bits. Multiplication stops at the
longest one.
-/

namespace Swarm.Time

/-- The nanoseconds of the longest duration. -/
def maxNanos : Nat := UInt64.size * 1000000000 - 1

/-- A span of time. -/
structure Duration where
  /-- Its length in nanoseconds. -/
  nanos : Nat
  /-- Its seconds fit in 64 bits. -/
  le_max : nanos ≤ maxNanos
deriving DecidableEq

namespace Duration

/-- The duration of a number of nanoseconds, or the longest one. -/
def ofNanos (n : Nat) : Duration :=
  ⟨min n maxNanos, Nat.min_le_right ..⟩

/-- The duration of a number of seconds, or the longest one. -/
def ofSecs (n : Nat) : Duration := ofNanos (n * 1000000000)

instance : Inhabited Duration := ⟨ofNanos 0⟩

/-- The whole seconds of a duration. -/
def secs (d : Duration) : Nat := d.nanos / 1000000000

/-- The nanoseconds beyond the whole seconds. -/
def subsec (d : Duration) : Nat := d.nanos % 1000000000

/-- A multiple of a duration, or the longest one. -/
def times (d : Duration) (k : Nat) : Duration :=
  ofNanos (d.nanos * k)

/-- A count of units and of parts of a unit in `digits` decimal places, without the zeros that end
the places. -/
def decimal (units parts digits : Nat) (name : String) : String :=
  let places := Nat.toDigits 10 parts
  let places := List.replicate (digits - places.length) '0' ++ places
  let places := (places.reverse.dropWhile (· == '0')).reverse
  if places.isEmpty then s!"{units}{name}"
  else s!"{units}.{String.ofList places}{name}"

/-- A duration in the largest unit that it fills once: seconds, milli-, micro- or nanoseconds. -/
def text (d : Duration) : String :=
  if 0 < d.secs then decimal d.secs d.subsec 9 "s"
  else if 1000000 ≤ d.nanos then decimal (d.nanos / 1000000) (d.nanos % 1000000) 6 "ms"
  else if 1000 ≤ d.nanos then decimal (d.nanos / 1000) (d.nanos % 1000) 3 "µs"
  else decimal d.nanos 0 0 "ns"

end Duration

end Swarm.Time

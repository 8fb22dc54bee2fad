/-!
# PathSeal.Duration

Spans of time: a 64-bit count of seconds and a number of nanoseconds below one
second. Scaling stops at the longest span instead of wrapping around.

Timers run on whole milliseconds: a span is waited for as many ticks as cover
it, up to thirty years (`Duration.ticks`).
-/

namespace PathSeal

/-- A span of time. -/
structure Duration where
  seconds : UInt64
  /-- Nanoseconds beyond the whole seconds. -/
  nanos : Nat
  nanos_lt : nanos < 1000000000 := by omega
deriving DecidableEq

namespace Duration

/-- The length in nanoseconds. -/
def toNanos (d : Duration) : Nat :=
  d.seconds.toNat * 1000000000 + d.nanos

/-- The longest span. -/
def longest : Duration where
  seconds := 0xffffffffffffffff
  nanos := 999999999

/-- The span of a number of milliseconds. -/
def ofMillis (n : UInt64) : Duration where
  seconds := n / 1000
  nanos := n.toNat % 1000 * 1000000

/-- The span of a number of microseconds. -/
def ofMicros (n : UInt64) : Duration where
  seconds := n / 1000000
  nanos := n.toNat % 1000000 * 1000

/-- The span of a number of seconds. -/
def ofSeconds (n : UInt64) : Duration where
  seconds := n
  nanos := 0

/-- The whole milliseconds of a span. -/
def toMillis (d : Duration) : Nat :=
  d.toNanos / 1000000

/-- The longest time that a timer runs, in milliseconds: thirty years of 365 days. -/
def maxTicks : Nat := 30 * 365 * 86400 * 1000

/-- How many whole milliseconds a timer runs for a span: as many as cover it, but no more than any
timer runs. -/
def ticks (d : Duration) : Nat :=
  min ((d.toNanos + 999999) / 1000000) maxTicks

/-- The span `factor` times over, or the longest span if that is longer still. The nanoseconds are
scaled first and their whole seconds carried over. -/
def scale (d : Duration) (factor : Nat) : Duration :=
  let nanos := d.nanos * factor
  let seconds := d.seconds.toNat * factor + nanos / 1000000000
  if seconds < UInt64.size then
    ⟨seconds.toUInt64, nanos % 1000000000, Nat.mod_lt _ (by decide)⟩
  else longest

/-- A fraction of `digits` decimal places, without trailing zeros and with its point; empty if
it is zero. -/
def fractionText (digits n : Nat) : String :=
  if n = 0 then ""
  else
    let written := (Nat.toDigits 10 n)
    let padded := List.replicate (digits - written.length) '0' ++ written
    String.ofList ('.' :: (padded.reverse.dropWhile (· == '0')).reverse)

/-- A span in the largest of the units s, ms, µs and ns that it fills at least once. -/
def text (d : Duration) : String :=
  if d.seconds ≠ 0 then s!"{d.seconds.toNat}{fractionText 9 d.nanos}s"
  else if d.nanos ≥ 1000000 then s!"{d.nanos / 1000000}{fractionText 6 (d.nanos % 1000000)}ms"
  else if d.nanos ≥ 1000 then s!"{d.nanos / 1000}{fractionText 3 (d.nanos % 1000)}µs"
  else s!"{d.nanos}ns"

end Duration
end PathSeal

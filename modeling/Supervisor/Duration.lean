/-!
# Spans of time

A span is a number of seconds in 64 bits and a number of nanoseconds below one second. Arithmetic
stops at the longest span.

## Main definitions

* `Duration` - seconds and nanoseconds
* `Duration.mul` - a multiple of a span, or the longest one
* `Duration.describe` - the span in the largest unit of which it has at least one
-/

namespace Supervisor

/-- Nanoseconds in a second. -/
def nanosPerSecond : Nat := 1000000000

/-- How many seconds 64 bits can count. -/
def secondsLimit : Nat := 18446744073709551616

/-- A span of time. -/
structure Duration where
  secs : Nat
  nanos : Nat
  secs_lt : secs < secondsLimit
  nanos_lt : nanos < nanosPerSecond
  deriving DecidableEq, Repr

namespace Duration

/-- No time. -/
def zero : Duration := ⟨0, 0, by decide, by decide⟩

instance : Inhabited Duration := ⟨zero⟩

/-- The longest span. -/
def longest : Duration := ⟨secondsLimit - 1, nanosPerSecond - 1, by decide, by decide⟩

/-- The span in nanoseconds. -/
def toNanos (d : Duration) : Nat := d.secs * nanosPerSecond + d.nanos

/-- The given number of seconds and nanoseconds, or the longest span. -/
def ofParts (secs nanos : Nat) : Duration :=
  if h : secs + nanos / nanosPerSecond < secondsLimit then
    ⟨secs + nanos / nanosPerSecond, nanos % nanosPerSecond, h, Nat.mod_lt _ (by decide)⟩
  else longest

/-- A number of microseconds. -/
def ofMicros (n : Nat) : Duration := ofParts 0 (n * 1000)

/-- A number of milliseconds. -/
def ofMillis (n : Nat) : Duration := ofParts 0 (n * 1000000)

/-- A multiple of a span. The nanoseconds are multiplied first, and what makes whole seconds is
carried; a product that has too many seconds is the longest span. -/
def mul (d : Duration) (k : Nat) : Duration := ofParts (d.secs * k) (d.nanos * k)

/-- A number with up to `places` digits after the point, trailing zeros left out. -/
def decimal (whole fraction places : Nat) : String :=
  let written := Nat.toDigits 10 fraction
  let digits := List.replicate (places - written.length) '0' ++ written
  let kept := (digits.reverse.dropWhile (· = '0')).reverse
  if kept = [] then toString whole else toString whole ++ "." ++ String.ofList kept

/-- The span in the largest unit of which it has at least one. -/
def describe (d : Duration) : String :=
  if 0 < d.secs then decimal d.secs d.nanos 9 ++ "s"
  else if 1000000 ≤ d.nanos then decimal (d.nanos / 1000000) (d.nanos % 1000000) 6 ++ "ms"
  else if 1000 ≤ d.nanos then decimal (d.nanos / 1000) (d.nanos % 1000) 3 ++ "µs"
  else toString d.nanos ++ "ns"

end Duration

end Supervisor

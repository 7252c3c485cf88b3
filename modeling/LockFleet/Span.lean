/-!
# Spans of time

A span is a number of nanoseconds, at most `2 ^ 64` seconds less a nanosecond.

* `Span.ofMillis`, `Span.ofSeconds`, `Span.ofMicros`, `Span.longest`;
* `Span.double`: twice a span, the longest one if that is too long;
* `Span.millis`, `Span.millisUp`: whole milliseconds, rounded down and up;
* `Span.text`: the largest unit that fits, with as many decimals as needed.
-/

namespace LockFleet

/-- A length of time. -/
structure Span where
  nanos : Nat
  bounded : nanos < UInt64.size * 1000000000
  deriving DecidableEq, Repr

namespace Span

def nanosPerSecond : Nat := 1000000000

def nanosPerMilli : Nat := 1000000

/-- The longest span. -/
def longest : Span := ⟨UInt64.size * 1000000000 - 1, by decide⟩

/-- The span of a number of nanoseconds, or the longest one. -/
def ofNanos (n : Nat) : Span := if h : n < UInt64.size * 1000000000 then ⟨n, h⟩ else longest

/-- The span of a number of microseconds. -/
def ofMicros (n : Nat) : Span := ofNanos (n * 1000)

/-- The span of a number of milliseconds. -/
def ofMillis (n : Nat) : Span := ofNanos (n * nanosPerMilli)

/-- The span of a number of seconds. -/
def ofSeconds (n : Nat) : Span := ofNanos (n * nanosPerSecond)

/-- No time. -/
def zero : Span := ofNanos 0

instance : Inhabited Span := ⟨zero⟩

/-- The whole seconds. -/
def seconds (s : Span) : Nat := s.nanos / nanosPerSecond

/-- The nanoseconds besides the whole seconds. -/
def subNanos (s : Span) : Nat := s.nanos % nanosPerSecond

/-- The whole milliseconds. -/
def millis (s : Span) : Nat := s.nanos / nanosPerMilli

/-- The milliseconds, a part counted as one. -/
def millisUp (s : Span) : Nat := (s.nanos + (nanosPerMilli - 1)) / nanosPerMilli

/-- Twice the span, or the longest one. -/
def double (s : Span) : Span := ofNanos (2 * s.nanos)

/-! ### Text -/

/-- The digits of a fraction `part / 10 ^ places` without zeros at the end. -/
def fractionDigits (part places : Nat) : List Char :=
  let all := (List.range places).reverse.map fun i => Char.ofNat (48 + part / Nat.pow 10 i % 10)
  (all.reverse.dropWhile (· = '0')).reverse

/-- A number with a fraction `part / 10 ^ places`, as many decimals as needed. -/
def decimal (whole part places : Nat) : String :=
  match fractionDigits part places with
  | [] => toString whole
  | digits => toString whole ++ "." ++ String.ofList digits

/-- The span in seconds, milliseconds, microseconds or nanoseconds, the largest unit of which it
holds at least one. -/
def text (s : Span) : String :=
  if nanosPerSecond ≤ s.nanos then decimal s.seconds s.subNanos 9 ++ "s"
  else if nanosPerMilli ≤ s.nanos then decimal s.millis (s.nanos % nanosPerMilli) 6 ++ "ms"
  else if 1000 ≤ s.nanos then decimal (s.nanos / 1000) (s.nanos % 1000) 3 ++ "µs"
  else toString s.nanos ++ "ns"

end Span

end LockFleet

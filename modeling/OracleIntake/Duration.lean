import OracleIntake.Number.Scientific
import OracleIntake.Number.Shortest

/-!
# Durations

Lengths of time in whole nanoseconds, up to `2 ^ 64` seconds. Settings write a duration as a decimal number
of seconds that goes through a double: `readSeconds?` rounds the double to the nearest nanosecond, and
`secondsText` writes the double nearest to the duration with its shortest digits. Diagnostics write it in the
largest unit that gives a whole part.
-/
namespace OracleIntake

/-- A length of time in nanoseconds. -/
structure Duration where
  nanos : Nat
  fits : nanos < 18446744073709551616000000000
  deriving DecidableEq, Repr

namespace Duration

def zero : Duration := ⟨0, by decide⟩

instance : Inhabited Duration := ⟨zero⟩

def longest : Duration := ⟨18446744073709551615999999999, by decide⟩

/-- `n` nanoseconds, or the longest duration if that is shorter. -/
def saturated (n : Nat) : Duration :=
  if h : n < 18446744073709551616000000000 then ⟨n, h⟩ else longest

def ofNanos? (n : Nat) : Option Duration :=
  if h : n < 18446744073709551616000000000 then some ⟨n, h⟩ else none

def ofSeconds (n : Nat) : Duration := saturated (n * 1000000000)

def ofMillis (n : Nat) : Duration := saturated (n * 1000000)

theorem nanos_saturated (n : Nat) : (saturated n).nanos = min n longest.nanos := by
  unfold saturated
  split
  · next h => simp only [longest]; omega
  · next h => simp only [longest]; omega

def seconds (d : Duration) : Nat := d.nanos / 1000000000

/-- Nanoseconds beyond the whole seconds. -/
def subseconds (d : Duration) : Nat := d.nanos % 1000000000

def isZero (d : Duration) : Bool := d.nanos == 0

/-- `n` times the duration, or the longest one. -/
def times (d : Duration) (n : Nat) : Duration := saturated (d.nanos * n)

def shorter (d e : Duration) : Duration := if d.nanos ≤ e.nanos then d else e

theorem nanos_shorter (d e : Duration) : (shorter d e).nanos = min d.nanos e.nanos := by
  unfold shorter
  split <;> omega

/-- The duration as a double: whole seconds and the fraction are rounded each, then their sum. -/
def toDouble (d : Duration) : Magnitude :=
  (Magnitude.nearest d.seconds 1).add ((Magnitude.nearest d.subseconds 1).div (Magnitude.nearest 1000000000 1))

/-- The nearest duration to a number of seconds, if there is one. -/
def ofDouble? (x : Magnitude) : Option Duration :=
  if x.num < 18446744073709551616 * x.den then ofNanos? (roundEven (x.num * 1000000000) x.den) else none

/-- Reads a number of seconds, through the nearest double; a negative one is refused unless it rounds to zero. -/
def readSeconds? (s : String) : Option Duration := do
  let x ← Scientific.read? s.toList
  let m ← x.nearest?
  if x.negative && !m.isZero then none else ofDouble? m

def secondsText (d : Duration) : String := String.ofList d.toDouble.positional

/-- A whole part and a fraction of `places` digits without its last zeros. -/
def decimal (whole fraction places : Nat) : String :=
  let ds := (((Numeral.padded places fraction).reverse.dropWhile (· == '0')).reverse)
  toString whole ++ (if ds.isEmpty then "" else "." ++ String.ofList ds)

/-- The duration in seconds, milliseconds, microseconds or nanoseconds, the largest unit with a whole part. -/
def text (d : Duration) : String :=
  if 0 < d.seconds then decimal d.seconds d.subseconds 9 ++ "s"
  else if 1000000 ≤ d.nanos then decimal (d.nanos / 1000000) (d.nanos % 1000000) 6 ++ "ms"
  else if 1000 ≤ d.nanos then decimal (d.nanos / 1000) (d.nanos % 1000) 3 ++ "µs"
  else toString d.nanos ++ "ns"

end Duration
end OracleIntake

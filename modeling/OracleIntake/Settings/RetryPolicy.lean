import OracleIntake.Duration

/-!
# Retry policies

How often an attempt to connect is repeated, and how long to wait before each retry: the same time always, or
twice the time of the retry before, up to a greatest wait.

* `nanos_delay_linear`, `nanos_delay_exponential`: the waits in nanoseconds.
-/
namespace OracleIntake

/-- How the wait grows from retry to retry. -/
inductive Backoff where
  | linear
  | exponential (longest : Duration)
  deriving DecidableEq, Repr

structure RetryPolicy where
  /-- Retries after the first attempt. -/
  retries : Nat := 3
  /-- The wait before the first retry. -/
  delay : Duration := .ofSeconds 2
  backoff : Backoff := .linear
  deriving DecidableEq, Repr

namespace RetryPolicy

/-- The greatest number of 32 bits. -/
def maxCount : Nat := max32

/-- The attempts of a cycle, the first one included. -/
def maxAttempts (p : RetryPolicy) : Nat := min (p.retries + 1) maxCount

/-- Two to the power `n`, or the greatest number of 32 bits. The exponent is cut first, so that no huge power
is ever computed. -/
def doubled (n : Nat) : Nat := min (twoTo (min n 32)) maxCount

/-- The wait before retry `n`; the first is retry 1. -/
def delayBefore (p : RetryPolicy) (n : Nat) : Duration :=
  match p.backoff with
  | .linear => p.delay
  | .exponential longest => (p.delay.times (doubled (n - 1))).shorter longest

theorem nanos_delay_linear {p : RetryPolicy} (h : p.backoff = .linear) (n : Nat) :
    (p.delayBefore n).nanos = p.delay.nanos := by
  simp [delayBefore, h]

theorem nanos_delay_exponential {p : RetryPolicy} {longest : Duration}
    (h : p.backoff = .exponential longest) (n : Nat) :
    (p.delayBefore n).nanos = min (p.delay.nanos * doubled (n - 1)) longest.nanos := by
  have := longest.fits
  simp only [delayBefore, h, Duration.nanos_shorter, Duration.times, Duration.nanos_saturated, Duration.longest]
  omega

end RetryPolicy
end OracleIntake

import Mathlib.Algebra.Group.Nat.Defs
import OracleIntake.Settings.RetryPolicy

/-!
# Exact waits

The waits of an exponential backoff are computed in two steps that both stop at a bound: a power of two of at most 32
bits, and the product of a duration with it. Together with the greatest wait they come to one formula on whole
nanoseconds, for every retry and every duration.

* `doubled_eq`: the power, although its exponent is cut first.
* `times_of_fits`, `times_of_overflow`: the product, in seconds and nanoseconds with a carry.
* `delayBefore_exact`: the waits of a policy.
-/
namespace OracleIntake

namespace Duration
variable {d : Duration} {n : Nat}

theorem nanos_eq (d : Duration) : d.nanos = d.seconds * 1000000000 + d.subseconds := by
  rw [seconds, subseconds]
  omega

/-- The product in nanoseconds has the products of both parts. -/
theorem nanos_mul (d : Duration) (n : Nat) :
    d.nanos * n = d.seconds * n * 1000000000 + d.subseconds * n := by
  rw [nanos_eq d, Nat.add_mul, Nat.mul_right_comm]

/-- Whole seconds of the product of the nanoseconds are carried over. -/
theorem times_of_fits (h : d.seconds * n + d.subseconds * n / 1000000000 < 18446744073709551616) :
    (d.times n).seconds = d.seconds * n + d.subseconds * n / 1000000000 ∧
      (d.times n).subseconds = d.subseconds * n % 1000000000 := by
  have hlongest : longest.nanos = 18446744073709551615999999999 := rfl
  have hnanos : (d.times n).nanos = d.seconds * n * 1000000000 + d.subseconds * n := by
    rw [times, nanos_saturated, nanos_mul, hlongest]
    omega
  have hseconds : (d.times n).seconds = (d.times n).nanos / 1000000000 := rfl
  have hsubseconds : (d.times n).subseconds = (d.times n).nanos % 1000000000 := rfl
  rw [hseconds, hsubseconds, hnanos]
  omega

/-- A product whose seconds take more than 64 bits is the longest duration. -/
theorem times_of_overflow (h : 18446744073709551616 ≤ d.seconds * n + d.subseconds * n / 1000000000) :
    d.times n = longest := by
  have hnot : ¬ d.nanos * n < 18446744073709551616000000000 := by
    rw [nanos_mul]
    omega
  rw [times, saturated, dif_neg hnot]

end Duration

namespace RetryPolicy
variable {p : RetryPolicy} {longest : Duration} {m n : Nat}

/-- Cutting the exponent changes nothing: from 32 on the power is at its bound. -/
theorem doubled_eq (n : Nat) : doubled n = min (2 ^ n) (2 ^ 32 - 1) := by
  have hmax : maxCount = 2 ^ 32 - 1 := rfl
  rw [doubled, hmax, twoTo]
  rcases Nat.le_total n 32 with hn | hn
  · rw [Nat.min_eq_left hn]
    rfl
  · have hpow : 2 ^ 32 ≤ 2 ^ n := Nat.pow_le_pow_right (by decide) hn
    rw [Nat.min_eq_right hn, Nat.min_eq_right (by omega : 2 ^ 32 - 1 ≤ 2 ^ n)]
    decide

theorem doubled_mono (h : m ≤ n) : doubled m ≤ doubled n := by
  have hpow : 2 ^ m ≤ 2 ^ n := Nat.pow_le_pow_right (by decide) h
  rw [doubled_eq, doubled_eq]
  omega

/-- Below the bound each power is twice the one before. -/
theorem doubled_succ (h : n < 31) : doubled (n + 1) = 2 * doubled n := by
  have hpow : 2 ^ n ≤ 2 ^ 30 := Nat.pow_le_pow_right (by decide) (Nat.le_of_lt_succ h)
  rw [doubled_eq, doubled_eq, Nat.pow_succ]
  omega

theorem delayBefore_le (h : p.backoff = .exponential longest) (n : Nat) :
    (p.delayBefore n).nanos ≤ longest.nanos := by
  rw [nanos_delay_exponential h]
  exact Nat.min_le_right _ _

theorem delayBefore_mono (p : RetryPolicy) (h : m ≤ n) : (p.delayBefore m).nanos ≤ (p.delayBefore n).nanos := by
  cases hbackoff : p.backoff with
  | linear => exact Nat.le_of_eq ((nanos_delay_linear hbackoff m).trans (nanos_delay_linear hbackoff n).symm)
  | exponential longest =>
    have hproduct : p.delay.nanos * doubled (m - 1) ≤ p.delay.nanos * doubled (n - 1) :=
      Nat.mul_le_mul_left _ (doubled_mono (Nat.sub_le_sub_right h 1))
    rw [nanos_delay_exponential hbackoff, nanos_delay_exponential hbackoff]
    omega

theorem delayBefore_succ (h : p.backoff = .exponential longest) (hpos : 1 ≤ n) (hlow : n < 32) :
    (p.delayBefore (n + 1)).nanos = min (2 * (p.delayBefore n).nanos) longest.nanos := by
  obtain ⟨k, rfl⟩ := Nat.exists_eq_add_of_le' hpos
  have hproduct : p.delay.nanos * doubled (k + 1) = 2 * (p.delay.nanos * doubled k) := by
    rw [doubled_succ (Nat.lt_of_succ_lt_succ hlow), Nat.mul_left_comm]
  simp only [nanos_delay_exponential h, Nat.add_sub_cancel, hproduct]
  omega

/-- The waits of a policy, in whole nanoseconds. -/
structure Waits (p : RetryPolicy) : Prop where
  linear : p.backoff = .linear → ∀ n, (p.delayBefore n).nanos = p.delay.nanos
  /-- No step of the computation overflows or wraps: the wait is this number. -/
  exponential : ∀ longest, p.backoff = .exponential longest → ∀ n, 1 ≤ n →
    (p.delayBefore n).nanos = min (p.delay.nanos * min (2 ^ (n - 1)) (2 ^ 32 - 1)) longest.nanos
  bounded : ∀ longest, p.backoff = .exponential longest → ∀ n, (p.delayBefore n).nanos ≤ longest.nanos
  /-- A later wait is not shorter. -/
  grows : ∀ m n, m ≤ n → (p.delayBefore m).nanos ≤ (p.delayBefore n).nanos
  /-- Until the greatest wait is reached, each wait is twice the one before. -/
  doubles : ∀ longest, p.backoff = .exponential longest → ∀ n, 1 ≤ n → n < 32 →
    (p.delayBefore (n + 1)).nanos = min (2 * (p.delayBefore n).nanos) longest.nanos

/-- **Exact waits.** -/
theorem delayBefore_exact (p : RetryPolicy) : Waits p where
  linear h n := nanos_delay_linear h n
  exponential longest h n _ := by rw [nanos_delay_exponential h, doubled_eq]
  bounded _ h n := delayBefore_le h n
  grows _ _ h := delayBefore_mono p h
  doubles _ h _ hpos hlow := delayBefore_succ h hpos hlow

/-- Behind retry 32 the factor stays the greatest number of 32 bits. -/
example : (delayBefore ⟨40, ⟨1, by decide⟩, .exponential .longest⟩ 33).nanos = 4294967295 := by decide

end RetryPolicy
end OracleIntake

/-!
# Decimal numerals

A numeral is written by `Nat.repr` and read by the functions here: digits only, with an optional sign. A
bound is checked on the number that was read, never by wrapping. The bounds that numbers have all over stand
here too, with the powers of the two bases.

* `natural?_toDigits`, `integer?_toDigits`: a numeral within the bound is read as its number.
* `natural?_eq_some_iff`, `integer?_eq_some_iff`: which texts are read, and as which numbers.
-/
namespace OracleIntake

def twoTo (n : Nat) : Nat := Nat.pow 2 n

def tenTo (n : Nat) : Nat := Nat.pow 10 n

theorem twoTo_pos (n : Nat) : 0 < twoTo n := Nat.pow_pos (by decide)

theorem tenTo_pos (n : Nat) : 0 < tenTo n := Nat.pow_pos (by decide)

/-- The greatest number of 32 bits. -/
def max32 : Nat := 4294967295

/-- The greatest number of 64 bits. -/
def max64 : Nat := 18446744073709551615

namespace Numeral

/-- The number written by a non-empty list of digits. -/
def digits? (s : List Char) : Option Nat :=
  if s.isEmpty || !s.all Char.isDigit then none else some (Nat.ofDigitChars 10 s 0)

/-- A number from 0 to `max`; a plus sign in front is allowed. -/
def natural? (max : Nat) (s : List Char) : Option Nat :=
  let n := match s with
    | '+' :: ds => digits? ds
    | ds => digits? ds
  n.filter (· ≤ max)

/-- A number of at most 63 bits and a sign in two's complement; either sign is allowed. -/
def integer? (s : List Char) : Option Int :=
  let n : Option Int := match s with
    | '+' :: ds => (digits? ds).map Int.ofNat
    | '-' :: ds => (digits? ds).map fun n => -(n : Int)
    | ds => (digits? ds).map Int.ofNat
  n.filter fun i => -9223372036854775808 ≤ i ∧ i < 9223372036854775808

theorem digits?_toDigits (n : Nat) : digits? (Nat.toDigits 10 n) = some n := by
  have h : (Nat.toDigits 10 n).all Char.isDigit = true :=
    List.all_eq_true.2 fun c hc => Nat.isDigit_of_mem_toDigits (by decide) (by decide) hc
  have h0 : Nat.toDigits 10 n ≠ [] := Nat.toDigits_ne_nil
  simp [digits?, h, h0, Nat.ofDigitChars_toDigits]

/-- A numeral starts with a digit, so with no sign. -/
theorem ne_cons_of_not_isDigit {n : Nat} {c : Char} (hc : c.isDigit = false) (s : List Char) :
    Nat.toDigits 10 n ≠ c :: s := fun h => by
  have hdigit : c.isDigit = true :=
    Nat.isDigit_of_mem_toDigits (by decide) (by decide) (h ▸ List.mem_cons_self : c ∈ Nat.toDigits 10 n)
  rw [hc] at hdigit
  cases hdigit

theorem natural?_toDigits {max n : Nat} (h : n ≤ max) : natural? max (Nat.toDigits 10 n) = some n := by
  unfold natural?
  split
  · next s heq => exact absurd heq (ne_cons_of_not_isDigit rfl s)
  · rw [digits?_toDigits, Option.filter_some, if_pos (by simpa using h)]

theorem integer?_toDigits {n : Nat} (h : n < 9223372036854775808) : integer? (Nat.toDigits 10 n) = some (n : Int) := by
  unfold integer?
  split
  · next s heq => exact absurd heq (ne_cons_of_not_isDigit rfl s)
  · next s heq => exact absurd heq (ne_cons_of_not_isDigit rfl s)
  · rw [digits?_toDigits, Option.map_some, Option.filter_some, if_pos]
    · rfl
    · simp only [Int.ofNat_eq_natCast, decide_eq_true_eq]
      omega

/-! ## Which texts are numerals -/

/-- The digits write the number in decimal. -/
def Writes (s : List Char) (n : Nat) : Prop :=
  s ≠ [] ∧ (∀ c ∈ s, c.isDigit = true) ∧ Nat.ofDigitChars 10 s 0 = n

/-- The text writes the number, with or without a plus sign in front. -/
def WritesUnsigned (s : List Char) (n : Nat) : Prop := Writes s n ∨ ∃ ds, s = '+' :: ds ∧ Writes ds n

/-- The text writes the number, with either sign in front or without one. -/
def WritesSigned (s : List Char) (i : Int) : Prop :=
  (∃ n : Nat, WritesUnsigned s n ∧ (n : Int) = i) ∨ ∃ ds, ∃ n : Nat, s = '-' :: ds ∧ Writes ds n ∧ -(n : Int) = i

section
variable {s : List Char} {c : Char} {max n : Nat} {i : Int}

theorem not_writes_cons (hc : c.isDigit = false) (n : Nat) : ¬ Writes (c :: s) n := fun h => by
  rw [h.2.1 c List.mem_cons_self] at hc
  cases hc

theorem digits?_eq_some_iff : digits? s = some n ↔ Writes s n := by
  have htest : (s.isEmpty || !s.all Char.isDigit) = false ↔ s ≠ [] ∧ ∀ c ∈ s, c.isDigit = true := by
    rw [Bool.or_eq_false_iff, List.isEmpty_eq_false_iff, Bool.not_eq_false', List.all_eq_true]
  rw [digits?, Writes, ← and_assoc, ← htest]
  cases s.isEmpty || !s.all Char.isDigit <;> simp

theorem natural?_eq_some_iff : natural? max s = some n ↔ WritesUnsigned s n ∧ n ≤ max := by
  unfold natural? WritesUnsigned
  split
  · next ds => simp [Option.filter_eq_some_iff, digits?_eq_some_iff, not_writes_cons]
  · next hplus =>
    have hunsigned : ∀ ds, s ≠ '+' :: ds := hplus
    simp [Option.filter_eq_some_iff, digits?_eq_some_iff, hunsigned]

theorem integer?_eq_some_iff :
    integer? s = some i ↔ WritesSigned s i ∧ -9223372036854775808 ≤ i ∧ i < 9223372036854775808 := by
  unfold integer? WritesSigned WritesUnsigned
  split
  · next ds => simp [Option.filter_eq_some_iff, digits?_eq_some_iff, not_writes_cons]
  · next ds => simp [Option.filter_eq_some_iff, Option.bind_eq_some_iff, digits?_eq_some_iff, not_writes_cons]
  · next hplus hminus =>
    have hunsigned : ∀ ds, s ≠ '+' :: ds ∧ s ≠ '-' :: ds := fun ds => ⟨hplus ds, hminus ds⟩
    simp [Option.filter_eq_some_iff, digits?_eq_some_iff, hunsigned]

end

/-- `n` with at least `width` digits, zeros in front. -/
def padded (width n : Nat) : List Char :=
  let ds := Nat.toDigits 10 n
  List.replicate (width - ds.length) '0' ++ ds

end Numeral
end OracleIntake

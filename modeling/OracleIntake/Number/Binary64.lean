import OracleIntake.Number.Numeral

/-!
# Doubles as exact numbers

The finite binary64 numbers without a sign are the numbers `significand * 2 ^ exponent` with a significand
below `2 ^ 53`. Every operation is exact arithmetic on fractions followed by one rounding, to nearest with
ties to the even significand.

* `roundEven_le`, `le_roundEven`: a rounded quotient is within half a unit of the fraction.
-/
namespace OracleIntake

/-- The quotient `num / den` rounded to the nearest number; a tie goes to the even one. -/
def roundEven (num den : Nat) : Nat :=
  let q := num / den
  let r := num % den
  if den < 2 * r ∨ (2 * r = den ∧ q % 2 = 1) then q + 1 else q

theorem roundEven_le (num den : Nat) : 2 * (roundEven num den * den) ≤ 2 * num + den := by
  have h := Nat.div_add_mod num den
  have hc : num / den * den = den * (num / den) := Nat.mul_comm _ _
  unfold roundEven
  simp only
  split
  · next hr =>
    rw [Nat.add_mul, hc]
    omega
  · rw [hc]
    omega

theorem le_roundEven (num : Nat) {den : Nat} (h0 : 0 < den) :
    2 * num ≤ 2 * (roundEven num den * den) + den := by
  have h := Nat.div_add_mod num den
  have hc : num / den * den = den * (num / den) := Nat.mul_comm _ _
  have hm := Nat.mod_lt num h0
  unfold roundEven
  simp only
  split
  · rw [Nat.add_mul, hc]
    omega
  · next hr =>
    rw [hc]
    omega

/-- A finite double without its sign. -/
structure Magnitude where
  significand : Nat
  exponent : Int
  deriving DecidableEq, Repr

namespace Magnitude

def zero : Magnitude := ⟨0, -1074⟩

def num (x : Magnitude) : Nat := x.significand * twoTo x.exponent.toNat

def den (x : Magnitude) : Nat := twoTo (-x.exponent).toNat

/-- The exponent of the greatest power of two that is at most `num / den`, for positive numbers. -/
def floorLog2 (num den : Nat) : Int :=
  let l : Int := (num.log2 : Int) - den.log2
  if den * twoTo l.toNat ≤ num * twoTo (-l).toNat then l else l - 1

/-- The double nearest to `num / den`, with no bound on the exponent above. -/
def nearest (num den : Nat) : Magnitude :=
  if num = 0 then zero
  else
    let e := max (floorLog2 num den - 52) (-1074)
    let q := roundEven (num * twoTo (-e).toNat) (den * twoTo e.toNat)
    if q = 9007199254740992 then ⟨4503599627370496, e + 1⟩ else ⟨q, e⟩

/-- The value is small enough for a finite double. -/
def isFinite (x : Magnitude) : Bool := x.exponent ≤ 971

def isZero (x : Magnitude) : Bool := x.significand == 0

def add (x y : Magnitude) : Magnitude := nearest (x.num * y.den + y.num * x.den) (x.den * y.den)

def mul (x y : Magnitude) : Magnitude := nearest (x.num * y.num) (x.den * y.den)

def div (x y : Magnitude) : Magnitude := nearest (x.num * y.den) (x.den * y.num)

end Magnitude

/-- A finite double. Zero has both signs. -/
structure Binary64 where
  negative : Bool
  magnitude : Magnitude
  deriving DecidableEq, Repr

/-- The double nearest to an integer. -/
def Binary64.ofInt (i : Int) : Binary64 := ⟨i < 0, Magnitude.nearest i.natAbs 1⟩

end OracleIntake

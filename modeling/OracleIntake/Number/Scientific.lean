import OracleIntake.Number.Numeral
import OracleIntake.Number.Binary64

/-!
# Decimal notation

Numbers written with digits, an optional point and an optional power of ten, and the double nearest to such
a number.
-/
namespace OracleIntake

/-- The number `coefficient * 10 ^ exponent`, with a sign. -/
structure Scientific where
  negative : Bool
  coefficient : Nat
  exponent : Int
  deriving DecidableEq, Repr

namespace Scientific

/-- The power of ten behind a coefficient: nothing, or `e` or `E` with a signed number. -/
def power? : List Char → Option Int
  | [] => some 0
  | c :: s =>
    if c = 'e' ∨ c = 'E' then
      match s with
      | '-' :: ds => (Numeral.digits? ds).map fun n => -(n : Int)
      | '+' :: ds => (Numeral.digits? ds).map Int.ofNat
      | ds => (Numeral.digits? ds).map Int.ofNat
    else none

/-- The number behind its sign: digits before a point, behind it or on both sides, then a power of ten. -/
def unsigned? (negative : Bool) (s : List Char) : Option Scientific :=
  let whole := s.takeWhile Char.isDigit
  let s := s.dropWhile Char.isDigit
  let (places, s) := match s with
    | '.' :: s => (s.takeWhile Char.isDigit, s.dropWhile Char.isDigit)
    | s => ([], s)
  if whole.isEmpty && places.isEmpty then none
  else (power? s).map fun e =>
    ⟨negative, Nat.ofDigitChars 10 (whole ++ places) 0, e - places.length⟩

/-- Reads a number; either sign is allowed. -/
def read? : List Char → Option Scientific
  | '-' :: s => unsigned? true s
  | '+' :: s => unsigned? false s
  | s => unsigned? false s

/-- The nearest double without its sign, if it is finite. Numbers beyond the powers of ten that a double can
reach are told by their digits. -/
def nearest? (x : Scientific) : Option Magnitude :=
  let reach := x.exponent + (Nat.toDigits 10 x.coefficient).length
  if x.coefficient = 0 ∨ reach < -324 then some .zero
  else if 309 < reach then none
  else some (.nearest (x.coefficient * tenTo x.exponent.toNat) (tenTo (-x.exponent).toNat))
    |>.filter Magnitude.isFinite

end Scientific
end OracleIntake

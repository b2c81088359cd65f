import OracleIntake.Number.Numeral

/-!
# Decimals

Decimal numbers with a coefficient of at most 96 bits and at most 28 places. The places are kept: `1.10` and
`1.1` are two decimals. A zero that is read has no sign; one that a rounding leaves keeps the sign of its number.
-/
namespace OracleIntake

/-- The number `coefficient / 10 ^ places`, with a sign. -/
structure Decimal where
  negative : Bool
  coefficient : Nat
  places : Nat
  deriving DecidableEq, Repr

namespace Decimal

def maxCoefficient : Nat := 79228162514264337593543950335

def maxPlaces : Nat := 28

/-- The decimal with those parts; zero loses its sign. -/
def of (negative : Bool) (coefficient places : Nat) : Decimal :=
  ⟨negative && coefficient != 0, coefficient, places⟩

def ofInt (i : Int) : Decimal := of (i < 0) i.natAbs 0

/-- The decimal in positional notation with all its places. -/
def text (d : Decimal) : String :=
  let ds := Numeral.padded (d.places + 1) d.coefficient
  let digits :=
    if d.places = 0 then ds
    else ds.take (ds.length - d.places) ++ '.' :: ds.drop (ds.length - d.places)
  String.ofList (if d.negative then '-' :: digits else digits)

structure Reading where
  negative : Bool
  coefficient : Nat := 0
  places : Nat := 0
  /-- The point has been read. -/
  point : Bool := false
  /-- A digit has been read. -/
  digit : Bool := false

/-- The decimal that has been read, if it has a digit. -/
def Reading.done? (r : Reading) : Option Decimal :=
  if r.digit then some (of r.negative r.coefficient r.places) else none

/-- The decimal that has been read, rounded by the digit behind it. Rounding up beyond the greatest coefficient drops
one place. -/
def Reading.rounded? (r : Reading) (digit : Char) : Option Decimal :=
  if digit.toNat - '0'.toNat < 5 then r.done?
  else if r.coefficient + 1 ≤ maxCoefficient then
    { r with coefficient := r.coefficient + 1 : Reading }.done?
  else if r.places = 0 then none
  else { r with coefficient := (r.coefficient + 5) / 10, places := r.places - 1 : Reading }.done?

/-- The digits before the last fit 64 bits, with room for one more. -/
def Reading.isNarrow (r : Reading) : Bool := r.coefficient / 10 < max64 / 10 - 255

/-- What may follow the digits that count: digits and underscores. -/
def isUncounted (s : List Char) : Bool := s.all fun c => c.isDigit || c == '_'

/-- Reads the rest of a decimal. Underscores may stand behind a digit; behind the last place of a narrow number one
ends the digits that count. The first digit behind the point that does not fit rounds the last that does, and those
behind it count for nothing; too many before the point make the number unreadable. -/
def Reading.go? (r : Reading) : List Char → Option Decimal
  | [] => r.done?
  | c :: s =>
    let full := r.point && maxPlaces ≤ r.places
    if c.isDigit then
      let n := r.coefficient * 10 + (c.toNat - '0'.toNat)
      if full || (r.point && maxCoefficient < n) then (if isUncounted s then r.rounded? c else none)
      else if maxCoefficient < n then none
      else
        { r with coefficient := n, places := if r.point then r.places + 1 else 0, digit := true : Reading }.go? s
    else if c = '.' ∧ r.point = false then { r with point := true : Reading }.go? s
    else if c = '_' ∧ r.digit = true then
      if full && r.isNarrow then (if isUncounted s then r.done? else none) else r.go? s
    else none

def positional? : List Char → Option Decimal
  | [] => none
  | '-' :: s => Reading.go? { negative := true } s
  | '+' :: s => Reading.go? { negative := false } s
  | s => Reading.go? { negative := false } s

/-- The decimal with at most that many places. A half is rounded away from zero, and the sign stays. -/
def rounded (d : Decimal) (places : Nat) : Decimal :=
  if d.places ≤ places then d
  else
    let unit := tenTo (d.places - places)
    { d with coefficient := (2 * d.coefficient + unit) / (2 * unit), places }

/-- The decimal times ten to the power `n`. Places are given up first; past them the coefficient grows, if it can. -/
def scaledUp? (d : Decimal) (n : Nat) : Option Decimal :=
  if n ≤ d.places then some { d with places := d.places - n }
  else if maxPlaces < n then none
  else
    let c := d.coefficient * tenTo (n - d.places)
    if maxCoefficient < c then none else some (of d.negative c 0)

/-- The decimal divided by ten to the power `n`, rounded to the greatest number of places. -/
def scaledDown? (d : Decimal) (n : Nat) : Option Decimal :=
  if maxPlaces < n then none
  else
    let r := d.rounded (maxPlaces - n)
    some { r with places := r.places + n }

/-- Reads a decimal with a power of ten behind it. -/
def scientific? (s : List Char) : Option Decimal := do
  let d ← positional? (s.takeWhile fun c => c != 'e' && c != 'E')
  match (s.dropWhile fun c => c != 'e' && c != 'E').drop 1 with
  | '-' :: power => (Numeral.natural? max32 power).bind d.scaledDown?
  | power => (Numeral.natural? max32 power).bind d.scaledUp?

def read? (s : String) : Option Decimal := (positional? s.toList).or (scientific? s.toList)

end Decimal
end OracleIntake

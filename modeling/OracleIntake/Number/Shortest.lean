import OracleIntake.Number.Binary64

/-!
# Shortest decimal text of a double

The fewest decimal digits that read back to the same double, and of those the digits nearest to it; of two
equally near the upper. The numbers that read back are those of the interval between the midpoints to the
neighbouring doubles, its ends included iff the significand is even. For one digit, two digits and so on the
two neighbours of the value on that decimal grid are tested; the first grid with a hit wins.
-/
namespace OracleIntake.Magnitude

/-- The midpoint to the double below, in units of `2 ^ (exponent - 2)`. -/
def lowerMidpoint (x : Magnitude) : Nat :=
  4 * x.significand - (if x.significand = 4503599627370496 ∧ -1074 < x.exponent then 1 else 2)

/-- The midpoint to the double above, in units of `2 ^ (exponent - 2)`. -/
def upperMidpoint (x : Magnitude) : Nat := 4 * x.significand + 2

/-- `c * 10 ^ k` reads back to the double. -/
def readsBack (x : Magnitude) (c : Nat) (k : Int) : Bool :=
  let u := x.exponent - 2
  let point := c * tenTo k.toNat * twoTo (-u).toNat
  let unit := twoTo u.toNat * tenTo (-k).toNat
  let low := x.lowerMidpoint * unit
  let high := x.upperMidpoint * unit
  if x.significand % 2 = 0 then low ≤ point && point ≤ high else low < point && point < high

/-- The exponent of the greatest power of ten that is at most the value, for positive values. -/
def floorLog10 (x : Magnitude) : Int :=
  if x.den ≤ x.num then ((Nat.toDigits 10 (x.num / x.den)).length : Int) - 1
  else -((Nat.toDigits 10 ((x.den - 1) / x.num)).length : Int)

/-- The hit on the grid of step `10 ^ k`, if there is one. -/
def onGrid? (x : Magnitude) (k : Int) : Option Nat :=
  let num := x.num * tenTo (-k).toNat
  let den := x.den * tenTo k.toNat
  let c := num / den
  match x.readsBack c k, x.readsBack (c + 1) k with
  | true, true => some (if 2 * num < (2 * c + 1) * den then c else c + 1)
  | true, false => some c
  | false, true => some (c + 1)
  | false, false => none

/-- The last zeros of `c` moved into the exponent; `fuel` bounds their number. -/
def dropZeros : (fuel : Nat) → Nat → Int → Nat × Int
  | 0, c, k => (c, k)
  | fuel + 1, c, k => if c % 10 = 0 then dropZeros fuel (c / 10) (k + 1) else (c, k)

/-- The shortest digits `c` and the exponent `k` such that `c * 10 ^ k` reads back. -/
def shortest (x : Magnitude) : Nat × Int :=
  if x.significand = 0 then (0, 0)
  else
    let p := x.floorLog10
    let grids := (List.range 17).map fun (i : Nat) => p - (i : Int)
    match grids.findSome? fun k => (x.onGrid? k).map fun c => (c, k) with
    | some (c, k) => dropZeros 20 c k
    | none => (x.significand, x.exponent)

/-- The value in positional notation, without an exponent and without a fraction of zeros. -/
def positional (x : Magnitude) : List Char :=
  let (c, k) := x.shortest
  let ds := Nat.toDigits 10 c
  if 0 ≤ k then (if c = 0 then ds else ds ++ List.replicate k.toNat '0')
  else
    let places := (-k).toNat
    let ds := List.replicate (places + 1 - ds.length) '0' ++ ds
    ds.take (ds.length - places) ++ '.' :: ds.drop (ds.length - places)

end OracleIntake.Magnitude

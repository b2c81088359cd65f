import OracleIntake.Json.Basic
import OracleIntake.Number.Numeral

/-!
# Numbers in JSON texts

An integer literal is kept exactly while it fits. Every other number becomes a double from at most 64 bits of
its digits: digits that do not fit are dropped, and the power of ten is multiplied or divided in with one
rounding. A number beyond the doubles is refused.
-/
namespace OracleIntake.JsonNumber

/-- The digits of a number so far: the significand of at most 64 bits and the power of ten that it lacks. -/
structure Digits where
  significand : Nat
  exponent : Int

/-- The significand with one more digit, if it fits. -/
def Digits.push? (d : Digits) (c : Char) : Option Nat :=
  let n := d.significand * 10 + (c.toNat - '0'.toNat)
  if n ≤ max64 then some n else none

/-- Takes in the digits before the point. Those from the first that does not fit on only raise the exponent. -/
def Digits.whole (d : Digits) : List Char → Digits
  | [] => d
  | c :: cs => match d.push? c with
    | some n => whole { d with significand := n } cs
    | none => { d with exponent := d.exponent + (cs.length + 1) }

/-- Takes in the digits behind the point, up to the first that does not fit. -/
def Digits.fraction (d : Digits) : List Char → Digits
  | [] => d
  | c :: cs => match d.push? c with
    | some n => fraction ⟨n, d.exponent - 1⟩ cs
    | none => d

/-- `x * 10 ^ e`, or none if it is beyond the doubles. -/
def scale? (x : Magnitude) (e : Int) : Option Magnitude :=
  if e.natAbs ≤ 308 then
    let power := Magnitude.nearest (tenTo e.natAbs) 1
    if 0 ≤ e then some (x.mul power) |>.filter Magnitude.isFinite else some (x.div power)
  else if x.isZero then some x
  else if 0 ≤ e then none
  else scale? (x.div (Magnitude.nearest (tenTo 308) 1)) (e + 308)
termination_by e.natAbs
decreasing_by omega

/-- The double with these digits. -/
def Digits.double? (negative : Bool) (d : Digits) : Option JsonNumber :=
  (scale? (Magnitude.nearest d.significand 1) d.exponent).map fun x => .double ⟨negative, x⟩

/-- The number of an integer literal. Zero with a minus sign is the negative double zero. -/
def ofDigits? (negative : Bool) (ds : List Char) : Option JsonNumber :=
  let n := Nat.ofDigitChars 10 ds 0
  if negative then
    if n = 0 then some (.double ⟨true, .zero⟩)
    else if n ≤ 9223372036854775808 then some (.integer (-n))
    else (Digits.whole ⟨0, 0⟩ ds).double? true
  else if n ≤ max64 then some (.integer n)
  else (Digits.whole ⟨0, 0⟩ ds).double? false

/-- A literal before its power of ten: the digits before the point and those behind it, if there is one. -/
def base? (s : List Char) : Option (List Char × Option (List Char) × List Char) :=
  let whole := s.takeWhile Char.isDigit
  let s := s.dropWhile Char.isDigit
  if whole.isEmpty || (whole.head? == some '0' && 1 < whole.length) then none
  else match s with
    | '.' :: s =>
      let places := s.takeWhile Char.isDigit
      if places.isEmpty then none else some (whole, some places, s.dropWhile Char.isDigit)
    | s => some (whole, none, s)

/-- The power of ten of a literal behind its `e`, and what follows. -/
def power? (s : List Char) : Option (Int × List Char) :=
  let (sign, s) : Int × List Char := match s with
    | '-' :: s => (-1, s)
    | '+' :: s => (1, s)
    | s => (1, s)
  let ds := s.takeWhile Char.isDigit
  if ds.isEmpty then none else some (sign * Nat.ofDigitChars 10 ds 0, s.dropWhile Char.isDigit)

/-- The number at the start of a text, behind its sign, and what follows. -/
def unsigned? (negative : Bool) (s : List Char) : Option (JsonNumber × List Char) := do
  let (whole, places, s) ← base? s
  let d := (Digits.whole ⟨0, 0⟩ whole).fraction (places.getD [])
  match s with
  | 'e' :: s | 'E' :: s =>
    let (e, s) ← power? s
    let x ← Digits.double? negative { d with exponent := d.exponent + e }
    some (x, s)
  | s =>
    let x ← if places.isSome then d.double? negative else ofDigits? negative whole
    some (x, s)

/-- The number at the start of a text and what follows. -/
def read? : List Char → Option (JsonNumber × List Char)
  | '-' :: s => unsigned? true s
  | s => unsigned? false s

end OracleIntake.JsonNumber

import OracleIntake.Number.Numeral

/-!
# Days and times of day

Days of the proleptic Gregorian calendar in the years -262143 to 262142, and times of day to the nanosecond.
A time of day may name a sixtieth second, a leap second, in any minute. Their text is the one of ISO 8601; a
year outside 0 to 9999 has a sign.
-/
namespace OracleIntake.Calendar

def isLeap (year : Int) : Bool := year % 4 == 0 && (year % 100 != 0 || year % 400 == 0)

def monthLength (year : Int) (month : Nat) : Nat :=
  match month with
  | 1 | 3 | 5 | 7 | 8 | 10 | 12 => 31
  | 4 | 6 | 9 | 11 => 30
  | 2 => if isLeap year then 29 else 28
  | _ => 0

def isDay (year : Int) (month day : Nat) : Bool := 1 ≤ day && day ≤ monthLength year month

structure Date where
  year : Int
  month : Nat
  day : Nat
  exists_day : isDay year month day = true
  year_fits : -262143 ≤ year ∧ year ≤ 262142
  deriving DecidableEq, Repr

def Date.of? (year : Int) (month day : Nat) : Option Date :=
  if h : isDay year month day = true ∧ (-262143 ≤ year ∧ year ≤ 262142) then some ⟨year, month, day, h.1, h.2⟩
  else none

structure Time where
  hour : Nat
  minute : Nat
  second : Nat
  nanos : Nat
  hour_lt : hour < 24
  minute_lt : minute < 60
  second_le : second ≤ 60
  nanos_lt : nanos < 1000000000
  deriving DecidableEq, Repr

def Time.of? (hour minute second nanos : Nat) : Option Time :=
  if h : hour < 24 ∧ minute < 60 ∧ second ≤ 60 ∧ nanos < 1000000000 then
    some ⟨hour, minute, second, nanos, h.1, h.2.1, h.2.2.1, h.2.2.2⟩
  else none

structure DateTime where
  date : Date
  time : Time
  deriving DecidableEq, Repr

open Numeral in
/-- `YYYY-MM-DD`. -/
def Date.text (d : Date) : String :=
  let year :=
    if 0 ≤ d.year ∧ d.year ≤ 9999 then padded 4 d.year.toNat
    else (if d.year < 0 then '-' else '+') :: padded 4 d.year.natAbs
  String.ofList (year ++ '-' :: padded 2 d.month ++ '-' :: padded 2 d.day)

open Numeral in
/-- `HH:MM:SS` and, unless it is zero, the fraction in three, six or nine digits. -/
def Time.text (t : Time) : String :=
  let fraction :=
    if t.nanos = 0 then []
    else if t.nanos % 1000000 = 0 then '.' :: padded 3 (t.nanos / 1000000)
    else if t.nanos % 1000 = 0 then '.' :: padded 6 (t.nanos / 1000)
    else '.' :: padded 9 t.nanos
  String.ofList
    (padded 2 t.hour ++ ':' :: padded 2 t.minute ++ ':' :: padded 2 t.second ++ fraction)

/-- The day and the time with a `T` between them. -/
def DateTime.text (x : DateTime) : String := x.date.text ++ "T" ++ x.time.text

end OracleIntake.Calendar

import OracleIntake.Calendar.Basic
import OracleIntake.Number.Numeral
import OracleIntake.Text.Blank

/-!
# Reading dates and times by a pattern

A pattern is a list of parts. A number may have blanks before it and takes as many digits as its part allows;
only a year may have a sign, and then any number of digits. Nothing may be left behind the last part.
-/
namespace OracleIntake.Calendar

inductive Part where
  | year | month | day | hour | minute | second
  /-- Nothing, or a point and the digits of a fraction of a second. -/
  | fraction
  /-- Any number of blanks. -/
  | blanks
  /-- This character. -/
  | mark (c : Char)
  deriving DecidableEq, Repr

/-- The numbers read so far. -/
structure Fields where
  year : Int := 0
  month : Nat := 0
  day : Nat := 0
  hour : Nat := 0
  minute : Nat := 0
  second : Nat := 0
  nanos : Nat := 0

def Fields.date? (f : Fields) : Option Date := Date.of? f.year f.month f.day

def Fields.time? (f : Fields) : Option Time := Time.of? f.hour f.minute f.second f.nanos

def Fields.dateTime? (f : Fields) : Option DateTime := do
  let date ← f.date?
  let time ← f.time?
  some ⟨date, time⟩

/-- At least `least` and at most `most` digits as a number, and what follows. -/
def digits? (least most : Nat) (s : List Char) : Option (Nat × List Char) :=
  let ds := (s.take most).takeWhile Char.isDigit
  if ds.length < least then none else some (Nat.ofDigitChars 10 ds 0, s.drop ds.length)

/-- A year: four digits at most, or a sign and any number of them. -/
def year? (s : List Char) : Option (Int × List Char) :=
  match s with
  | '-' :: s => (digits? 1 s.length s).map fun (n, s) => (-(n : Int), s)
  | '+' :: s => (digits? 1 s.length s).map fun (n, s) => ((n : Int), s)
  | s => (digits? 1 4 s).map fun (n, s) => ((n : Int), s)

/-- The digits behind a point as nanoseconds; those from the tenth on are skipped. -/
def fraction? (s : List Char) : Option (Nat × List Char) :=
  match s with
  | '.' :: s =>
    let ds := (s.take 9).takeWhile Char.isDigit
    if ds.isEmpty then none
    else some (Nat.ofDigitChars 10 ds 0 * tenTo (9 - ds.length), s.dropWhile Char.isDigit)
  | s => some (0, s)

def Part.read? (p : Part) (f : Fields) (s : List Char) : Option (Fields × List Char) :=
  let two := digits? 1 2 (Text.trimStart s)
  match p with
  | year => (year? (Text.trimStart s)).map fun (n, s) => ({ f with year := n }, s)
  | month => two.map fun (n, s) => ({ f with month := n }, s)
  | day => two.map fun (n, s) => ({ f with day := n }, s)
  | hour => two.map fun (n, s) => ({ f with hour := n }, s)
  | minute => two.map fun (n, s) => ({ f with minute := n }, s)
  | second => two.map fun (n, s) => ({ f with second := n }, s)
  | fraction => (fraction? s).map fun (n, s) => ({ f with nanos := n }, s)
  | blanks => some (f, Text.trimStart s)
  | mark c => match s with
    | d :: s => if d = c then some (f, s) else none
    | [] => none

def readBy? : List Part → Fields → List Char → Option Fields
  | [], f, s => if s.isEmpty then some f else none
  | p :: ps, f, s => match p.read? f s with
    | some (f, s) => readBy? ps f s
    | none => none

/-- Year, month and day between hyphens. -/
def dashed : List Part := [.year, .mark '-', .month, .mark '-', .day]

/-- Month, day and year between slashes. -/
def slashed : List Part := [.month, .mark '/', .day, .mark '/', .year]

/-- Hour, minute and second between colons, with a fraction. -/
def clock : List Part := [.hour, .mark ':', .minute, .mark ':', .second, .fraction]

def dateBy? (ps : List Part) (s : List Char) : Option Date := (readBy? ps {} s).bind Fields.date?

def dateTimeBy? (ps : List Part) (s : List Char) : Option DateTime := (readBy? ps {} s).bind Fields.dateTime?

/-- The offset from universal time behind an Internet timestamp, and what follows: a `Z`, or a sign and hours
and minutes of less than a day. -/
def offset? : List Char → Option (List Char)
  | c :: s =>
    if c = 'Z' ∨ c = 'z' then some s
    else if c = '+' ∨ c = '-' ∨ c = '\u2212' then do
      let (hours, s) ← digits? 2 2 s
      match s with
      | ':' :: s =>
        let (minutes, s) ← digits? 2 2 s
        if hours < 24 ∧ minutes < 60 then some s else none
      | _ => none
    else none
  | [] => none

/-- The local day and time of an Internet timestamp (RFC 3339). Unlike a pattern, it takes every digit and
no blanks. -/
def internet? (s : List Char) : Option DateTime := do
  let (year, s) ← digits? 4 4 s
  let s ← mark? ['-'] s
  let (month, s) ← digits? 2 2 s
  let s ← mark? ['-'] s
  let (day, s) ← digits? 2 2 s
  let s ← mark? ['T', 't', ' '] s
  let (hour, s) ← digits? 2 2 s
  let s ← mark? [':'] s
  let (minute, s) ← digits? 2 2 s
  let s ← mark? [':'] s
  let (second, s) ← digits? 2 2 s
  let (nanos, s) ← fraction? s
  let s ← offset? s
  if s.isEmpty then Fields.dateTime? ⟨year, month, day, hour, minute, second, nanos⟩ else none
where
  /-- One of these characters. -/
  mark? (cs : List Char) : List Char → Option (List Char)
    | c :: s => if c ∈ cs then some s else none
    | [] => none

/-- Reads a day as its text writes it; blanks may stand before each number and mark and at the end. -/
def Date.read? (s : String) : Option Date :=
  dateBy? [.year, .blanks, .mark '-', .month, .blanks, .mark '-', .day, .blanks] s.toList

/-- Reads a day and time as its text writes it; blanks may stand as in a day. -/
def DateTime.read? (s : String) : Option DateTime :=
  dateTimeBy?
    ([.year, .blanks, .mark '-', .month, .blanks, .mark '-', .day, .blanks, .mark 'T'] ++
      [.hour, .blanks, .mark ':', .minute, .blanks, .mark ':', .second, .fraction, .blanks]) s.toList

end OracleIntake.Calendar

import Mathlib.Algebra.Group.Nat.Defs
import Mathlib.Data.List.Basic
import OracleIntake.Calendar.Pattern
import OracleIntake.Number.Numeral

/-!
# Days and times in digits

A number takes as many digits as its part of a pattern allows, and no more: the rest of a longer one stands where the
pattern has a mark. So a text of numbers and marks is read by the pattern of its own shape only, and what it names is
decided by the calendar.

* `isDay_iff`: the days of the calendar.
* `readBy?_number`, `readBy?_number_long`, `readBy?_number_missing`: a number for one part of a pattern, one with too
  many digits, and none.
* `readBy?_dashed`, `readBy?_slashed`, `readBy?_clock`: the numbers of a day and of a time of day.
-/
namespace OracleIntake.Calendar

/-! ## The calendar -/

/-- Every fourth year is a leap year; of the years that end a century, every fourth is. -/
def LeapYear (year : Nat) : Prop := 4 ∣ year ∧ (100 ∣ year → 400 ∣ year)

/-- The numbers name a day of the Gregorian calendar, which counts also for the time before it came into use. -/
structure ExistingDay (year month day : Nat) : Prop where
  month_pos : 1 ≤ month
  month_le : month ≤ 12
  day_pos : 1 ≤ day
  day_le : day ≤ 31
  short : month = 4 ∨ month = 6 ∨ month = 9 ∨ month = 11 → day ≤ 30
  february : month = 2 → day ≤ 29
  leapDay : month = 2 → day = 29 → LeapYear year

theorem isLeap_iff {year : Nat} : isLeap year = true ↔ LeapYear year := by
  simp only [isLeap, LeapYear, Bool.and_eq_true, Bool.or_eq_true, beq_iff_eq, bne_iff_ne]
  omega

theorem le_monthLength_iff {year month day : Nat} (hday : 1 ≤ day) : day ≤ monthLength year month ↔
    1 ≤ month ∧ month ≤ 12 ∧ day ≤ 31 ∧ (month = 4 ∨ month = 6 ∨ month = 9 ∨ month = 11 → day ≤ 30) ∧
      (month = 2 → day ≤ 29) ∧ (month = 2 → day = 29 → LeapYear year) := by
  rw [← isLeap_iff]
  unfold monthLength
  -- month by month
  split <;> grind

theorem isDay_iff {year month day : Nat} : isDay year month day = true ↔ ExistingDay year month day := by
  rw [isDay, Bool.and_eq_true, decide_eq_true_iff, decide_eq_true_iff]
  constructor
  · rintro ⟨hday, hle⟩
    obtain ⟨hpos, hmonth, hlast, hshort, hfebruary, hleap⟩ := (le_monthLength_iff hday).1 hle
    exact ⟨hpos, hmonth, hday, hlast, hshort, hfebruary, hleap⟩
  · intro h
    exact ⟨h.day_pos, (le_monthLength_iff h.day_pos).2
      ⟨h.month_pos, h.month_le, h.day_le, h.short, h.february, h.leapDay⟩⟩

instance (year month day : Nat) : Decidable (ExistingDay year month day) := decidable_of_iff _ isDay_iff

/-! ## Numbers in a text -/

/-- The number, written in exactly so many digits. -/
structure InDigits (width : Nat) (ds : List Char) (n : Nat) : Prop where
  length_eq : ds.length = width
  writes : Numeral.Writes ds n

instance (width : Nat) (ds : List Char) (n : Nat) : Decidable (InDigits width ds n) :=
  decidable_of_iff (ds.length = width ∧ Numeral.digits? ds = some n)
    ⟨fun h => ⟨h.1, Numeral.digits?_eq_some_iff.1 h.2⟩,
      fun h => ⟨h.length_eq, Numeral.digits?_eq_some_iff.2 h.writes⟩⟩

/-- No digit comes next. -/
def Ended (rest : List Char) : Prop := ∀ c ∈ rest.head?, c.isDigit = false

/-- The digits that a number has at most; other parts are no numbers. -/
def Part.width : Part → Nat
  | .year => 4
  | .month | .day | .hour | .minute | .second => 2
  | .fraction | .blanks | .mark _ => 0

/-- The fields with another number for one part. -/
def Part.set : Part → Nat → Fields → Fields
  | .year, n, f => { f with year := n }
  | .month, n, f => { f with month := n }
  | .day, n, f => { f with day := n }
  | .hour, n, f => { f with hour := n }
  | .minute, n, f => { f with minute := n }
  | .second, n, f => { f with second := n }
  | .fraction, _, f | .blanks, _, f | .mark _, _, f => f

section
variable {f : Fields} {p : Part} {ps : List Part} {c d : Char} {ds rest : List Char} {n width least most : Nat}

theorem ended_cons (hc : c.isDigit = false) (rest : List Char) : Ended (c :: rest) := fun d hd => by
  cases hd
  exact hc

theorem Ended.takeWhile_take (h : Ended rest) (k : Nat) : (rest.take k).takeWhile Char.isDigit = [] := by
  cases rest with
  | nil => rw [List.take_nil, List.takeWhile_nil]
  | cons c rest =>
    cases k with
    | zero => rfl
    | succ k => rw [List.take_succ_cons, List.takeWhile_cons_of_neg (by simp [h c rfl])]

theorem exists_cons_of_writes (h : Numeral.Writes ds n) : ∃ d ds', ds = d :: ds' ∧ d.isDigit = true := by
  obtain ⟨hne, hdigits, -⟩ := h
  cases ds with
  | nil => exact absurd rfl hne
  | cons d ds => exact ⟨d, ds, rfl, hdigits d List.mem_cons_self⟩

/-- The number that digits write behind a number that was read before them. -/
theorem ofDigitChars_lt (h : ∀ c ∈ ds, c.isDigit = true) (k : Nat) :
    Nat.ofDigitChars 10 ds k < 10 ^ ds.length * (k + 1) := by
  induction ds generalizing k with
  | nil => simp
  | cons c ds ih =>
    have hc : c.toNat ≤ '0'.toNat + 9 := (Char.isDigit_iff_toNat.1 (h c List.mem_cons_self)).2
    have hlt := ih (fun c hc => h c (List.mem_cons_of_mem _ hc)) (10 * k + (c.toNat - '0'.toNat))
    rw [Nat.ofDigitChars_cons, List.length_cons, Nat.pow_succ, Nat.mul_assoc]
    exact Nat.lt_of_lt_of_le hlt (Nat.mul_le_mul_left _ (by omega))

theorem InDigits.lt (h : InDigits width ds n) : n < 10 ^ width := by
  have hlt := ofDigitChars_lt h.writes.2.1 0
  rwa [h.writes.2.2, h.length_eq, Nat.mul_one] at hlt

theorem InDigits.toNat_lt (h : InDigits width ds n) : ∀ c ∈ ds, c.toNat < 0x80 := fun c hc =>
  Nat.lt_of_le_of_lt (Char.isDigit_iff_toNat.1 (h.writes.2.1 c hc)).2 (by decide)

theorem length_pos_of_writes (h : Numeral.Writes ds n) : 1 ≤ ds.length := List.length_pos_iff.2 h.1

/-- A number that has all digits it may have, or behind which no digit stands. -/
theorem digits?_number (h : Numeral.Writes ds n) (hleast : least ≤ ds.length) (hmost : ds.length ≤ most)
    (hend : ds.length = most ∨ Ended rest) : digits? least most (ds ++ rest) = some (n, rest) := by
  have hrest : (rest.take (most - ds.length)).takeWhile Char.isDigit = [] := by
    rcases hend with rfl | hended
    · rw [Nat.sub_self, List.take_zero, List.takeWhile_nil]
    · exact hended.takeWhile_take _
  have hall : ((ds ++ rest).take most).takeWhile Char.isDigit = ds := by
    rw [List.take_append, List.take_of_length_le hmost, List.takeWhile_append_of_pos h.2.1, hrest, List.append_nil]
  rw [digits?, hall, if_neg (Nat.not_lt.2 hleast), h.2.2, List.drop_left]

theorem digits?_inDigits (h : InDigits most ds n) : digits? most most (ds ++ rest) = some (n, rest) :=
  digits?_number h.writes (Nat.le_of_eq h.length_eq.symm) (Nat.le_of_eq h.length_eq) (.inl h.length_eq)

theorem digits?_missing (h : Ended rest) (hleast : 0 < least) (most : Nat) : digits? least most rest = none := by
  rw [digits?, h.takeWhile_take]
  exact if_pos hleast

theorem trimStart_number (h : Numeral.Writes ds n) (rest : List Char) : Text.trimStart (ds ++ rest) = ds ++ rest := by
  obtain ⟨d, ds, rfl, hd⟩ := exists_cons_of_writes h
  exact List.dropWhile_cons_of_neg (by simp [Text.isBlank_of_isDigit hd])

/-! ## Numbers in a pattern -/

theorem year?_number (h : Numeral.Writes ds n) (hwidth : ds.length ≤ 4) (hend : ds.length = 4 ∨ Ended rest) :
    year? (ds ++ rest) = some ((n : Int), rest) := by
  have hread : digits? 1 4 (ds ++ rest) = some (n, rest) :=
    digits?_number h (length_pos_of_writes h) hwidth hend
  obtain ⟨d, ds, rfl, hd⟩ := exists_cons_of_writes h
  unfold year?
  split
  · next heq => cases heq; cases hd
  · next heq => cases heq; cases hd
  · rw [hread, Option.map_some]

theorem Part.read?_number (h : Numeral.Writes ds n) (hwidth : ds.length ≤ p.width)
    (hend : ds.length = p.width ∨ Ended rest) : p.read? f (ds ++ rest) = some (p.set n f, rest) := by
  have hpos := length_pos_of_writes h
  cases p with
  | year => simp only [read?, trimStart_number h, year?_number h hwidth hend, Option.map_some, set]
  | month | day | hour | minute | second =>
    have hread : digits? 1 2 (ds ++ rest) = some (n, rest) := digits?_number h hpos hwidth hend
    simp only [read?, trimStart_number h, hread, Option.map_some, set]
  | fraction | blanks | mark => exact absurd (Nat.le_trans hpos hwidth) (by simp [width])

theorem readBy?_number (p : Part) (h : Numeral.Writes ds n) (hwidth : ds.length ≤ p.width)
    (hend : ds.length = p.width ∨ Ended rest) : readBy? (p :: ps) f (ds ++ rest) = readBy? ps (p.set n f) rest := by
  rw [readBy?, Part.read?_number h hwidth hend]

theorem readBy?_inDigits (p : Part) (h : InDigits p.width ds n) :
    readBy? (p :: ps) f (ds ++ rest) = readBy? ps (p.set n f) rest :=
  readBy?_number p h.writes (Nat.le_of_eq h.length_eq) (.inl h.length_eq)

theorem readBy?_mark (c : Char) (ps : List Part) (f : Fields) (s : List Char) :
    readBy? (.mark c :: ps) f (c :: s) = readBy? ps f s := by
  simp [readBy?, Part.read?]

theorem readBy?_mark_of_ne (h : d ≠ c) (s : List Char) : readBy? (.mark c :: ps) f (d :: s) = none := by
  simp [readBy?, Part.read?, h]

theorem readBy?_blanks (ps : List Part) (f : Fields) (s : List Char) :
    readBy? (.blanks :: ps) f s = readBy? ps f (Text.trimStart s) := by
  simp [readBy?, Part.read?]

/-- Too many digits: the mark behind the number is not found. -/
theorem readBy?_number_long (p : Part) (h : Numeral.Writes ds n) (hpos : 0 < p.width) (hlong : p.width < ds.length)
    (hc : c.isDigit = false) (rest : List Char) : readBy? (p :: .mark c :: ps) f (ds ++ rest) = none := by
  have hlength : (ds.take p.width).length = p.width := List.length_take_of_le (Nat.le_of_lt hlong)
  have htake : Numeral.Writes (ds.take p.width) (Nat.ofDigitChars 10 (ds.take p.width) 0) :=
    ⟨List.length_pos_iff.1 (by rw [hlength]; exact hpos), fun c hc => h.2.1 c (List.mem_of_mem_take hc), rfl⟩
  -- a digit is left where the mark should stand
  have hdrop : ds.drop p.width = ds[p.width] :: ds.drop (p.width + 1) := List.drop_eq_getElem_cons hlong
  have hne : ds[p.width] ≠ c := fun heq => by
    rw [← heq, h.2.1 _ (List.getElem_mem hlong)] at hc
    cases hc
  rw [← List.take_append_drop p.width ds, List.append_assoc,
    readBy?_number p htake (Nat.le_of_eq hlength) (.inl hlength), hdrop, List.cons_append, readBy?_mark_of_ne hne]

/-- No digit where a number of two digits should stand. -/
theorem readBy?_number_missing (p : Part) (hp : p.width = 2) (hdigit : c.isDigit = false)
    (hblank : Text.isBlank c = false) (rest : List Char) : readBy? (p :: ps) f (c :: rest) = none := by
  have htrim : Text.trimStart (c :: rest) = c :: rest := List.dropWhile_cons_of_neg (by simp [hblank])
  have hread : digits? 1 2 (c :: rest) = none := digits?_missing (ended_cons hdigit rest) Nat.one_pos 2
  rw [readBy?]
  cases p with
  | month | day | hour | minute | second => simp only [Part.read?, htrim, hread, Option.map_none]
  | year | fraction | blanks | mark => cases hp

end

/-! ## Days and times in a text -/

section
variable {f : Fields} {ps : List Part} {ys ms ds hs mins ss rest : List Char} {y m d h min s : Nat}

theorem readBy?_dashed (hy : InDigits 4 ys y) (hm : InDigits 2 ms m) (hd : InDigits 2 ds d) :
    readBy? (dashed ++ ps) f (ys ++ '-' :: (ms ++ '-' :: (ds ++ rest))) =
      readBy? ps { f with year := y, month := m, day := d } rest := by
  simp only [dashed, List.cons_append, List.nil_append]
  rw [readBy?_inDigits .year hy, readBy?_mark, readBy?_inDigits .month hm, readBy?_mark, readBy?_inDigits .day hd]
  rfl

theorem readBy?_slashed (hm : InDigits 2 ms m) (hd : InDigits 2 ds d) (hy : InDigits 4 ys y) :
    readBy? slashed f (ms ++ '/' :: (ds ++ '/' :: ys)) = some { f with year := y, month := m, day := d } := by
  rw [slashed, readBy?_inDigits .month hm, readBy?_mark, readBy?_inDigits .day hd, readBy?_mark,
    ← List.append_nil ys, readBy?_inDigits .year hy]
  rfl

theorem readBy?_clock (hh : InDigits 2 hs h) (hmin : InDigits 2 mins min) (hsec : InDigits 2 ss s) :
    readBy? clock f (hs ++ ':' :: (mins ++ ':' :: ss)) =
      some { f with hour := h, minute := min, second := s, nanos := 0 } := by
  rw [clock, readBy?_inDigits .hour hh, readBy?_mark, readBy?_inDigits .minute hmin, readBy?_mark,
    ← List.append_nil ss, readBy?_inDigits .second hsec]
  rfl

theorem dateBy?_slashed_of_year (hy : InDigits 4 ys y) (rest : List Char) :
    dateBy? slashed (ys ++ rest) = none := by
  have hlong : Part.month.width < ys.length := by rw [hy.length_eq]; decide
  rw [dateBy?, slashed, readBy?_number_long .month hy.writes (by decide) hlong rfl rest, Option.bind_none]

theorem dateBy?_dashed_of_slash (hm : InDigits 2 ms m) (rest : List Char) :
    dateBy? dashed (ms ++ '/' :: rest) = none := by
  have hwidth : ms.length ≤ Part.year.width := by rw [hm.length_eq]; decide
  rw [dateBy?, dashed, readBy?_number .year hm.writes hwidth (.inr (ended_cons rfl rest)),
    readBy?_mark_of_ne (by decide), Option.bind_none]

/-- An Internet timestamp has an offset. -/
theorem internet?_of_local (hy : InDigits 4 ys y) (hm : InDigits 2 ms m) (hd : InDigits 2 ds d) (c : Char)
    (hh : InDigits 2 hs h) (hmin : InDigits 2 mins min) (hsec : InDigits 2 ss s) :
    internet? (ys ++ '-' :: (ms ++ '-' :: (ds ++ c :: (hs ++ ':' :: (mins ++ ':' :: ss))))) = none := by
  have hlast : digits? 2 2 ss = some (s, []) := by rw [← List.append_nil ss, digits?_inDigits hsec]
  have hhyphen : ∀ s, internet?.mark? ['-'] ('-' :: s) = some s := fun _ => rfl
  have hcolon : ∀ s, internet?.mark? [':'] (':' :: s) = some s := fun _ => rfl
  have hbetween : ∀ s, internet?.mark? ['T', 't', ' '] (c :: s) = if c ∈ ['T', 't', ' '] then some s else none :=
    fun _ => rfl
  simp only [internet?, digits?_inDigits hy, digits?_inDigits hm, digits?_inDigits hd, hhyphen, hbetween,
    Option.bind_eq_bind, Option.bind_some]
  split
  · -- nothing is left behind the seconds
    simp only [digits?_inDigits hh, digits?_inDigits hmin, hlast, hcolon, fraction?, offset?, Option.bind_some,
      Option.bind_none]
  · rfl

end
end OracleIntake.Calendar

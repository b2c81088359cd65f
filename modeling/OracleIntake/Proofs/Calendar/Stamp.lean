import OracleIntake.Proofs.Calendar.Digits

/-!
# Texts like dates

Four shapes of digits and marks look like a date, two of them with a time of day. A text in one of them is read by the
pattern of that shape, and by no other one: what it names exists, or nothing reads it.

* `DateLike`: the four shapes, and what a text in one of them says.
* `dateBy?_dashed`, `dateBy?_slashed`, `dateTimeBy?_clock`: reading by the right pattern.
* `DateLike.utf8ByteSize_eq`: days are ten bytes long, and days with a time are not.
-/
namespace OracleIntake

theorem Text.utf8ByteSize_of_ascii {text : List Char} (h : ∀ c ∈ text, c.toNat < 0x80) :
    (String.ofList text).utf8ByteSize = text.length := by
  induction text with
  | nil => rfl
  | cons c text ih =>
    have hle : c.val ≤ 127 := UInt32.le_iff_toNat_le.2 (Nat.le_of_lt_succ (h c List.mem_cons_self))
    have hc : c.utf8Size = 1 := Char.utf8Size_eq_one_iff.2 hle
    rw [String.ofList_cons, String.utf8ByteSize_append, String.utf8ByteSize_singleton, hc,
      ih fun c hc => h c (List.mem_cons_of_mem _ hc), List.length_cons, Nat.add_comm]

namespace Calendar

/-- What a text like a date says, whether or not it exists. -/
inductive Stamp where
  | day (year month day : Nat)
  | moment (year month day hour minute second : Nat)

/-- The day is one of the calendar, and the time of day is one of a clock that may show a leap second. -/
def Stamp.Exists : Stamp → Prop
  | day y m d => ExistingDay y m d
  | moment y m d h min s => ExistingDay y m d ∧ h ≤ 23 ∧ min ≤ 59 ∧ s ≤ 60

instance : DecidablePred Stamp.Exists
  | .day y m d => inferInstanceAs (Decidable (ExistingDay y m d))
  | .moment y m d h min s => inferInstanceAs (Decidable (ExistingDay y m d ∧ h ≤ 23 ∧ min ≤ 59 ∧ s ≤ 60))

/-- The text is in one of the shapes `dddd-dd-dd`, `dd/dd/dddd`, `dddd-dd-ddTdd:dd:dd` and `dddd-dd-dd dd:dd:dd`. -/
inductive DateLike : List Char → Stamp → Prop
  | dashed {ys ms ds : List Char} {y m d : Nat} (hy : InDigits 4 ys y) (hm : InDigits 2 ms m) (hd : InDigits 2 ds d) :
    DateLike (ys ++ '-' :: (ms ++ '-' :: ds)) (.day y m d)
  | slashed {ms ds ys : List Char} {m d y : Nat} (hm : InDigits 2 ms m) (hd : InDigits 2 ds d) (hy : InDigits 4 ys y) :
    DateLike (ms ++ '/' :: (ds ++ '/' :: ys)) (.day y m d)
  | moment {ys ms ds hs mins ss : List Char} {y m d h min s : Nat} (hy : InDigits 4 ys y) (hm : InDigits 2 ms m)
      (hd : InDigits 2 ds d) {c : Char} (hc : c = 'T' ∨ c = ' ') (hh : InDigits 2 hs h) (hmin : InDigits 2 mins min)
      (hsec : InDigits 2 ss s) :
    DateLike (ys ++ '-' :: (ms ++ '-' :: (ds ++ c :: (hs ++ ':' :: (mins ++ ':' :: ss))))) (.moment y m d h min s)

/-! ## Dates and times that exist -/

section
variable {y m d h min s : Nat}

theorem isSome_date?_iff {f : Fields} (hy : f.year = y) (hfits : y < 10 ^ 4) :
    f.date?.isSome = true ↔ ExistingDay y f.month f.day := by
  have hyear : -262143 ≤ f.year ∧ f.year ≤ 262142 := by omega
  rw [Fields.date?, Date.of?, ← isDay_iff, ← hy]
  split
  · next h => exact iff_of_true rfl h.1
  · next h => exact iff_of_false nofun fun hday => h ⟨hday, hyear⟩

theorem isSome_time?_iff {f : Fields} (hnanos : f.nanos = 0) :
    f.time?.isSome = true ↔ f.hour ≤ 23 ∧ f.minute ≤ 59 ∧ f.second ≤ 60 := by
  rw [Fields.time?, Time.of?, hnanos]
  split
  · next h => exact iff_of_true rfl (by omega)
  · next h => exact iff_of_false nofun (by omega)

theorem isSome_dateTime?_iff {f : Fields} :
    f.dateTime?.isSome = true ↔ f.date?.isSome = true ∧ f.time?.isSome = true := by
  rw [Fields.dateTime?]
  cases f.date? <;> cases f.time? <;> simp

end

/-! ## Reading -/

section
variable {ys ms ds hs mins ss : List Char} {y m d h min s : Nat} {c : Char}

theorem dateBy?_dashed (hy : InDigits 4 ys y) (hm : InDigits 2 ms m) (hd : InDigits 2 ds d) :
    (dateBy? dashed (ys ++ '-' :: (ms ++ '-' :: ds))).isSome = true ↔ ExistingDay y m d := by
  have hread : readBy? dashed {} (ys ++ '-' :: (ms ++ '-' :: ds)) = some { year := y, month := m, day := d } := by
    rw [← List.append_nil dashed, ← List.append_nil ds, readBy?_dashed hy hm hd]
    rfl
  rw [dateBy?, hread]
  exact isSome_date?_iff rfl hy.lt

theorem dateBy?_slashed (hm : InDigits 2 ms m) (hd : InDigits 2 ds d) (hy : InDigits 4 ys y) :
    (dateBy? slashed (ms ++ '/' :: (ds ++ '/' :: ys))).isSome = true ↔ ExistingDay y m d := by
  rw [dateBy?, readBy?_slashed hm hd hy]
  exact isSome_date?_iff rfl hy.lt

/-- A day and a time of day, and one more part of the pattern for what stands between them. -/
theorem dateTimeBy?_of_some {p : Part} {between : List Char} (hy : InDigits 4 ys y) (hm : InDigits 2 ms m)
    (hd : InDigits 2 ds d) (hh : InDigits 2 hs h) (hmin : InDigits 2 mins min) (hsec : InDigits 2 ss s)
    (hp : ∀ f, readBy? (p :: clock) f between = readBy? clock f (hs ++ ':' :: (mins ++ ':' :: ss))) :
    (dateTimeBy? (dashed ++ p :: clock) (ys ++ '-' :: (ms ++ '-' :: (ds ++ between)))).isSome = true ↔
      ExistingDay y m d ∧ h ≤ 23 ∧ min ≤ 59 ∧ s ≤ 60 := by
  rw [dateTimeBy?, readBy?_dashed hy hm hd, hp, readBy?_clock hh hmin hsec, Option.bind_some, isSome_dateTime?_iff,
    isSome_date?_iff rfl hy.lt, isSome_time?_iff rfl]

theorem dateTimeBy?_of_none {p : Part} {between : List Char} (hy : InDigits 4 ys y) (hm : InDigits 2 ms m)
    (hd : InDigits 2 ds d) (hp : ∀ f, readBy? (p :: clock) f between = none) :
    dateTimeBy? (dashed ++ p :: clock) (ys ++ '-' :: (ms ++ '-' :: (ds ++ between))) = none := by
  rw [dateTimeBy?, readBy?_dashed hy hm hd, hp, Option.bind_none]

/-- One of the two patterns of a day and a time of day reads the text, and the other one does not. -/
theorem dateTimeBy?_clock (hy : InDigits 4 ys y) (hm : InDigits 2 ms m) (hd : InDigits 2 ds d) (hc : c = 'T' ∨ c = ' ')
    (hh : InDigits 2 hs h) (hmin : InDigits 2 mins min) (hsec : InDigits 2 ss s) {text : List Char}
    (htext : text = ys ++ '-' :: (ms ++ '-' :: (ds ++ c :: (hs ++ ':' :: (mins ++ ':' :: ss))))) :
    ((dateTimeBy? (dashed ++ .mark 'T' :: clock) text).isSome ||
      (dateTimeBy? (dashed ++ .blanks :: clock) text).isSome) = true ↔
      ExistingDay y m d ∧ h ≤ 23 ∧ min ≤ 59 ∧ s ≤ 60 := by
  subst htext
  rcases hc with rfl | rfl
  · have hblanks : ∀ f, readBy? (.blanks :: clock) f ('T' :: (hs ++ ':' :: (mins ++ ':' :: ss))) = none := fun f => by
      rw [readBy?_blanks, Text.trimStart, List.dropWhile_cons_of_neg (by decide)]
      exact readBy?_number_missing .hour rfl rfl rfl _
    rw [dateTimeBy?_of_none hy hm hd hblanks, Option.isSome_none, Bool.or_false]
    exact dateTimeBy?_of_some hy hm hd hh hmin hsec fun f => readBy?_mark 'T' clock f _
  · have hmark : ∀ f, readBy? (.mark 'T' :: clock) f (' ' :: (hs ++ ':' :: (mins ++ ':' :: ss))) = none := fun f =>
      readBy?_mark_of_ne (by decide) _
    rw [dateTimeBy?_of_none hy hm hd hmark, Option.isSome_none, Bool.false_or]
    refine dateTimeBy?_of_some hy hm hd hh hmin hsec fun f => ?_
    rw [readBy?_blanks, Text.trimStart, List.dropWhile_cons_of_pos rfl]
    exact congrArg _ (trimStart_number hh.writes _)

end

/-! ## Bytes -/

/-- How many characters the text has. -/
def Stamp.length : Stamp → Nat
  | day .. => 10
  | moment .. => 19

theorem DateLike.length_eq {text : List Char} {x : Stamp} (h : DateLike text x) : text.length = x.length := by
  cases h with
  | dashed hy hm hd => simp [hy.length_eq, hm.length_eq, hd.length_eq, Stamp.length]
  | slashed hm hd hy => simp [hy.length_eq, hm.length_eq, hd.length_eq, Stamp.length]
  | moment hy hm hd hc hh hmin hsec =>
    simp [hy.length_eq, hm.length_eq, hd.length_eq, hh.length_eq, hmin.length_eq, hsec.length_eq, Stamp.length]

theorem DateLike.toNat_lt {text : List Char} {x : Stamp} (h : DateLike text x) : ∀ c ∈ text, c.toNat < 0x80 := by
  cases h with
  | dashed hy hm hd =>
    simp only [List.forall_mem_append, List.forall_mem_cons]
    exact ⟨hy.toNat_lt, by decide, hm.toNat_lt, by decide, hd.toNat_lt⟩
  | slashed hm hd hy =>
    simp only [List.forall_mem_append, List.forall_mem_cons]
    exact ⟨hm.toNat_lt, by decide, hd.toNat_lt, by decide, hy.toNat_lt⟩
  | @moment _ _ _ _ _ _ _ _ _ _ _ _ hy hm hd c hc hh hmin hsec =>
    have hbetween : c.toNat < 0x80 := by rcases hc with rfl | rfl <;> decide
    simp only [List.forall_mem_append, List.forall_mem_cons]
    exact ⟨hy.toNat_lt, by decide, hm.toNat_lt, by decide, hd.toNat_lt, hbetween, hh.toNat_lt, by decide,
      hmin.toNat_lt, by decide, hsec.toNat_lt⟩

theorem DateLike.utf8ByteSize_eq {text : List Char} {x : Stamp} (h : DateLike text x) :
    (String.ofList text).utf8ByteSize = x.length := by
  rw [Text.utf8ByteSize_of_ascii h.toNat_lt, h.length_eq]

end Calendar
end OracleIntake

import OracleIntake.Proofs.Calendar.Stamp
import OracleIntake.Proofs.Column.Lengths

/-!
# Samples like dates

A sample in the shape of a date makes its column a timestamp only if it names a day that exists, and a time of day
that exists if it has one. Month and day are never exchanged to make a day of it.

* `isMoment_iff_of_dateLike`: which of these samples name something.
* `columnType_dateLike`: the columns of such samples.
-/
namespace OracleIntake

open Calendar

namespace Sample

theorem isMoment_of_ten {s : String} (h : (String.ofList (Text.trim s.toList)).utf8ByteSize = 10) :
    isMoment s = ((dateBy? dashed (Text.trim s.toList)).isSome || (dateBy? slashed (Text.trim s.toList)).isSome) :=
  if_pos h

theorem isMoment_of_ne_ten {s : String} (h : (String.ofList (Text.trim s.toList)).utf8ByteSize ≠ 10) :
    isMoment s = ((internet? (Text.trim s.toList)).isSome ||
      (dateTimeBy? (dashed ++ .mark 'T' :: clock) (Text.trim s.toList)).isSome ||
      (dateTimeBy? (dashed ++ .blanks :: clock) (Text.trim s.toList)).isSome) :=
  if_neg h

/-- Of all patterns only that of the text's own shape can read it. -/
theorem isMoment_iff_of_dateLike {s : String} {x : Stamp} (h : DateLike (Text.trim s.toList) x) :
    isMoment s = true ↔ x.Exists := by
  have hbytes := h.utf8ByteSize_eq
  have hday := @isMoment_of_ten s
  have htime := @isMoment_of_ne_ten s
  generalize Text.trim s.toList = text at h hbytes hday htime
  cases h with
  | dashed hy hm hd =>
    rw [hday hbytes, dateBy?_slashed_of_year hy, Option.isSome_none, Bool.or_false]
    exact dateBy?_dashed hy hm hd
  | slashed hm hd hy =>
    rw [hday hbytes, dateBy?_dashed_of_slash hm, Option.isSome_none, Bool.false_or]
    exact dateBy?_slashed hm hd hy
  | moment hy hm hd hc hh hmin hsec =>
    rw [htime (by rw [hbytes]; exact nofun), internet?_of_local hy hm hd _ hh hmin hsec, Option.isSome_none,
      Bool.false_or]
    exact dateTimeBy?_clock hy hm hd hc hh hmin hsec rfl

end Sample

namespace Evidence
variable {e : Evidence}

theorem columnType_of_moment (h : e.LeftToSample) {s : String} (hs : e.sample = some (.string s)) (hne : s ≠ "")
    (hmoment : Sample.isMoment s = true) : e.columnType = .timestamp := by
  have hempty : s.isEmpty = false := by simpa using hne
  rw [columnType_of_sample h, fromSample?, hs, Option.bind_some, Sample.columnType?, Option.getD_some,
    Sample.textType, hempty, hmoment]
  rfl

/-- **Samples like dates.** A sample in the shape of a date makes its column a timestamp exactly if what it names
exists. Otherwise the column is text of twice the length of the sample, blanks around it included, as far as text may
be so long. -/
theorem columnType_dateLike (h : e.LeftToSample) {s : String} (hs : e.sample = some (.string s)) {x : Stamp}
    (hx : DateLike (Text.trim s.toList) x) :
    (e.columnType = .timestamp ↔ x.Exists) ∧ (¬ x.Exists → e.columnType = .varchar2 (min (2 * s.length) 4000)) := by
  have hne : s ≠ "" := by
    rintro rfl
    have hlength : x.length = 0 := hx.length_eq.symm
    cases x <;> cases hlength
  have hexists := Sample.isMoment_iff_of_dateLike hx
  cases hmoment : Sample.isMoment s with
  | true =>
    have hx := hexists.1 hmoment
    exact ⟨iff_of_true (columnType_of_moment h hs hne hmoment) hx, fun hno => absurd hx hno⟩
  | false =>
    have hx : ¬ x.Exists := fun hx => Bool.false_ne_true (hmoment ▸ hexists.2 hx)
    have htext := columnType_of_text h hs hne hmoment
    exact ⟨iff_of_false (by rw [htext]; nofun) hx, fun _ => htext⟩

/-- A leap day of a year that ends a century, with blanks around it, and a leap second on the leap day of the fourth
such year. -/
theorem columnType_dateLike_centuries :
    let e : Evidence := { field := "warehouse", sample := some (.string "\t02/29/1900\u3000") }
    let e' : Evidence := { field := "warehouse", sample := some (.string "2000-02-29 23:59:60") }
    e.LeftToSample ∧ e'.LeftToSample ∧ e.columnType.text = "VARCHAR2(24 CHAR)" ∧
      e'.columnType.text = "TIMESTAMP(6)" := by
  intro e e'
  have hrule : e.rule? = none := by decide +kernel
  have hleft : e.LeftToSample := ⟨rfl, hrule, nofun⟩
  have hleft' : e'.LeftToSample := ⟨rfl, hrule, nofun⟩
  have htrim : Text.trim "\t02/29/1900\u3000".toList = "02".toList ++ '/' :: ("29".toList ++ '/' :: "1900".toList) := by
    decide +kernel
  have htrim' : Text.trim "2000-02-29 23:59:60".toList = "2000".toList ++ '-' :: ("02".toList ++ '-' :: ("29".toList ++
      ' ' :: ("23".toList ++ ':' :: ("59".toList ++ ':' :: "60".toList)))) := by
    decide +kernel
  have hshape : DateLike (Text.trim "\t02/29/1900\u3000".toList) (.day 1900 2 29) := by
    rw [htrim]
    exact .slashed (by decide) (by decide) (by decide)
  have hshape' : DateLike (Text.trim "2000-02-29 23:59:60".toList) (.moment 2000 2 29 23 59 60) := by
    rw [htrim']
    exact .moment (by decide) (by decide) (by decide) (.inr rfl) (by decide) (by decide) (by decide)
  have hnone : ¬ (Stamp.day 1900 2 29).Exists := by decide
  have hexists : (Stamp.moment 2000 2 29 23 59 60).Exists := by decide
  have htext := (columnType_dateLike hleft rfl hshape).2 hnone
  have htime := (columnType_dateLike hleft' rfl hshape').1.2 hexists
  refine ⟨hleft, hleft', by rw [htext]; decide, by rw [htime]; decide⟩

end Evidence
end OracleIntake

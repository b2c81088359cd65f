import Mathlib.Data.List.Forall2
import OracleIntake.Column.Mapper
import OracleIntake.Proofs.Text.Separated

/-!
# Columns of a table definition read back

A line is read from its end: `NOT NULL` and the last two characters of a type are never part of a name, so names
with spaces, commas and whole types in them do no harm. A list of lines is read from its start: a line feed stands
between two columns only.

* `ColumnType.append_text_inj`: the type at the end of a text.
* `text_eq_text_iff`: the column that a line writes.
* `render_eq_render_iff`: the columns that a table definition writes.
-/
namespace OracleIntake

/-! ## Types -/

namespace ColumnType

/-- The last two characters of a type. They tell its family. -/
def ending : ColumnType → List Char
  | number => ['E', 'R']
  | flag => ['0', ')']
  | timestamp => ['6', ')']
  | varchar2 _ => ['R', ')']
  | clob => ['O', 'B']

theorem toList_text_varchar2 (n : Nat) :
    (varchar2 n).text.toList = "VARCHAR2".toList ++ '(' :: (Nat.toDigits 10 n ++ " CHAR)".toList) := by
  simp only [text, String.toList_append, Text.toList_toString]
  rfl

theorem ending_suffix (t : ColumnType) : t.ending <:+ t.text.toList := by
  cases t with
  | varchar2 n =>
    rw [toList_text_varchar2]
    exact ⟨"VARCHAR2(".toList ++ Nat.toDigits 10 n ++ " CHA".toList, by simp [ending]⟩
  | number | flag | timestamp | clob => decide

theorem length_ending (t : ColumnType) : t.ending.length = 2 := by
  cases t <;> rfl

theorem ending_eq_of_append {l l' : List Char} {t u : ColumnType} (h : l ++ t.text.toList = l' ++ u.text.toList) :
    t.ending = u.ending := by
  obtain ⟨r, hr⟩ := ending_suffix t
  obtain ⟨r', hr'⟩ := ending_suffix u
  rw [← hr, ← hr', ← List.append_assoc, ← List.append_assoc] at h
  exact (List.append_inj' h (by rw [length_ending, length_ending])).2

theorem eq_or_varchar2_of_ending {t u : ColumnType} (h : t.ending = u.ending) :
    t = u ∨ ∃ m n, t = varchar2 m ∧ u = varchar2 n := by
  cases t <;> cases u <;> simp [ending] at h ⊢

/-- The type at the end of a text, and what stands before it. -/
theorem append_text_inj {l l' : List Char} {t u : ColumnType} :
    l ++ t.text.toList = l' ++ u.text.toList ↔ l = l' ∧ t = u := by
  refine ⟨fun h => ?_, fun ⟨hl, ht⟩ => by rw [hl, ht]⟩
  rcases eq_or_varchar2_of_ending (ending_eq_of_append h) with rfl | ⟨m, n, rfl, rfl⟩
  · exact ⟨List.append_cancel_right h, rfl⟩
  · -- The last parenthesis that opens is that of the length.
    have hlength : ∀ n, '(' ∉ Nat.toDigits 10 n ++ " CHAR)".toList := fun n hmem =>
      (List.mem_append.1 hmem).elim (Text.not_mem_toDigits rfl n) (by decide)
    rw [toList_text_varchar2, toList_text_varchar2, ← List.append_assoc, ← List.append_assoc,
      Text.append_cons_inj_of_last (hlength m) (hlength n)] at h
    have hdigits := List.append_cancel_right h.2
    exact ⟨List.append_cancel_right h.1, congrArg varchar2 (Text.toDigits_inj.1 hdigits)⟩

/-- No type ends with the letter that `NOT NULL` ends with. -/
theorem getLast?_append_text (l : List Char) (t : ColumnType) : (l ++ t.text.toList).getLast? ≠ some 'L' := by
  obtain ⟨r, hr⟩ := ending_suffix t
  rw [← hr, ← List.append_assoc, List.getLast?_append]
  cases t <;> simp [ending]

theorem not_mem_text (t : ColumnType) : '\n' ∉ t.text.toList := by
  cases t with
  | varchar2 n =>
    rw [toList_text_varchar2]
    simp [Text.not_mem_toDigits (d := '\n') rfl n]
  | number | flag | timestamp | clob => decide

end ColumnType

/-! ## Lines -/

namespace Column
variable {c d : Column} {cs ds : List Column}

/-- The columns are written alike: they differ in their fields in the source at most. -/
structure Alike (c d : Column) : Prop where
  name : c.name = d.name
  type : c.type = d.type
  nullable : c.nullable = d.nullable

theorem toList_text (c : Column) : c.text.toList =
    c.name.toList ++ [' '] ++ c.type.text.toList ++ (if c.nullable then "" else " NOT NULL").toList := by
  simp only [text, String.toList_append]
  rfl

theorem Alike.text_eq (h : c.Alike d) : c.text = d.text := by
  rw [text, text, h.name, h.type, h.nullable]

theorem getLast?_text (c : Column) : c.text.toList.getLast? = some 'L' ↔ c.nullable = false := by
  rw [toList_text]
  cases c.nullable
  · rw [List.getLast?_append]
    exact iff_of_true rfl rfl
  · simpa using ColumnType.getLast?_append_text (c.name.toList ++ [' ']) c.type

/-- A line is that of one column only, whatever stands in the names. -/
theorem text_eq_text_iff : c.text = d.text ↔ c.Alike d := by
  refine ⟨fun h => ?_, Alike.text_eq⟩
  have hnullable : c.nullable = d.nullable := by
    have hlast := getLast?_text c
    rw [h, getLast?_text d, ← Bool.not_eq_true, ← Bool.not_eq_true, not_iff_not] at hlast
    exact Bool.eq_iff_iff.2 hlast.symm
  rw [← String.toList_inj, toList_text, toList_text, hnullable] at h
  obtain ⟨hname, htype⟩ := ColumnType.append_text_inj.1 (List.append_cancel_right h)
  exact ⟨String.toList_inj.1 (List.append_cancel_right hname), htype, hnullable⟩

/-! ## Definitions -/

def line (c : Column) : List Char := ("  " ++ c.text).toList

theorem toList_render (cs : List Column) : (render cs).toList = ([','] ++ ['\n']).intercalate (cs.map line) := by
  rw [render, String.toList_intercalate, List.map_map]
  rfl

theorem line_ne_nil (c : Column) : c.line ≠ [] := by
  simp [line]

theorem not_mem_line (h : '\n' ∉ c.name.toList) : '\n' ∉ c.line := by
  have hnull : '\n' ∉ (if c.nullable then "" else " NOT NULL").toList := by split <;> decide
  simp only [line, toList_text, String.toList_append, List.mem_append, h, ColumnType.not_mem_text, hnull]
  decide

theorem line_eq_line_iff : c.line = d.line ↔ c.Alike d := by
  rw [line, line, String.toList_inj, String.append_right_inj, text_eq_text_iff]

/-- The columns that a table definition writes, for names with no line feed in them. -/
theorem render_eq_render_iff (hcs : ∀ c ∈ cs, '\n' ∉ c.name.toList) (hds : ∀ d ∈ ds, '\n' ∉ d.name.toList) :
    render cs = render ds ↔ List.Forall₂ Alike cs ds := by
  have hlines : ∀ {es : List Column}, (∀ e ∈ es, '\n' ∉ e.name.toList) → ∀ s ∈ es.map line, s ≠ [] ∧ '\n' ∉ s := by
    intro es hes s hs
    obtain ⟨e, he, rfl⟩ := List.mem_map.1 hs
    exact ⟨e.line_ne_nil, not_mem_line (hes e he)⟩
  rw [← String.toList_inj, toList_render, toList_render,
    Text.intercalate_inj (by decide) (hlines hcs) (hlines hds), ← List.forall₂_eq_eq_eq, List.forall₂_map_left_iff,
    List.forall₂_map_right_iff]
  simp only [line_eq_line_iff]

/-- A name with a comma and a type in it is not taken for two columns. -/
theorem render_name_with_comma :
    (∀ c ∈ [(⟨"QTY NUMBER,  NOTE", "note", .clob, false⟩ : Column)], '\n' ∉ c.name.toList) ∧
      (∀ d ∈ [(⟨"QTY", "qty", .number, true⟩ : Column), ⟨"NOTE", "note", .clob, false⟩], '\n' ∉ d.name.toList) ∧
      render [⟨"QTY NUMBER,  NOTE", "note", .clob, false⟩] ≠
        render [⟨"QTY", "qty", .number, true⟩, ⟨"NOTE", "note", .clob, false⟩] := by
  have hone : ∀ c ∈ [(⟨"QTY NUMBER,  NOTE", "note", .clob, false⟩ : Column)], '\n' ∉ c.name.toList := by decide
  have htwo : ∀ d ∈ [(⟨"QTY", "qty", .number, true⟩ : Column), ⟨"NOTE", "note", .clob, false⟩],
      '\n' ∉ d.name.toList := by decide
  exact ⟨hone, htwo, fun h => nomatch ((render_eq_render_iff hone htwo).1 h).length_eq⟩

-- With a line feed in a name, it is.
example : render [⟨"QTY NUMBER,\n  NOTE", "note", .clob, false⟩] =
    render [⟨"QTY", "qty", .number, true⟩, ⟨"NOTE", "note", .clob, false⟩] := by decide

end Column
end OracleIntake

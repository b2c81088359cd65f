import Mathlib.Data.List.Forall2
import OracleIntake.Proofs.Column.Priority
import OracleIntake.Proofs.Text.Spelling

/-!
# Names in other spellings

A name, a tag and a declared type are looked up without blanks around them and in lower case, and a format in lower
case. Before that nothing is read of them, so another spelling of one word never gives another column type, whatever
other characters stand in it.

* `Fragment.primaryType_respelled`, `typeOfTag?_respelled`: what is looked up is the same.
* `Fragment.isNullName_iff`: the letters of `null` come from ASCII letters only.
* `columnType_respelled`: two fields whose names, tags, types and formats are spelled differently.
-/
namespace OracleIntake

theorem typeOfTag?_respelled {tag tag' : String} (h : Text.Respelled tag tag') : typeOfTag? tag = typeOfTag? tag' := by
  rw [typeOfTag?, typeOfTag?, h.normalized_eq]

theorem bind_typeOfTag?_respelled {tag tag' : Option String} (h : Option.Rel Text.Respelled tag tag') :
    tag.bind typeOfTag? = tag'.bind typeOfTag? := by
  cases h with
  | none => rfl
  | some htag => rw [Option.bind_some, Option.bind_some, typeOfTag?_respelled htag]

namespace Fragment
variable {f f' : Fragment}

theorem map_normalized_respelled {types types' : List String} (h : List.Forall₂ Text.Respelled types types') :
    types.map normalized = types'.map normalized := by
  induction h with
  | nil => rfl
  | cons hhead _ ih => rw [List.map_cons, List.map_cons, ih, normalized, hhead.normalized_eq, normalized]

theorem primaryType_respelled (h : List.Forall₂ Text.Respelled f.types f'.types) :
    f.primaryType = f'.primaryType := by
  rw [primaryType, map_normalized_respelled h, primaryType]

theorem isTimeFormat_recased {format format' : String} (h : Text.Recased format format') :
    isTimeFormat format = isTimeFormat format' := by
  rw [isTimeFormat, h.lowered_eq, isTimeFormat]

theorem any_isTimeFormat_recased {format format' : Option String} (h : Option.Rel Text.Recased format format') :
    format.any isTimeFormat = format'.any isTimeFormat := by
  cases h with
  | none => rfl
  | some hformat => rw [Option.any_some, Option.any_some, isTimeFormat_recased hformat]

/-- A type in lower case is `null` exactly if it is in ASCII letters: no other character has one of its letters as
lower-case form. -/
theorem isNullName_iff {type : String} : isNullName type = true ↔ normalized type = "null" := by
  have hword : ['n', 'u', 'l', 'l'] ⊆ Text.plainLetters := by decide +kernel
  have hnormalized : normalized type = "null" ↔ Text.lower (Text.trim type.toList) = ['n', 'u', 'l', 'l'] := by
    simp only [normalized, Text.lowered, Text.trimmed, String.toList_ofList]
    rw [← String.toList_inj, String.toList_ofList]
    rfl
  rw [isNullName, Text.sameLetters_iff, hnormalized, Text.lower_eq_word_iff hword]
  rfl

end Fragment

namespace Evidence
variable {e e' : Evidence}

/-- The same is known of both fields, in other spellings. -/
structure Respelled (e e' : Evidence) : Prop where
  field : Text.Respelled e.field e'.field
  tag : Option.Rel Text.Respelled e.tag e'.tag
  types : List.Forall₂ Text.Respelled e.declared.types e'.declared.types
  format : Option.Rel Text.Recased e.declared.format e'.declared.format
  maxLength : e.declared.maxLength = e'.declared.maxLength
  sample : e.sample = e'.sample

/-- **Spellings.** Other spellings give the same column type. -/
theorem columnType_respelled (h : Respelled e e') : e.columnType = e'.columnType := by
  have hname : e.name = e'.name := h.field.normalized_eq
  have hfragment : e.declared.columnType? = e'.declared.columnType? :=
    Fragment.columnType?_congr (Fragment.primaryType_respelled h.types) (Fragment.any_isTimeFormat_recased h.format)
      h.maxLength
  apply columnType_congr hname (bind_typeOfTag?_respelled h.tag)
  · rw [declaredLength_eq, h.maxLength, ← declaredLength_eq]
  · rw [fromFragment?_eq, hfragment, ← fromFragment?_eq]
  · exact h.sample

/-- A name with a final sigma that no rule knows, a tag that is not known, and a fragment that decides. -/
theorem columnType_respelled_sigma :
    let e : Evidence := {
      field := "ΟΔΟΣ\u2003", tag := some "Unknown"
      fragment := some { types := ["NULL", "String"], format := some "Date-Time" } }
    let e' : Evidence := {
      field := "\tΟΔΟΣ", tag := some " uNKNOWN"
      fragment := some { types := ["null", "\nSTRING\u00A0"], format := some "DATE-time" } }
    Respelled e e' ∧ e.columnType = .timestamp ∧ e'.columnType = .timestamp := by
  intro e e'
  have hspelled : Respelled e e' := {
    field := by decide +kernel
    tag := .some (by decide +kernel)
    types := .cons (by decide +kernel) (.cons (by decide +kernel) .nil)
    format := .some (by decide +kernel)
    maxLength := rfl
    sample := rfl }
  have htype : e.columnType = .timestamp := by decide +kernel
  exact ⟨hspelled, htype, (columnType_respelled hspelled).symm.trans htype⟩

end Evidence
end OracleIntake

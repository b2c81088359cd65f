import OracleIntake.Proofs.Column.Priority

/-!
# Bulk collections

A bulk collection is written into one text column of full width. Its name decides that against everything but a
tag that stands for something other than text: no declared length, no sample, no other rule that the name fits and
no tag for text makes the column narrower.

* `columnType_full`, `columnType_other`: the column type of a bulk collection.
* `columnType_bulkCollection`: the override as a whole.
-/
namespace OracleIntake.Evidence
variable {e : Evidence}

/-- The tag says nothing, or it says that the field is text. -/
def AdmitsText (e : Evidence) : Prop := ∀ type, e.tagType? = some type → type.isBoundedText = true

theorem columnType_full (h : e.IsCollection) (ht : e.AdmitsText) :
    e.columnType = .varchar2 ColumnType.maxLength := by
  cases htag : e.tagType? with
  | some type => rw [columnType_of_tag htag, sized_of_collection h (ht type htag)]
  | none =>
    -- the rule for bulk collections stands before all others that the name may fit
    have htext : NameRule.bulkCollection.type.isBoundedText = true := rfl
    rw [columnType_of_rule htag (rule?_of_collection h), sized_of_collection h htext]

theorem columnType_other {type : ColumnType} (ht : e.tagType? = some type) (hother : type.isBoundedText = false) :
    e.columnType = type := by
  rw [columnType_of_tag ht, sized_of_other hother]

/-- Of all that is known about a bulk collection only what its tag stands for plays a part. -/
theorem columnType_collection_congr {e' : Evidence} (h : e.IsCollection) (h' : e'.IsCollection)
    (ht : e.tagType? = e'.tagType?) : e.columnType = e'.columnType := by
  cases htag : e.tagType? with
  | some type =>
    have htag' : e'.tagType? = some type := ht.symm.trans htag
    cases htext : type.isBoundedText with
    | true =>
      rw [columnType_of_tag htag, columnType_of_tag htag', sized_of_collection h htext,
        sized_of_collection h' htext]
    | false => rw [columnType_other htag htext, columnType_other htag' htext]
  | none =>
    have htag' : e'.tagType? = none := ht.symm.trans htag
    have hnone : ∀ d : Evidence, d.tagType? = none → d.AdmitsText := fun d hd type ht => by simp [hd] at ht
    rw [columnType_full h (hnone e htag), columnType_full h' (hnone e' htag')]

/-- **The override.** A bulk collection has a column of full width, unless a tag stands for something other than
text, and then the type of that tag as it is. Fields with such names and the same tag do not differ. -/
theorem columnType_bulkCollection (e : Evidence) (h : e.IsCollection) :
    ((∀ type, e.tagType? = some type → type.isBoundedText = true) →
      e.columnType = .varchar2 4000 ∧ e.columnType.text = "VARCHAR2(4000 CHAR)") ∧
    (∀ type, e.tagType? = some type → type.isBoundedText = false → e.columnType = type) ∧
    ∀ e' : Evidence, e'.IsCollection → e'.tag = e.tag → e'.columnType = e.columnType := by
  refine ⟨fun htext => ?_, fun type ht hother => columnType_other ht hother, fun e' h' htag => ?_⟩
  · have hfull : e.columnType = .varchar2 4000 := columnType_full h htext
    exact ⟨hfull, by rw [hfull]; rfl⟩
  · exact columnType_collection_congr h' h (by rw [tagType?, htag, tagType?])

/-- A name that fits the rule for flags too, with a tag for text, a declared length and a sample. -/
theorem columnType_bulkCollection_crowded :
    let e : Evidence := {
      field := " Is_Order_SET\t", tag := some "VARCHAR", sample := some (.string "x")
      fragment := some { types := ["string"], maxLength := some 7 } }
    e.IsCollection ∧ (∀ type, e.tagType? = some type → type.isBoundedText = true) ∧
      e.columnType.text = "VARCHAR2(4000 CHAR)" := by
  intro e
  have hname : e.IsCollection := isCollection_iff.2 (by decide +kernel)
  have htag : e.tagType? = some (.varchar2 255) := by decide +kernel
  have htext : ∀ type, e.tagType? = some type → type.isBoundedText = true := fun type ht => by
    rw [htag] at ht
    cases ht
    rfl
  exact ⟨hname, htext, ((columnType_bulkCollection e hname).1 htext).2⟩

end OracleIntake.Evidence

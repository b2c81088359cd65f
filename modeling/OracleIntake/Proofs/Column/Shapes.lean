import OracleIntake.Proofs.Column.Mapping

/-!
# Properties that stand alone

An object of properties may stand for a schema without being wrapped under `properties`. The two shapes are told
apart by the data: an object with an object under `properties` is a schema. The members of a bare object of properties
are all objects, so that none is taken for the required names, and `properties` is the only name that changes its
meaning.

* `columns_wrapped`: the columns of wrapped properties, of which none is required.
* `columns_of_bare`, `columns_of_nested`: the two readings of a bare object.
* `filter_columns_insert`: one more property changes the column of its field only.
* `columns_bare`: what a mapper makes of every bare object of properties.
-/
namespace OracleIntake

namespace Mapper
variable {m : Mapper} {ps : Bindings Json}

/-- The schema with these properties, and nothing else in it. -/
def wrapped (ps : Bindings Json) : Json := .object [("properties", .object ps)]

/-- Every field has an object for its property. -/
def OnlyObjects (ps : Bindings Json) : Prop := ∀ x ∈ ps, ∃ members, x.2 = .object members

theorem columns_wrapped (m : Mapper) (ps : Bindings Json) :
    m.columns (wrapped ps) = ps.entries.map fun x => m.column x.1 x.2 false := rfl

theorem OnlyObjects.of_value? (h : OnlyObjects ps) {key : String} {property : Json}
    (hvalue : Bindings.value? key ps = some property) : ∃ members, property = .object members := by
  obtain ⟨before, after, rfl, -⟩ := Bindings.value?_eq_some_iff.1 hvalue
  exact h (key, property) (by simp)

/-- No field is required, also if one is called `required`. -/
theorem OnlyObjects.required_eq (h : OnlyObjects ps) : required (.object ps) = [] := by
  have hnone : (Bindings.value? "required" ps).bind Json.items? = none := by
    cases hvalue : Bindings.value? "required" ps with
    | none => rfl
    | some property =>
      obtain ⟨members, rfl⟩ := h.of_value? hvalue
      rfl
  rw [required, Json.member?, hnone]
  rfl

theorem OnlyObjects.columns_eq (h : OnlyObjects ps) (m : Mapper) :
    m.columns (.object ps) = (properties (.object ps)).map fun x => m.column x.1 x.2 false := by
  rw [columns, h.required_eq]
  rfl

/-! ## Two readings -/

theorem columns_of_bare (h : OnlyObjects ps) (hname : ∀ x ∈ ps, x.1 ≠ "properties") :
    m.columns (.object ps) = m.columns (wrapped ps) := by
  have hproperties : properties (.object ps) = ps.entries := by
    rw [properties, Json.member?, Bindings.value?_eq_none_iff.2 hname]
    rfl
  rw [h.columns_eq, columns_wrapped, hproperties]

theorem columns_of_nested (h : OnlyObjects ps) {inner : Bindings Json}
    (hname : Bindings.value? "properties" ps = some (.object inner)) :
    m.columns (.object ps) = m.columns (wrapped inner) := by
  have hmember : (Json.object ps).member? "properties" = some (.object inner) := hname
  rw [h.columns_eq, columns_wrapped, properties_of_object hmember]

/-! ## One more field -/

theorem filter_columns_insert (m : Mapper) (field : String) (property : Json) (before after : Bindings Json) :
    (m.columns (wrapped (before ++ (field, property) :: after))).filter (fun c => c.source != field) =
      (m.columns (wrapped (before ++ after))).filter fun c => c.source != field := by
  have hsource : ((fun c : Column => c.source != field) ∘ fun x : String × Json => m.column x.1 x.2 false) =
      fun x => x.1 != field := rfl
  rw [columns_wrapped, columns_wrapped, List.filter_map, List.filter_map, hsource, Bindings.filter_entries_insert]

theorem OnlyObjects.insert {before after : Bindings Json} (h : OnlyObjects (before ++ after)) (field : String)
    (members : Bindings Json) : OnlyObjects (before ++ (field, .object members) :: after) := by
  intro x hx
  rcases List.mem_append.1 hx with hx | hx
  · exact h x (List.mem_append_left _ hx)
  · rcases List.mem_cons.1 hx with rfl | hx
    · exact ⟨members, rfl⟩
    · exact h x (List.mem_append_right _ hx)

/-- What a mapper makes of an object of properties that stands alone. -/
structure Bare (m : Mapper) (ps : Bindings Json) : Prop where
  /-- Without a field `properties`, it has the columns that it has under `properties`. -/
  alike : (∀ x ∈ ps, x.1 ≠ "properties") → m.columns (.object ps) = m.columns (wrapped ps)
  /-- One more field of another name, wherever it stands, leaves the columns of the other fields as they are. -/
  added : (∀ x ∈ ps, x.1 ≠ "properties") → ∀ before after, ps = before ++ after →
    ∀ field members, field ≠ "properties" →
      (m.columns (.object (before ++ (field, .object members) :: after))).filter (fun c => c.source != field) =
        (m.columns (.object ps)).filter fun c => c.source != field
  /-- With a field `properties`, it is a schema with the properties that stand there. -/
  nested : ∀ inner, Bindings.value? "properties" ps = some (.object inner) →
    m.columns (.object ps) = m.columns (wrapped inner)

/-- **Bare properties.** An object of properties without a field `properties` has the same columns alone and
under `properties`. -/
theorem columns_bare (m : Mapper) (h : OnlyObjects ps) : Bare m ps where
  alike := columns_of_bare h
  added hname before after hps field members hfield := by
    subst hps
    have hname' : ∀ x ∈ before ++ (field, Json.object members) :: after, x.1 ≠ "properties" := by
      simp only [List.forall_mem_append, List.forall_mem_cons] at hname ⊢
      exact ⟨hname.1, hfield, hname.2⟩
    rw [columns_of_bare (h.insert field members) hname', columns_of_bare h hname, filter_columns_insert]
  nested _ hname := columns_of_nested h hname

/-- Fields with the names of other keywords are fields like any other. -/
theorem columns_bare_keywords :
    let ps : Bindings Json :=
      [("required", .object [("type", .string "boolean")]), ("type", .object [("type", .string "integer")])]
    OnlyObjects ps ∧ (∀ x ∈ ps, x.1 ≠ "properties") ∧
      (({} : Mapper).columns (.object ps)).map Column.text = ["REQUIRED NUMBER(1,0)", "TYPE NUMBER"] := by
  intro ps
  have h : OnlyObjects ps := by simp [OnlyObjects, ps]
  have hname : ∀ x ∈ ps, x.1 ≠ "properties" := by simp [ps]
  refine ⟨h, hname, ?_⟩
  rw [(columns_bare {} h).alike hname]
  decide +kernel

/-- A field `properties` hides the other fields of a bare object: its property is read as all properties. -/
theorem columns_bare_hidden :
    let ps : Bindings Json :=
      [("order_id", .object [("type", .string "integer")]), ("properties", .object [("type", .string "object")])]
    OnlyObjects ps ∧
      (({} : Mapper).columns (.object ps)).map Column.text = ["TYPE VARCHAR2(255 CHAR)"] ∧
      (({} : Mapper).columns (wrapped ps)).map Column.text = ["ORDER_ID NUMBER", "PROPERTIES CLOB"] ∧
      ({} : Mapper).columns (.object ps) ≠ ({} : Mapper).columns (wrapped ps) := by
  intro ps
  have hbare : (({} : Mapper).columns (.object ps)).map Column.text = ["TYPE VARCHAR2(255 CHAR)"] := by
    decide +kernel
  have hwrapped : (({} : Mapper).columns (wrapped ps)).map Column.text = ["ORDER_ID NUMBER", "PROPERTIES CLOB"] := by
    decide +kernel
  refine ⟨by simp [OnlyObjects, ps], hbare, hwrapped, fun heq => ?_⟩
  rw [heq, hwrapped] at hbare
  simp at hbare

end Mapper
end OracleIntake

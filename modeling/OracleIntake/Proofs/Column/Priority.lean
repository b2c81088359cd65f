import OracleIntake.Column.Evidence

/-!
# Which evidence decides

A tag that is known decides first, then a rule that the name fits, then a fragment with a type of JSON schema,
then the sample. Each decides alone but for one thing: text that a tag or a rule gives gets the declared
length, which stands in the fragment.

* `columnType_of_tag`, `columnType_of_rule`, `columnType_of_fragment`, `columnType_of_sample`: what the column
  type is when this evidence decides.
* `columnType_congr`: what plays a part at all.
* `columnType_priority`: two fields have the same column type as soon as what decides is the same for both.
-/
namespace OracleIntake

namespace Fragment
variable {f f' : Fragment}

/-- The types of JSON schema other than `null`. -/
def jsonTypes : List String := ["integer", "number", "boolean", "string", "object", "array"]

/-- The first declared type that is not `null` is a type of JSON schema. -/
def IsTyped (f : Fragment) : Prop := ∃ type ∈ jsonTypes, f.primaryType = some type

theorem isTyped_iff : f.IsTyped ↔ f.columnType?.isSome := by
  unfold columnType? IsTyped
  split <;> simp_all [jsonTypes]

/-- Of a fragment only the first type that is not `null`, whether the format is one of dates, and the length play a
part. -/
theorem columnType?_congr (hprimary : f.primaryType = f'.primaryType)
    (hformat : f.format.any isTimeFormat = f'.format.any isTimeFormat) (hlength : f.maxLength = f'.maxLength) :
    f.columnType? = f'.columnType? := by
  rw [columnType?, hprimary, hformat, hlength, columnType?]

end Fragment

namespace Evidence
variable {e e' : Evidence}

/-- The column type that the tag stands for, if there is a tag and it is known. -/
def tagType? (e : Evidence) : Option ColumnType := e.tag.bind typeOfTag?

/-- The first rule that the name fits. -/
def rule? (e : Evidence) : Option NameRule := NameRule.find? e.name

/-- The name is that of a bulk collection: one or more characters before `_set`. -/
def IsCollection (e : Evidence) : Prop := ∃ p, p ≠ [] ∧ e.name.toList = p ++ "_set".toList

/-- At most the sample says something. -/
structure LeftToSample (e : Evidence) : Prop where
  tag : e.tagType? = none
  rule : e.rule? = none
  fragment : ∀ f, e.fragment = some f → ¬ f.IsTyped

/-- The type as the field gets it from a tag or a rule: text of a bulk collection has full width, and any other
text has the declared length. -/
def sized (e : Evidence) (type : ColumnType) : ColumnType :=
  if type.isBoundedText && NameRule.isBulkCollection e.name then .varchar2 ColumnType.maxLength
  else type.withDeclaredLength e.declaredLength

theorem isCollection_iff : e.IsCollection ↔ NameRule.isBulkCollection e.name = true :=
  NameRule.isBulkCollection_iff.symm

theorem sized_of_collection (h : e.IsCollection) {type : ColumnType} (ht : type.isBoundedText = true) :
    e.sized type = .varchar2 ColumnType.maxLength := by
  simp [sized, ht, isCollection_iff.1 h]

theorem sized_of_single (h : ¬ e.IsCollection) (type : ColumnType) :
    e.sized type = type.withDeclaredLength e.declaredLength := by
  simp [sized, mt isCollection_iff.2 h]

theorem sized_of_other {type : ColumnType} (ht : type.isBoundedText = false) : e.sized type = type := by
  simp [sized, ht, ColumnType.withDeclaredLength_of_other]

theorem sized_congr (hname : e.name = e'.name) (hlength : e.declaredLength = e'.declaredLength)
    (type : ColumnType) : e.sized type = e'.sized type := by
  rw [sized, sized, hname, hlength]

theorem rule?_of_collection (h : e.IsCollection) : e.rule? = some .bulkCollection :=
  NameRule.find?_of_isBulkCollection (isCollection_iff.1 h)

/-! ## The column type, told by what decides -/

theorem fromTag?_eq (e : Evidence) : e.fromTag? = e.tagType?.map e.sized := rfl

/-- A rule gives its type like a tag: the one rule for bulk collections has the full width already. -/
theorem fromName?_eq (e : Evidence) : e.fromName? = e.rule?.map fun rule => e.sized rule.type := by
  by_cases h : e.IsCollection
  · have hfind : NameRule.find? e.name = some .bulkCollection := rule?_of_collection h
    have hsized : e.sized NameRule.bulkCollection.type = .varchar2 ColumnType.maxLength :=
      sized_of_collection h rfl
    rw [fromName?, rule?, hfind, Option.map_some, Option.map_some, hsized, if_pos (isCollection_iff.1 h)]
    rfl
  · simp only [fromName?, rule?, if_neg (mt isCollection_iff.2 h), sized_of_single h]

theorem columnType_of_tag {type : ColumnType} (h : e.tagType? = some type) : e.columnType = e.sized type := by
  simp [columnType, fromTag?_eq, h]

theorem columnType_of_rule (ht : e.tagType? = none) {rule : NameRule} (h : e.rule? = some rule) :
    e.columnType = e.sized rule.type := by
  simp [columnType, fromTag?_eq, fromName?_eq, ht, h]

theorem columnType_of_untold (ht : e.tagType? = none) (hr : e.rule? = none) :
    e.columnType = (e.fromFragment?.or e.fromSample?).getD (.varchar2 ColumnType.defaultLength) := by
  simp [columnType, fromTag?_eq, fromName?_eq, ht, hr]

theorem columnType_of_fragment (ht : e.tagType? = none) (hr : e.rule? = none) {f : Fragment}
    (hf : e.fragment = some f) {type : ColumnType} (h : f.columnType? = some type) : e.columnType = type := by
  simp [columnType_of_untold ht hr, fromFragment?, hf, h]

theorem fromFragment?_of_leftToSample (h : e.LeftToSample) : e.fromFragment? = none := by
  rw [fromFragment?, Option.bind_eq_none_iff]
  intro f hf
  simpa [Fragment.isTyped_iff] using h.fragment f hf

theorem columnType_of_sample (h : e.LeftToSample) :
    e.columnType = e.fromSample?.getD (.varchar2 ColumnType.defaultLength) := by
  simp [columnType_of_untold h.tag h.rule, fromFragment?_of_leftToSample h]

theorem leftToSample_of_none (ht : e.tagType? = none) (hr : e.rule? = none) (hf : e.fromFragment? = none) :
    e.LeftToSample := by
  refine ⟨ht, hr, fun f hf' htyped => ?_⟩
  rw [fromFragment?, hf', Option.bind_some] at hf
  simp [Fragment.isTyped_iff, hf] at htyped

/-! ## Two fields -/

/-- What the fragment declares; without one, nothing. -/
def declared (e : Evidence) : Fragment := e.fragment.getD {}

theorem declaredLength_eq (e : Evidence) : e.declaredLength = e.declared.maxLength := by
  unfold declaredLength declared
  cases e.fragment <;> rfl

theorem fromFragment?_eq (e : Evidence) : e.fromFragment? = e.declared.columnType? := by
  unfold fromFragment? declared
  cases e.fragment <;> rfl

/-- Of all evidence only the normal form of the name, what the tag and the fragment stand for, the declared length
and the sample play a part. -/
theorem columnType_congr (hname : e.name = e'.name) (htag : e.tagType? = e'.tagType?)
    (hlength : e.declaredLength = e'.declaredLength) (hfragment : e.fromFragment? = e'.fromFragment?)
    (hsample : e.sample = e'.sample) : e.columnType = e'.columnType := by
  have hsized : e.sized = e'.sized := funext (sized_congr hname hlength)
  have hrule : e.rule? = e'.rule? := by rw [rule?, hname, rule?]
  have hfromSample : e.fromSample? = e'.fromSample? := by rw [fromSample?, hsample, fromSample?]
  rw [columnType, fromTag?_eq, fromName?_eq, htag, hrule, hsized, hfragment, hfromSample, ← fromTag?_eq,
    ← fromName?_eq, columnType]

/-- Evidence decides in a strict order: what comes after the evidence that decides plays no part, but that text
gets the declared length. -/
structure Priority (e e' : Evidence) : Prop where
  /-- The same known tag on the same name, with the same declared length. -/
  tag : ∀ type, e.tag = e'.tag → e.tagType? = some type → e.name = e'.name →
    e.declaredLength = e'.declaredLength → e.columnType = e'.columnType
  /-- The same known tag, if it stands for anything but text of some length. -/
  otherTag : ∀ type, e.tag = e'.tag → e.tagType? = some type → type.isBoundedText = false →
    e.columnType = e'.columnType
  /-- The same name that fits some rule, with the same declared length. -/
  name : e.tagType? = none → e'.tagType? = none → e.name = e'.name → e.rule?.isSome →
    e.declaredLength = e'.declaredLength → e.columnType = e'.columnType
  /-- The same fragment with a type of JSON schema. -/
  fragment : ∀ f, e.tagType? = none → e'.tagType? = none → e.rule? = none → e'.rule? = none →
    e.fragment = some f → e'.fragment = some f → f.IsTyped → e.columnType = e'.columnType
  /-- The same sample, or none. -/
  sample : e.LeftToSample → e'.LeftToSample → e.sample = e'.sample → e.columnType = e'.columnType
  /-- No sample, or one that says nothing. -/
  nothing : e.LeftToSample → (e.sample = none ∨ e.sample = some .null ∨ e.sample = some (.string "")) →
    e.columnType = .varchar2 255

/-- **Priority.** -/
theorem columnType_priority (e e' : Evidence) : Priority e e' where
  tag type htag htype hname hlength := by
    have htype' : e'.tagType? = some type := by rw [tagType?, ← htag]; exact htype
    rw [columnType_of_tag htype, columnType_of_tag htype', sized_congr hname hlength]
  otherTag type htag htype hother := by
    have htype' : e'.tagType? = some type := by rw [tagType?, ← htag]; exact htype
    rw [columnType_of_tag htype, columnType_of_tag htype', sized_of_other hother, sized_of_other hother]
  name ht ht' hname hrule hlength := by
    obtain ⟨rule, hr⟩ := Option.isSome_iff_exists.1 hrule
    have hr' : e'.rule? = some rule := by rw [rule?, ← hname]; exact hr
    rw [columnType_of_rule ht hr, columnType_of_rule ht' hr', sized_congr hname hlength]
  fragment f ht ht' hr hr' hf hf' htyped := by
    obtain ⟨type, htype⟩ := Option.isSome_iff_exists.1 (Fragment.isTyped_iff.1 htyped)
    rw [columnType_of_fragment ht hr hf htype, columnType_of_fragment ht' hr' hf' htype]
  sample h h' hsample := by
    rw [columnType_of_sample h, columnType_of_sample h', fromSample?, hsample]
    rfl
  nothing h hsample := by
    rw [columnType_of_sample h, fromSample?]
    rcases hsample with hs | hs | hs <;> rw [hs] <;> rfl

/-- Two fields for each law, of which only what comes after the evidence that decides differs. -/
theorem columnType_priority_overruled :
    let text : Fragment := { types := ["string"], maxLength := some 9 }
    let truth : Fragment := { types := ["null", "Boolean"], maxLength := some 9 }
    let date : Json := .string "2024-01-31"
    let tagged : Evidence := { field := "dc_code", tag := some " Text ", fragment := some text, sample := some date }
    let tagged' : Evidence := { field := "DC_CODE", tag := some " Text ", fragment := some truth }
    let document : Evidence := { field := "item_set", tag := some "json", fragment := some text }
    let document' : Evidence := { field := "order_qty", tag := some "json", sample := some date }
    let named : Evidence := { field := " Order_Qty ", tag := some "other", fragment := some text, sample := some date }
    let named' : Evidence := { field := "order_qty", fragment := some truth }
    let typed : Evidence := { field := "warehouse", tag := some "other", fragment := some truth, sample := some date }
    let typed' : Evidence := { field := "season", fragment := some truth, sample := some .null }
    let sampled : Evidence := { field := "warehouse", tag := some "other", sample := some date }
    let sampled' : Evidence := { field := "season", fragment := some { maxLength := some 9 }, sample := some date }
    (tagged.columnType = tagged'.columnType ∧ tagged.columnType = .varchar2 9) ∧
      (document.columnType = document'.columnType ∧ document.columnType = .clob) ∧
      (named.columnType = named'.columnType ∧ named.columnType = .number) ∧
      (typed.columnType = typed'.columnType ∧ typed.columnType = .flag) ∧
      (sampled.columnType = sampled'.columnType ∧ sampled.columnType = .timestamp) := by
  intro text truth date tagged tagged' document document' named named' typed typed' sampled sampled'
  have htruth : truth.IsTyped := ⟨"boolean", by decide, by decide +kernel⟩
  have hunruled : ∀ e : Evidence, e.field = "warehouse" ∨ e.field = "season" → e.rule? = none := by
    rintro e (h | h) <;> rw [rule?, name, h] <;> decide +kernel
  have hsampled : sampled.LeftToSample := ⟨by decide +kernel, hunruled _ (.inl rfl), nofun⟩
  have hsampled' : sampled'.LeftToSample := by
    refine ⟨rfl, hunruled _ (.inr rfl), fun f hf htyped => ?_⟩
    cases hf
    rw [Fragment.isTyped_iff] at htyped
    revert htyped
    decide
  have hflag : typed.columnType = .flag :=
    columnType_of_fragment (by decide +kernel) (hunruled _ (.inl rfl)) rfl (by decide +kernel)
  have hmoment : sampled.columnType = .timestamp := by
    rw [columnType_of_sample hsampled]
    decide +kernel
  refine ⟨⟨?_, by decide +kernel⟩, ⟨?_, by decide +kernel⟩, ⟨?_, by decide +kernel⟩, ⟨?_, hflag⟩, ?_, hmoment⟩
  · exact (columnType_priority tagged tagged').tag (.varchar2 255) rfl (by decide +kernel) (by decide +kernel) rfl
  · exact (columnType_priority document document').otherTag .clob rfl (by decide +kernel) rfl
  · exact (columnType_priority named named').name (by decide +kernel) rfl (by decide +kernel) (by decide +kernel) rfl
  · exact (columnType_priority typed typed').fragment truth (by decide +kernel) rfl (hunruled _ (.inl rfl))
      (hunruled _ (.inr rfl)) rfl rfl htruth
  · exact (columnType_priority sampled sampled').sample hsampled hsampled' rfl

end Evidence
end OracleIntake

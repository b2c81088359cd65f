import OracleIntake.Column.Mapper
import OracleIntake.Proofs.Column.Priority

/-!
# Lengths of text columns

Whatever is known of a field, its column has a type that the database takes: a text column is between 1 and 4000
characters long. A length that a property declares acts only on text that a tag, a rule or the property itself
gives, and only if it is at least one; a bulk collection keeps its full width.

* `columnType_legal`: every column type is legal, and text samples fit into their columns.
* `column_declaredLength`: what declaring a length changes in a column.
-/
namespace OracleIntake

/-! ## Legal types -/

theorem NameRule.isLegal_of_find? {name : String} {rule : NameRule} (h : NameRule.find? name = some rule) :
    rule.type.IsLegal := by
  have hall : ∀ rule ∈ NameRule.standard, rule.type.IsLegal := by decide
  exact hall rule (List.mem_of_find?_eq_some h)

theorem isLegal_of_typeOfTag? {tag : String} {type : ColumnType} (h : typeOfTag? tag = some type) :
    type.IsLegal := by
  have hall : ∀ entry ∈ typeTags, entry.2.IsLegal := by decide
  unfold typeOfTag? at h
  obtain ⟨entry, hfind, rfl⟩ := Option.map_eq_some_iff.1 h
  exact hall entry (List.mem_of_find?_eq_some hfind)

theorem Fragment.isLegal_of_columnType? {f : Fragment} {type : ColumnType} (h : f.columnType? = some type) :
    type.IsLegal := by
  unfold columnType? at h
  split at h
  · cases h; trivial
  · cases h; trivial
  · cases h; trivial
  · cases h
    split
    · trivial
    · exact ColumnType.isLegal_declared _
  · cases h; trivial
  · cases h; trivial
  · cases h

theorem Sample.isLegal_of_columnType? {v : Json} {type : ColumnType} (h : Sample.columnType? v = some type) :
    type.IsLegal := by
  cases v with
  | string s =>
    cases h
    unfold textType
    split
    · decide
    · split
      · trivial
      · exact ColumnType.isLegal_bounded _
  | bool | number | array | object =>
    cases h
    trivial
  | null => cases h

namespace Evidence
variable {e : Evidence}

theorem isLegal_sized {type : ColumnType} (h : type.IsLegal) : (e.sized type).IsLegal := by
  unfold sized
  split
  · decide
  · exact ColumnType.withDeclaredLength_legal h _

theorem isLegal_columnType (e : Evidence) : e.columnType.IsLegal := by
  cases ht : e.tagType? with
  | some type =>
    obtain ⟨tag, -, htag⟩ := Option.bind_eq_some_iff.1 ht
    rw [columnType_of_tag ht]
    exact isLegal_sized (isLegal_of_typeOfTag? htag)
  | none =>
    cases hr : e.rule? with
    | some rule =>
      rw [columnType_of_rule ht hr]
      exact isLegal_sized (NameRule.isLegal_of_find? hr)
    | none =>
      cases hf : e.fromFragment? with
      | some type =>
        obtain ⟨f, hfragment, htype⟩ := Option.bind_eq_some_iff.1 hf
        rw [columnType_of_fragment ht hr hfragment htype]
        exact Fragment.isLegal_of_columnType? htype
      | none =>
        rw [columnType_of_sample (leftToSample_of_none ht hr hf)]
        cases hs : e.fromSample? with
        | some type =>
          obtain ⟨v, -, htype⟩ := Option.bind_eq_some_iff.1 hs
          exact Sample.isLegal_of_columnType? htype
        | none => decide

@[simp] theorem isBoundedText_sized (type : ColumnType) : (e.sized type).isBoundedText = type.isBoundedText := by
  cases htext : type.isBoundedText with
  | false => rw [sized_of_other htext, htext]
  | true =>
    by_cases hc : e.IsCollection
    · rw [sized_of_collection hc htext]
      rfl
    · rw [sized_of_single hc, ColumnType.isBoundedText_withDeclaredLength, htext]

/-- A text that names no moment gives its column twice its length, if that much is allowed. -/
theorem columnType_of_text (h : e.LeftToSample) {s : String} (hs : e.sample = some (.string s)) (hne : s ≠ "")
    (hmoment : Sample.isMoment s = false) :
    e.columnType = .varchar2 (min (2 * s.length) ColumnType.maxLength) := by
  have hempty : s.isEmpty = false := by simpa using hne
  have hpos : 0 < s.length := Nat.pos_of_ne_zero (mt String.length_eq_zero_iff.1 hne)
  rw [columnType_of_sample h, fromSample?, hs, Option.bind_some, Sample.columnType?, Option.getD_some,
    Sample.textType, hempty, hmoment]
  exact ColumnType.bounded_of_pos (by omega)

end Evidence

/-- **Legal types.** Every field has a legal column type, and so has every column of a schema. Text whose type
comes from a sample has room for the sample, unless that is longer than any text may be. -/
theorem columnType_legal :
    (∀ e : Evidence, e.columnType.IsLegal) ∧
      (∀ (m : Mapper) (schema : Json), ∀ c ∈ m.columns schema, c.type.IsLegal) ∧
      ∀ (e : Evidence) (s : String), e.LeftToSample → e.sample = some (.string s) → s ≠ "" →
        Sample.isMoment s = false → ∃ n, e.columnType = .varchar2 n ∧ n = min (2 * s.length) 4000 ∧
          (s.length ≤ 4000 → s.length ≤ n) := by
  refine ⟨Evidence.isLegal_columnType, fun m schema c hc => ?_, fun e s h hs hne hmoment => ?_⟩
  · obtain ⟨⟨field, property⟩, -, rfl⟩ := List.mem_map.1 hc
    exact Evidence.isLegal_columnType _
  · refine ⟨min (2 * s.length) 4000, Evidence.columnType_of_text h hs hne hmoment, rfl, fun hle => ?_⟩
    omega

/-- Characters count, not bytes. -/
theorem columnType_legal_accented :
    let e : Evidence := { field := "saison", sample := some (.string "été") }
    e.LeftToSample ∧ Sample.isMoment "été" = false ∧
      ∃ n, e.columnType = .varchar2 n ∧ n = 6 ∧ "été".length ≤ n := by
  intro e
  have hrule : e.rule? = none := by decide +kernel
  have hleft : e.LeftToSample := ⟨rfl, hrule, nofun⟩
  have hmoment : Sample.isMoment "été" = false := by decide +kernel
  obtain ⟨n, hn, hsize, hroom⟩ := columnType_legal.2.2 e "été" hleft rfl (by decide) hmoment
  exact ⟨hleft, hmoment, n, hn, hsize, hroom (by decide)⟩

/-! ## Declared lengths -/

namespace Fragment

def withLength (f : Fragment) (n : Option Nat) : Fragment := { f with maxLength := n }

/-- The fragment gives text of some length: a string that is no date and no time. -/
def HoldsText (f : Fragment) : Prop :=
  f.primaryType = some "string" ∧
    ∀ format, f.format = some format → Text.lowered format ∉ ["date", "date-time", "time"]

theorem columnType?_of_holdsText {f : Fragment} (h : f.HoldsText) :
    f.columnType? = some (.declared f.maxLength) := by
  have hformat : f.format.any isTimeFormat = false := by
    cases hf : f.format with
    | none => rfl
    | some format => simpa [isTimeFormat] using h.2 format hf
  simp [columnType?, h.1, hformat]

theorem columnType?_withLength {f : Fragment} (h : ¬ f.HoldsText) (n : Option Nat) :
    (f.withLength n).columnType? = f.columnType? := by
  have hprimary : (f.withLength n).primaryType = f.primaryType := rfl
  have hformat : (f.withLength n).format = f.format := rfl
  by_cases hstring : f.primaryType = some "string"
  · cases htime : f.format.any isTimeFormat with
    | true => simp [columnType?, hprimary, hformat, hstring, htime]
    | false =>
      refine absurd ⟨hstring, fun format hf hmem => ?_⟩ h
      rw [hf, Option.any_some, isTimeFormat, List.contains_iff_mem.2 hmem] at htime
      cases htime
  · unfold columnType?
    rw [hprimary]
    split <;> first | rfl | contradiction

end Fragment

namespace Evidence
variable {e : Evidence} {n : Option Nat}

def withLength (e : Evidence) (n : Option Nat) : Evidence :=
  { e with fragment := e.fragment.map (·.withLength n) }

/-- The column is one of text, and its length does not come from a sample: a tag, a rule that the name fits or a
fragment decides that it is text. -/
inductive TakesLength (e : Evidence) : Prop where
  | tag {type : ColumnType} : e.tagType? = some type → type.isBoundedText = true → TakesLength e
  | rule {rule : NameRule} : e.tagType? = none → e.rule? = some rule → rule.type.isBoundedText = true →
    TakesLength e
  | fragment {f : Fragment} : e.tagType? = none → e.rule? = none → e.fragment = some f → f.HoldsText →
    TakesLength e

@[simp] theorem tagType?_withLength : (e.withLength n).tagType? = e.tagType? := rfl

@[simp] theorem rule?_withLength : (e.withLength n).rule? = e.rule? := rfl

@[simp] theorem isCollection_withLength : (e.withLength n).IsCollection ↔ e.IsCollection := Iff.rfl

theorem fragment_withLength {f : Fragment} (hf : e.fragment = some f) :
    (e.withLength n).fragment = some (f.withLength n) := by
  rw [withLength, hf, Option.map_some]

theorem declaredLength_withLength {f : Fragment} (hf : e.fragment = some f) :
    (e.withLength n).declaredLength = n := by
  rw [declaredLength, fragment_withLength hf, Option.bind_some]
  rfl

theorem isBoundedText_of_takesLength (h : e.TakesLength) : e.columnType.isBoundedText = true := by
  cases h with
  | tag ht htext => rw [columnType_of_tag ht, isBoundedText_sized, htext]
  | rule ht hr htext => rw [columnType_of_rule ht hr, isBoundedText_sized, htext]
  | fragment ht hr hf htext =>
    rw [columnType_of_fragment ht hr hf (Fragment.columnType?_of_holdsText htext)]
    exact ColumnType.isBoundedText_declared _

/-- A length of at least one becomes that of text, unless the field is a bulk collection. -/
theorem sized_withLength {f : Fragment} (hf : e.fragment = some f) (hsingle : ¬ e.IsCollection)
    {type : ColumnType} (htext : type.isBoundedText = true) {k : Nat} (hk : 0 < k) :
    (e.withLength (some k)).sized type = .bounded k := by
  rw [sized_of_single (mt isCollection_withLength.1 hsingle), declaredLength_withLength hf,
    ColumnType.withDeclaredLength_of_pos htext hk]

/-- Where a length does not act, what a tag or a rule gives stays as without it. -/
theorem sized_withLength_of_idle {f : Fragment} (hf : e.fragment = some f) (hnone : f.maxLength = none)
    {type : ColumnType} (hidle : type.isBoundedText = true → ¬ e.IsCollection → n.getD 0 = 0) :
    (e.withLength n).sized type = e.sized type := by
  cases htext : type.isBoundedText with
  | false => rw [sized_of_other htext, sized_of_other htext]
  | true =>
    by_cases hc : e.IsCollection
    · rw [sized_of_collection hc htext, sized_of_collection (isCollection_withLength.2 hc) htext]
    · have hnone' : e.declaredLength = none := by rw [declaredLength, hf, Option.bind_some, hnone]
      rw [sized_of_single hc, sized_of_single (mt isCollection_withLength.1 hc), hnone',
        declaredLength_withLength hf, ColumnType.withDeclaredLength_of_zero (hidle htext hc),
        ColumnType.withDeclaredLength_of_zero rfl]

/-- **The length acts.** -/
theorem columnType_withLength {f : Fragment} (hf : e.fragment = some f) (h : e.TakesLength)
    (hsingle : ¬ e.IsCollection) {k : Nat} (hk : 0 < k) :
    (e.withLength (some k)).columnType = .bounded k := by
  cases h with
  | tag ht htext =>
    rw [columnType_of_tag (tagType?_withLength.trans ht), sized_withLength hf hsingle htext hk]
  | rule ht hr htext =>
    rw [columnType_of_rule (tagType?_withLength.trans ht) (rule?_withLength.trans hr),
      sized_withLength hf hsingle htext hk]
  | @fragment g ht hr hg htext =>
    have htext' : (g.withLength (some k)).HoldsText := htext
    rw [columnType_of_fragment (tagType?_withLength.trans ht) (rule?_withLength.trans hr)
      (fragment_withLength hg) (Fragment.columnType?_of_holdsText htext')]
    exact ColumnType.declared_of_pos hk

/-- What a fragment gives that decides stays as it is where a length does not act. -/
theorem columnType?_withLength_of_idle {f : Fragment} (hnone : f.maxLength = none)
    (hidle : f.HoldsText → n.getD 0 = 0) : (f.withLength n).columnType? = f.columnType? := by
  by_cases htext : f.HoldsText
  · have htext' : (f.withLength n).HoldsText := htext
    rw [Fragment.columnType?_of_holdsText htext, Fragment.columnType?_of_holdsText htext', hnone,
      Fragment.withLength, ColumnType.declared_of_zero (hidle htext)]
    rfl
  · exact Fragment.columnType?_withLength htext n

/-- **The length is idle.** -/
theorem columnType_withLength_of_idle {f : Fragment} (hf : e.fragment = some f) (hnone : f.maxLength = none)
    (hidle : e.TakesLength → ¬ e.IsCollection → n.getD 0 = 0) : (e.withLength n).columnType = e.columnType := by
  cases ht : e.tagType? with
  | some type =>
    rw [columnType_of_tag ht, columnType_of_tag (tagType?_withLength.trans ht),
      sized_withLength_of_idle hf hnone fun htext => hidle (.tag ht htext)]
  | none =>
    cases hr : e.rule? with
    | some rule =>
      rw [columnType_of_rule ht hr, columnType_of_rule (tagType?_withLength.trans ht) (rule?_withLength.trans hr),
        sized_withLength_of_idle hf hnone fun htext => hidle (.rule ht hr htext)]
    | none =>
      have hsingle : ¬ e.IsCollection := by
        intro hc
        rw [rule?_of_collection hc] at hr
        cases hr
      have hfragment : (e.withLength n).fromFragment? = e.fromFragment? := by
        rw [fromFragment?, fromFragment?, fragment_withLength hf, hf]
        exact columnType?_withLength_of_idle hnone fun htext => hidle (.fragment ht hr hf htext) hsingle
      rw [columnType_of_untold ht hr, ← hfragment]
      exact columnType_of_untold (tagType?_withLength.trans ht) (rule?_withLength.trans hr)

theorem columnType_of_collection (hc : e.IsCollection) (htext : e.columnType.isBoundedText = true) :
    e.columnType = .varchar2 4000 := by
  cases ht : e.tagType? with
  | some type =>
    rw [columnType_of_tag ht, isBoundedText_sized] at htext
    rw [columnType_of_tag ht, sized_of_collection hc htext]
    rfl
  | none =>
    rw [columnType_of_rule ht (rule?_of_collection hc), sized_of_collection hc rfl]
    rfl

end Evidence

namespace Json

theorem natural?_eq_some {v : Json} {n : Nat} : v.natural? = some n ↔ v = .number (.integer n) := by
  constructor
  · intro h
    unfold natural? at h
    split at h
    · next i =>
      split at h
      · next hi =>
        cases h
        rw [Int.toNat_of_nonneg hi]
      · cases h
    · cases h
  · rintro rfl
    simp [natural?]

end Json

namespace Mapper
variable {m : Mapper} {field : String} {before after : List (String × Json)} {v : Json}

/-- The length that a value under `maxLength` declares, if it is one. -/
def lengthOf (v : Json) : Option Nat := v.natural?.map (min · max32)

theorem lengthOf_zero (h : ∀ n : Nat, 0 < n → v ≠ .number (.integer n)) : (lengthOf v).getD 0 = 0 := by
  unfold lengthOf
  cases hv : v.natural? with
  | none => rfl
  | some n =>
    have hn : n = 0 := Nat.eq_zero_of_not_pos fun hpos => h n hpos (Json.natural?_eq_some.1 hv)
    subst hn
    rfl

section
variable (hnone : Bindings.value? "maxLength" (before ++ after) = none)
include hnone

theorem ofJson?_insert :
    Fragment.ofJson? (.object (before ++ ("maxLength", v) :: after)) =
      (Fragment.ofJson? (.object (before ++ after))).map (·.withLength (lengthOf v)) := by
  have htype := Bindings.value?_insert_of_ne (show "maxLength" ≠ "type" by decide) v before after
  have hformat := Bindings.value?_insert_of_ne (show "maxLength" ≠ "format" by decide) v before after
  simp only [Fragment.ofJson?, htype, hformat, Bindings.value?_insert_self hnone, Option.bind_some,
    Option.map_some, Fragment.withLength, lengthOf]

theorem evidence_insert :
    m.evidence field (.object (before ++ ("maxLength", v) :: after)) =
      (m.evidence field (.object (before ++ after))).withLength (lengthOf v) := by
  have hexamples := Bindings.value?_insert_of_ne (show "maxLength" ≠ "examples" by decide) v before after
  simp only [evidence, sample?, Json.member?, hexamples, Evidence.withLength, ofJson?_insert hnone]

theorem column_insert (required : Bool) :
    m.column field (.object (before ++ ("maxLength", v) :: after)) required =
      { m.column field (.object (before ++ after)) required with
        type := ((m.evidence field (.object (before ++ after))).withLength (lengthOf v)).columnType } := by
  simp only [column, evidence_insert hnone, ofJson?_insert hnone, Option.any_map]
  rfl

end

/-- What declaring the length `v` in a property changes: `c` is the column without it and `c'` with it, and `e` is
what is known of the field without it. -/
structure LengthDeclared (e : Evidence) (v : Json) (c c' : Column) : Prop where
  /-- Only an integer literal of at least one is a length. One beyond 64 bits is a double, and so none. -/
  noLength : (∀ n : Nat, 0 < n → v ≠ .number (.integer n)) → c' = c
  /-- Text takes the length from it, up to the greatest one that there is. -/
  text : ∀ n : Nat, 0 < n → v = .number (.integer n) → e.TakesLength → ¬ e.IsCollection →
    c' = { c with type := .varchar2 (min n 4000) }
  /-- Any other column stays. -/
  other : ¬ e.TakesLength ∨ e.IsCollection → c' = c
  /-- No column becomes text by it or ceases to be text. -/
  family : c'.type = c.type ∨ c'.type.isBoundedText = true ∧ c.type.isBoundedText = true
  nonzero : c'.type ≠ .varchar2 0
  /-- However great, a length does not make text shorter than it may be. -/
  great : ∀ n : Nat, 4000 ≤ n → v = .number (.integer n) → c'.type = c.type ∨ c'.type = .varchar2 4000
  /-- A bulk collection has full width with it and without it. -/
  collection : e.IsCollection → c.type.isBoundedText = true → c.type = .varchar2 4000 ∧ c' = c

theorem columnType_lengthOf {e : Evidence} {f : Fragment} (hf : e.fragment = some f) (h : e.TakesLength)
    (hsingle : ¬ e.IsCollection) {n : Nat} (hn : 0 < n) :
    (e.withLength (lengthOf (.number (.integer n)))).columnType = .varchar2 (min n 4000) := by
  have hmin : min (min n max32) ColumnType.maxLength = min n 4000 := by
    simp only [max32, ColumnType.maxLength]
    omega
  have hpos : 0 < min n max32 := by simp only [max32]; omega
  rw [lengthOf, Json.natural?_eq_some.2 rfl, Option.map_some, Evidence.columnType_withLength hf h hsingle hpos,
    ColumnType.bounded_of_pos hpos, hmin]

section
variable {e : Evidence} {f : Fragment} (hf : e.fragment = some f) (hlength : f.maxLength = none)
include hf hlength

theorem columnType_noLength (hv : ∀ n : Nat, 0 < n → v ≠ .number (.integer n)) :
    (e.withLength (lengthOf v)).columnType = e.columnType :=
  Evidence.columnType_withLength_of_idle hf hlength fun _ _ => lengthOf_zero hv

/-- A type that is no text or that of a bulk collection stays, and so does one that a sample gives. -/
theorem columnType_lengthOf_other (h : ¬ e.TakesLength ∨ e.IsCollection) :
    (e.withLength (lengthOf v)).columnType = e.columnType := by
  apply Evidence.columnType_withLength_of_idle hf hlength
  intro htakes hsingle
  rcases h with h | h
  · exact absurd htakes h
  · exact absurd h hsingle

/-- The type stays, or it is that of text with the length. -/
theorem columnType_lengthOf_cases (v : Json) :
    (e.withLength (lengthOf v)).columnType = e.columnType ∨
      e.TakesLength ∧ ∃ n : Nat, v = .number (.integer n) ∧
        (e.withLength (lengthOf v)).columnType = .varchar2 (min n 4000) := by
  by_cases htakes : e.TakesLength
  · by_cases hc : e.IsCollection
    · exact .inl (columnType_lengthOf_other hf hlength (.inr hc))
    · by_cases hv : ∃ n : Nat, 0 < n ∧ v = .number (.integer n)
      · obtain ⟨n, hn, rfl⟩ := hv
        exact .inr ⟨htakes, n, rfl, columnType_lengthOf hf htakes hc hn⟩
      · exact .inl (columnType_noLength hf hlength fun n hn hv' => hv ⟨n, hn, hv'⟩)
  · exact .inl (columnType_lengthOf_other hf hlength (.inl htakes))

theorem lengthDeclared {c : Column} (htype : c.type = e.columnType) (v : Json) :
    LengthDeclared e v c { c with type := (e.withLength (lengthOf v)).columnType } where
  noLength hv := by rw [columnType_noLength hf hlength hv, ← htype]
  text n hn hv htakes hsingle := by rw [hv, columnType_lengthOf hf htakes hsingle hn]
  other h := by rw [columnType_lengthOf_other hf hlength h, ← htype]
  family := by
    rw [htype]
    rcases columnType_lengthOf_cases hf hlength v with h | ⟨htakes, n, -, h⟩
    · exact .inl h
    · exact .inr ⟨by rw [h]; rfl, Evidence.isBoundedText_of_takesLength htakes⟩
  nonzero h := by
    have hlegal := Evidence.isLegal_columnType (e.withLength (lengthOf v))
    rw [show (e.withLength (lengthOf v)).columnType = .varchar2 0 from h] at hlegal
    exact absurd hlegal (by decide)
  great n hn hv := by
    rw [htype]
    rcases columnType_lengthOf_cases hf hlength v with h | ⟨-, k, hk, h⟩
    · exact .inl h
    · have hnk : (n : Int) = k := by simpa using hv.symm.trans hk
      exact .inr (h.trans (by rw [← Int.ofNat_inj.1 hnk, Nat.min_eq_right hn]))
  collection hc htext := by
    rw [htype] at htext
    rw [columnType_lengthOf_other hf hlength (.inr hc), ← htype]
    exact ⟨htype.trans (Evidence.columnType_of_collection hc htext), rfl⟩

end

end Mapper

/-- **Declared lengths.** Wherever among the members of a property it stands, a length acts once or not at all. -/
theorem column_declaredLength (m : Mapper) (field : String) {before after : List (String × Json)}
    (hnone : Bindings.value? "maxLength" (before ++ after) = none) (v : Json) (required : Bool) :
    Mapper.LengthDeclared (m.evidence field (.object (before ++ after))) v
      (m.column field (.object (before ++ after)) required)
      (m.column field (.object (before ++ ("maxLength", v) :: after)) required) := by
  rw [Mapper.column_insert hnone]
  exact Mapper.lengthDeclared rfl (by simp [hnone]) rfl v

/-- A length beyond 32 bits, between other members of a property, for a name that no rule knows. -/
theorem column_declaredLength_wide :
    Bindings.value? "maxLength" [("type", Json.string "string"), ("title", .string "Remark")] = none ∧
      Mapper.column {} "remark" (.object [("type", .string "string"),
          ("maxLength", .number (.integer 4294967297)), ("title", .string "Remark")]) true =
        { name := "REMARK", source := "remark", type := .varchar2 4000, nullable := false } := by
  have hnone : Bindings.value? "maxLength" ([("type", Json.string "string")] ++ [("title", .string "Remark")]) =
      none := by decide +kernel
  have hdeclared := column_declaredLength {} "remark" hnone (.number (.integer (4294967297 : Nat))) true
  have htakes : (Mapper.evidence {} "remark"
      (.object ([("type", .string "string")] ++ [("title", .string "Remark")]))).TakesLength :=
    .fragment rfl (by decide +kernel) rfl ⟨by decide +kernel, nofun⟩
  have hsingle : ¬ (Mapper.evidence {} "remark"
      (.object ([("type", .string "string")] ++ [("title", .string "Remark")]))).IsCollection := by
    rw [Evidence.isCollection_iff]
    decide +kernel
  exact ⟨hnone, (hdeclared.text 4294967297 (by decide) rfl htakes hsingle).trans (by decide +kernel)⟩

end OracleIntake

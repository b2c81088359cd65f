import Mathlib.Data.List.Nodup
import OracleIntake.Column.Mapper
import OracleIntake.Proofs.Column.Spelling

/-!
# From a schema to its columns

Every property of a schema becomes one column, told by the property, the tag that was given for its field last and
whether the schema requires the field. A part of a property with a wrong shape counts as if it were not there, and
nothing else changes by it.

* `mem_columns_iff`: which columns a schema has.
* `tag?_given`: the last tag counts, whatever the case of the field's name.
* `nullable_eq_false_iff`: which columns admit no nulls.
* `column_tidied`: badly shaped parts of a property play no part.
* `columns_mapped`: all columns of a schema with an object of properties.
* `nodup_name_columns_iff`: when no two columns have one name.
-/
namespace OracleIntake

namespace Mapper
variable {m : Mapper} {schema : Json} {field : String}

/-! ## One column for each property -/

theorem ascending_properties (schema : Json) : Bindings.Ascending (properties schema) := by
  have hmembers : ∀ (x : Json) (members : Bindings Json), x.members? = some members → members.Ascending := by
    intro x members h
    obtain ⟨ms, -, rfl⟩ := Json.members?_eq_some_iff.1 h
    exact Bindings.ascending_entries ms
  unfold properties
  split
  · next members h =>
    obtain ⟨x, -, hx⟩ := Option.bind_eq_some_iff.1 h
    exact hmembers x members hx
  · cases h : schema.members? with
    | none => exact List.Pairwise.nil
    | some members => exact hmembers schema members h

theorem properties_of_object {members : Bindings Json} (h : schema.member? "properties" = some (.object members)) :
    properties schema = members.entries := by
  rw [properties, h]
  rfl

theorem source_columns (m : Mapper) (schema : Json) :
    (m.columns schema).map Column.source = (properties schema).map Prod.fst := by
  rw [columns, List.map_map]
  rfl

theorem ascending_source_columns (m : Mapper) (schema : Json) :
    ((m.columns schema).map Column.source).Pairwise (· < ·) := by
  rw [source_columns, List.pairwise_map]
  exact ascending_properties schema

theorem mem_columns_iff {c : Column} : c ∈ m.columns schema ↔
    ∃ field property, Bindings.value? field (properties schema) = some property ∧
      c = m.column field property ((required schema).contains field) := by
  rw [columns, List.mem_map]
  constructor
  · rintro ⟨⟨field, property⟩, hmem, rfl⟩
    exact ⟨field, property, (ascending_properties schema).mem_iff.1 hmem, rfl⟩
  · rintro ⟨field, property, hvalue, rfl⟩
    exact ⟨(field, property), (ascending_properties schema).mem_iff.2 hvalue, rfl⟩

/-! ## Tags -/

/-- The mapper for which these fields got these tags, in this order. -/
def given (calls : List (String × String)) : Mapper :=
  calls.foldl (fun m call => m.withTag call.1 call.2) {}

/-- The tag of the last call for the field, whatever the case of its name. -/
def lastTag? (calls : List (String × String)) (field : String) : Option String :=
  ((calls.filter fun call => Text.lowered call.1 == Text.lowered field).getLast?).map Prod.snd

theorem tags_given (calls : List (String × String)) (m : Mapper) :
    (calls.foldl (fun m call => m.withTag call.1 call.2) m).tags =
      m.tags ++ calls.map fun call => (Text.lowered call.1, call.2) := by
  induction calls generalizing m with
  | nil => simp
  | cons call calls ih => rw [List.foldl_cons, ih, withTag, List.append_assoc, List.map_cons, List.singleton_append]

theorem tag?_given (calls : List (String × String)) (field : String) :
    (given calls).tag? field = lastTag? calls field := by
  rw [tag?, given, tags_given, List.nil_append, Bindings.value?_eq_getLast?, List.filter_map, List.getLast?_map,
    Option.map_map, lastTag?]
  rfl

/-! ## Samples, types and required fields -/

/-- The property declares the type, alone or among others. -/
def Declares (property : Json) (type : String) : Prop :=
  property.member? "type" = some (.string type) ∨
    ∃ items, property.member? "type" = some (.array items) ∧ .string type ∈ items

/-- The text of the field's name is among the required names. -/
def Requires (schema : Json) (field : String) : Prop :=
  ∃ items, schema.member? "required" = some (.array items) ∧ .string field ∈ items

theorem contains_required_iff : (required schema).contains field = true ↔ Requires schema field := by
  have hrequired : field ∈ required schema ↔
      ∃ items, (schema.member? "required").bind Json.items? = some items ∧ field ∈ Json.texts items := by
    rw [required]
    cases (schema.member? "required").bind Json.items? <;> simp
  simp only [List.contains_iff_mem, hrequired, Option.bind_eq_some_iff, Json.items?_eq_some_iff, Json.mem_texts_iff]
  constructor
  · rintro ⟨items, ⟨x, hx, rfl⟩, hmem⟩
    exact ⟨items, hx, hmem⟩
  · rintro ⟨items, hx, hmem⟩
    exact ⟨items, ⟨_, hx, rfl⟩, hmem⟩

theorem sample?_eq_some_iff {property x : Json} :
    sample? property = some x ↔ ∃ rest, property.member? "examples" = some (.array (x :: rest)) := by
  simp only [sample?, Option.bind_eq_some_iff, Json.items?_eq_some_iff, List.head?_eq_some_iff]
  constructor
  · rintro ⟨items, ⟨y, hy, rfl⟩, rest, rfl⟩
    exact ⟨rest, hy⟩
  · rintro ⟨rest, hy⟩
    exact ⟨_, ⟨_, hy, rfl⟩, rest, rfl⟩

theorem mem_types_iff {property : Json} {type : String} :
    (∃ f, Fragment.ofJson? property = some f ∧ type ∈ f.types) ↔ Declares property type := by
  cases property with
  | object ms =>
    simp only [Fragment.ofJson?, Option.some.injEq, exists_eq_left', Declares, Json.member?]
    split
    · next t h => simp [h, eq_comm]
    · next items h => simp [h, Json.mem_texts_iff]
    · next hstring harray =>
      constructor
      · intro h
        exact absurd h List.not_mem_nil
      · rintro (h | ⟨items, h, -⟩)
        · exact absurd h (hstring type)
        · exact absurd h (harray items)
  | _ => simp [Fragment.ofJson?, Declares, Json.member?]

theorem any_isNullable_iff {property : Json} : (Fragment.ofJson? property).any Fragment.isNullable = true ↔
    ∃ type, Declares property type ∧ Fragment.normalized type = "null" := by
  simp only [← mem_types_iff, Option.any_eq_true, Fragment.isNullable, List.any_eq_true, Fragment.isNullName_iff]
  constructor
  · rintro ⟨f, hf, type, hmem, hnull⟩
    exact ⟨type, ⟨f, hf, hmem⟩, hnull⟩
  · rintro ⟨type, ⟨f, hf, hmem⟩, hnull⟩
    exact ⟨f, hf, type, hmem, hnull⟩

/-- A column admits no nulls exactly if its field is required and none of its types is `null`. -/
theorem nullable_eq_false_iff {property : Json} :
    (m.column field property ((required schema).contains field)).nullable = false ↔
      Requires schema field ∧ ∀ type, Declares property type → Fragment.normalized type ≠ "null" := by
  have hnull : (Fragment.ofJson? property).any Fragment.isNullable = false ↔
      ∀ type, Declares property type → Fragment.normalized type ≠ "null" := by
    rw [← Bool.not_eq_true, any_isNullable_iff]
    simp
  rw [column, Bool.or_eq_false_iff, Bool.not_eq_false', contains_required_iff, hnull]

/-! ## Badly shaped parts -/

/-- What is well shaped of the value under a key of a property: a type is a text or an array, of which the texts
count; a format is a text, a length an integer literal that is not negative, and examples are an array. Nothing is
asked of other keys. -/
def tidiedValue? (key : String) (value : Json) : Option Json :=
  match key with
  | "type" =>
    match value with
    | .string t => some (.string t)
    | .array items => some (.array (items.filter fun item => item.text?.isSome))
    | _ => none
  | "format" => value.text?.map .string
  | "maxLength" => value.natural?.map fun n => .number (.integer n)
  | "examples" => value.items?.map .array
  | _ => some value

/-- The members, each once, with what is well shaped of their values. -/
def tidiedMembers (ms : Bindings Json) : Bindings Json :=
  (Bindings.entries ms).filterMap fun x => (tidiedValue? x.1 x.2).map fun v => (x.1, v)

/-- The property without its badly shaped parts, and an empty one in place of what is no object. -/
def tidied : Json → Json
  | .object ms => .object (tidiedMembers ms)
  | _ => .object []

theorem value?_tidiedMembers (ms : Bindings Json) (key : String) :
    Bindings.value? key (tidiedMembers ms) = (Bindings.value? key ms).bind (tidiedValue? key) := by
  rw [tidiedMembers, (Bindings.ascending_entries ms).value?_filterMap, Bindings.value?_entries]

section
variable (value : Option Json)

theorem bind_text?_tidied : (value.bind (tidiedValue? "format")).bind Json.text? = value.bind Json.text? := by
  cases value with
  | none => rfl
  | some v => cases v <;> rfl

theorem bind_natural?_tidied :
    (value.bind (tidiedValue? "maxLength")).bind Json.natural? = value.bind Json.natural? := by
  cases value with
  | none => rfl
  | some v =>
    simp only [Option.bind_some, tidiedValue?]
    cases v.natural? <;> simp [Json.natural?]

theorem bind_items?_tidied : (value.bind (tidiedValue? "examples")).bind Json.items? = value.bind Json.items? := by
  cases value with
  | none => rfl
  | some v => cases v <;> rfl

end

theorem texts_filter (items : List Json) :
    Json.texts (items.filter fun item => item.text?.isSome) = Json.texts items := by
  induction items with
  | nil => rfl
  | cons item items ih => cases h : item.text? <;> simp_all [Json.texts]

theorem getD_ofJson?_tidied (property : Json) :
    (Fragment.ofJson? (tidied property)).getD {} = (Fragment.ofJson? property).getD {} := by
  cases property with
  | object ms =>
    simp only [tidied, Fragment.ofJson?, value?_tidiedMembers, bind_text?_tidied, bind_natural?_tidied,
      Option.getD_some, Fragment.mk.injEq, and_true]
    cases Bindings.value? "type" ms with
    | none => rfl
    | some v =>
      cases v with
      | array items => exact texts_filter items
      | _ => rfl
  | _ => rfl

theorem sample?_tidied (property : Json) : sample? (tidied property) = sample? property := by
  cases property with
  | object ms => simp only [sample?, tidied, Json.member?, value?_tidiedMembers, bind_items?_tidied]
  | _ => rfl

theorem any_isNullable_eq (f : Option Fragment) : f.any Fragment.isNullable = (f.getD {}).isNullable := by
  cases f <;> rfl

/-- Of a property only what it declares and its sample play a part. -/
theorem column_congr {property property' : Json}
    (hdeclared : (Fragment.ofJson? property).getD {} = (Fragment.ofJson? property').getD {})
    (hsample : sample? property = sample? property') (required : Bool) :
    m.column field property required = m.column field property' required := by
  have htype : (m.evidence field property).columnType = (m.evidence field property').columnType := by
    refine Evidence.columnType_congr ?_ ?_ ?_ ?_ hsample
    · rfl
    · rfl
    · rw [Evidence.declaredLength_eq, Evidence.declaredLength_eq]
      exact congrArg Fragment.maxLength hdeclared
    · rw [Evidence.fromFragment?_eq, Evidence.fromFragment?_eq]
      exact congrArg Fragment.columnType? hdeclared
  rw [column, htype, any_isNullable_eq, hdeclared, ← any_isNullable_eq, column]

theorem column_tidied (m : Mapper) (field : String) (property : Json) (required : Bool) :
    m.column field (tidied property) required = m.column field property required :=
  column_congr (getD_ofJson?_tidied property) (sample?_tidied property) required

theorem columns_tidied (m : Mapper) {members : Bindings Json} {schema' : Json}
    (hproperties : schema.member? "properties" = some (.object members))
    (hrequired : schema'.member? "required" = schema.member? "required")
    (htidied : schema'.member? "properties" = some (.object (members.map fun x => (x.1, tidied x.2)))) :
    m.columns schema' = m.columns schema := by
  have hnames : required schema' = required schema := by rw [required, hrequired, required]
  rw [columns, columns, properties_of_object hproperties, properties_of_object htidied, hnames,
    Bindings.entries_map fun _ => tidied, List.map_map]
  refine List.map_congr_left fun x _ => ?_
  exact column_tidied m x.1 x.2 _

/-! ## All columns -/

structure ColumnOf (calls : List (String × String)) (schema : Json) (field : String) (property : Json)
    (c : Column) : Prop where
  source : c.source = field
  name : c.name = Text.uppered field
  /-- The type is resolved from the last tag for the field, the fragment of the property and its first example. -/
  type : ∃ sample, (∀ x, sample = some x ↔ ∃ rest, property.member? "examples" = some (.array (x :: rest))) ∧
    c.type = Evidence.columnType
      { field, tag := lastTag? calls field, fragment := Fragment.ofJson? property, sample }
  notNull : c.nullable = false ↔
    Requires schema field ∧ ∀ type, Declares property type → Fragment.normalized type ≠ "null"

/-- The columns of a schema with these properties, after these tags were given. -/
structure Mapped (calls : List (String × String)) (schema : Json) (members : Bindings Json) : Prop where
  /-- No field has two columns, and they stand in the order of the fields' names. -/
  ascending : (((given calls).columns schema).map Column.source).Pairwise (· < ·)
  /-- Every property has its column. -/
  each : ∀ field property, members.value? field = some property →
    ∃ c ∈ (given calls).columns schema, ColumnOf calls schema field property c
  /-- There are no other columns. -/
  only : ∀ c ∈ (given calls).columns schema, ∃ property, members.value? c.source = some property ∧
    ColumnOf calls schema c.source property c
  /-- Without the badly shaped parts of the properties, the columns are the same. -/
  tidied : ∀ schema' : Json, schema'.member? "required" = schema.member? "required" →
    schema'.member? "properties" = some (.object (members.map fun x => (x.1, Mapper.tidied x.2))) →
    (given calls).columns schema' = (given calls).columns schema

theorem columnOf_column (calls : List (String × String)) (schema : Json) (field : String) (property : Json) :
    ColumnOf calls schema field property
      ((given calls).column field property ((required schema).contains field)) where
  source := rfl
  name := rfl
  type := by
    refine ⟨sample? property, fun x => sample?_eq_some_iff, ?_⟩
    rw [← tag?_given]
    rfl
  notNull := nullable_eq_false_iff

/-- **Columns.** A schema with an object under `properties` has one column for each property. -/
theorem columns_mapped (calls : List (String × String)) {schema : Json} {members : Bindings Json}
    (h : schema.member? "properties" = some (.object members)) : Mapped calls schema members where
  ascending := ascending_source_columns (given calls) schema
  each field property hvalue := by
    refine ⟨_, mem_columns_iff.2 ⟨field, property, ?_, rfl⟩, columnOf_column calls schema field property⟩
    rw [properties_of_object h, Bindings.value?_entries, hvalue]
  only c hc := by
    obtain ⟨field, property, hvalue, rfl⟩ := mem_columns_iff.1 hc
    rw [properties_of_object h, Bindings.value?_entries] at hvalue
    exact ⟨property, hvalue, columnOf_column calls schema field property⟩
  tidied _ hrequired htidied := columns_tidied (given calls) h hrequired htidied

/-- A field whose type is no type, whose last tag is not known and whose name is among the required. -/
theorem columns_mapped_misshapen :
    let calls := [("Dock_Door", "number"), ("DOCK_DOOR", "unheard of")]
    let property : Json :=
      .object [("type", .number (.integer 42)), ("examples", .array [.string "D-14", .null])]
    let members : Bindings Json := [("dock_door", property), ("Notes", .bool true)]
    let schema : Json :=
      .object [("properties", .object members), ("required", .array [.null, .string "dock_door"])]
    schema.member? "properties" = some (.object members) ∧
      ∃ c ∈ (given calls).columns schema, c.name = "DOCK_DOOR" ∧ c.type = .varchar2 8 ∧ c.nullable = false := by
  intro calls property members schema
  have h : schema.member? "properties" = some (.object members) := rfl
  obtain ⟨c, hmem, hcolumn⟩ := (columns_mapped calls h).each "dock_door" property rfl
  have hname : Text.uppered "dock_door" = "DOCK_DOOR" := by decide +kernel
  have hnull : ∀ type, ¬ Declares property type := by
    rintro type (htype | ⟨items, htype, -⟩) <;> cases htype
  have hrequired : Requires schema "dock_door" := ⟨_, rfl, by simp⟩
  obtain ⟨sample, hsample, htype⟩ := hcolumn.type
  have hfirst : sample = some (.string "D-14") := (hsample _).2 ⟨_, rfl⟩
  subst hfirst
  refine ⟨h, c, hmem, hcolumn.name.trans hname, htype.trans (by decide +kernel), ?_⟩
  exact hcolumn.notNull.2 ⟨hrequired, fun type htype => absurd htype (hnull type)⟩

/-! ## Names -/

/-- The fields of a schema: the names of its properties. -/
def fields (schema : Json) : List String := (properties schema).map Prod.fst

theorem nodup_fields (schema : Json) : (fields schema).Nodup := (ascending_properties schema).nodup_keys

theorem name_columns (m : Mapper) (schema : Json) :
    (m.columns schema).map Column.name = (fields schema).map Text.uppered := by
  rw [columns, fields, List.map_map, List.map_map]
  rfl

/-- **Names.** The columns of a schema have different names exactly if no two of its fields are the same in upper
case. -/
theorem nodup_name_columns_iff (m : Mapper) (schema : Json) :
    ((m.columns schema).map Column.name).Nodup ↔
      ∀ f ∈ fields schema, ∀ g ∈ fields schema, Text.uppered f = Text.uppered g → f = g := by
  rw [name_columns]
  exact List.nodup_map_iff_inj_on (nodup_fields schema)

/-- Two fields with one name in upper case have two columns with one name. -/
theorem name_columns_twice :
    let schema : Json := .object [("properties", .object
      [("Item", .object [("type", .string "integer")]), ("item", .object [("type", .string "string")])])]
    (({} : Mapper).columns schema).map Column.text = ["ITEM NUMBER", "ITEM VARCHAR2(255 CHAR)"] ∧
      ¬ ((({} : Mapper).columns schema).map Column.name).Nodup := by
  intro schema
  have hnames : (({} : Mapper).columns schema).map Column.name = ["ITEM", "ITEM"] := by decide +kernel
  refine ⟨by decide +kernel, ?_⟩
  rw [hnames]
  decide

/-- Where the fields are ASCII texts, two of them must differ in more than the case of letters. -/
theorem nodup_name_columns_ascii (m : Mapper) {schema : Json}
    (hascii : ∀ f ∈ fields schema, ∀ c ∈ f.toList, c.toNat < 0x80) :
    ((m.columns schema).map Column.name).Nodup ↔
      ∀ f ∈ fields schema, ∀ g ∈ fields schema, Text.Recased f g → f = g := by
  rw [nodup_name_columns_iff]
  refine forall₂_congr fun f hf => forall₂_congr fun g hg => ?_
  rw [Text.uppered_eq_iff_recased (hascii f hf) (hascii g hg)]

end Mapper
end OracleIntake

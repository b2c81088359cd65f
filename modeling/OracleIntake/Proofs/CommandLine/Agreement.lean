import OracleIntake.CommandLine.Command
import OracleIntake.Proofs.Column.Priority
import OracleIntake.Proofs.Json.Writing

/-!
# Two ways to a column type

The type of a field is told by flags, or by the property of a schema. A property that says what the flags say gives
the same type, be the flags absent and the property empty, whatever the field's name and the sample.

* `FieldFlags.SaidBy`: a property says what the flags say.
* `FieldFlags.schemaText`: a schema with just such a property.
* `resolve_agrees`: both ways come to the same type, as long as the sample does not nest too deep for the schema to
  be read.
-/
namespace OracleIntake.CommandLine
open Json (MembersReadAs ReadAs objectText parse? readAs_array readAs_natural readAs_object readAs_of_parse?
  readAs_string writeString)

namespace FieldFlags
variable {f : FieldFlags} {ms : List (String × Json)}

/-- The sample, if its text is a value. -/
def sample? (f : FieldFlags) : Option Json := f.sample.bind parse?

/-- The column type that the flags give without a tag. -/
def columnType (f : FieldFlags) : ColumnType :=
  ({ field := f.field, fragment := f.fragment?, sample := f.sample? } : Evidence).columnType

/-- The members of a property say what the flags say, and the sample is the only example. -/
structure SaidBy (f : FieldFlags) (ms : List (String × Json)) : Prop where
  type : Bindings.value? "type" ms = f.jsonType.map .string
  format : Bindings.value? "format" ms = f.format.map .string
  maxLength : Bindings.value? "maxLength" ms = f.maxLength.map fun n => .number (.integer n)
  examples : Bindings.value? "examples" ms = f.sample?.map fun x => .array [x]

theorem SaidBy.ofJson?_eq (h : f.SaidBy ms) (hlength : ∀ n ∈ f.maxLength, n ≤ max32) :
    Fragment.ofJson? (.object ms) =
      some { types := f.jsonType.toList, format := f.format, maxLength := f.maxLength } := by
  have hmax : (((f.maxLength.map fun n : Nat => Json.number (.integer n)).bind Json.natural?).map (min · max32)) =
      f.maxLength := by
    cases hn : f.maxLength with
    | none => rfl
    | some n => simp [Json.natural?, Nat.min_eq_left (hlength n hn)]
  have hformat : (f.format.map Json.string).bind Json.text? = f.format := by
    cases f.format <;> rfl
  simp only [Fragment.ofJson?, h.type, h.format, h.maxLength, hmax, hformat]
  cases f.jsonType <;> rfl

theorem SaidBy.sample?_eq (h : f.SaidBy ms) : Mapper.sample? (.object ms) = f.sample? := by
  simp only [Mapper.sample?, Json.member?, h.examples]
  cases f.sample? <;> rfl

theorem columnType_noFragment (field : String) (sample : Option Json) :
    ({ field, fragment := some {}, sample } : Evidence).columnType =
      ({ field, sample } : Evidence).columnType := rfl

/-- **Types.** A property that says what the flags say gives the type that the flags give. -/
theorem SaidBy.columnType_eq (h : f.SaidBy ms) (hlength : ∀ n ∈ f.maxLength, n ≤ max32) :
    (({} : Mapper).evidence f.field (.object ms)).columnType = f.columnType := by
  have hevidence : ({} : Mapper).evidence f.field (.object ms) = {
      field := f.field
      fragment := some { types := f.jsonType.toList, format := f.format, maxLength := f.maxLength }
      sample := f.sample? } := by
    rw [Mapper.evidence, h.ofJson?_eq hlength, h.sample?_eq]
    rfl
  rw [hevidence, columnType, fragment?]
  split
  · rfl
  next habsent =>
    simp only [Bool.or_eq_true, not_or, Option.isSome_iff_ne_none, ne_eq, Decidable.not_not] at habsent
    obtain ⟨⟨htype, hformat⟩, hlength⟩ := habsent
    rw [htype, hformat, hlength]
    exact columnType_noFragment f.field f.sample?

/-! ## A schema with one property -/

/-- The members of a property that say what the flags say of the type, the format and the length. -/
def shape (f : FieldFlags) : List (String × Json) :=
  (f.jsonType.map fun type => ("type", .string type)).toList ++
    (f.format.map fun format => ("format", .string format)).toList ++
    (f.maxLength.map fun n : Nat => ("maxLength", .number (.integer n))).toList

/-- The members of a property that say what the flags say, and nothing else. -/
def members (f : FieldFlags) : List (String × Json) :=
  f.shape ++ (f.sample?.map fun x => ("examples", .array [x])).toList

/-- The schema with this property alone. -/
def schema (f : FieldFlags) : Json := .object [("properties", .object [(f.field, .object f.members)])]

theorem saidBy_members (f : FieldFlags) : f.SaidBy f.members := by
  unfold members shape
  constructor <;> cases f.jsonType <;> cases f.format <;> cases f.maxLength <;> cases f.sample? <;> rfl

theorem properties_schema (f : FieldFlags) : Mapper.properties f.schema = [(f.field, .object f.members)] := rfl

/-- The texts of the values of `shape`. -/
def shapeTexts (f : FieldFlags) : List (String × String) :=
  (f.jsonType.map fun type => ("type", writeString type)).toList ++
    (f.format.map fun format => ("format", writeString format)).toList ++
    (f.maxLength.map fun n : Nat => ("maxLength", toString n)).toList

/-- The texts of the values of `members`; a sample stands there as it was given. -/
def memberTexts (f : FieldFlags) : List (String × String) :=
  f.shapeTexts ++ (f.sample.map fun text => ("examples", "[" ++ text ++ "]")).toList

def schemaText (f : FieldFlags) : String :=
  objectText [("properties", objectText [(f.field, objectText f.memberTexts)])]

/-- The sample leaves room for the four objects and arrays around it. -/
def fits (f : FieldFlags) : Bool := f.sample?.all fun x => x.depth ≤ 123

theorem readAs_option {α : Type} {d : Nat} (key : String) (o : Option α) {text : α → String} {value : α → Json}
    (h : ∀ a ∈ o, ReadAs d (text a).toList (some (value a))) :
    MembersReadAs d (o.map fun a => (key, text a)).toList (some (o.map fun a => (key, value a)).toList) := by
  cases o with
  | none => exact .nil
  | some a => exact .cons key (h a rfl) .nil

theorem readAs_shapeTexts (hlength : ∀ n ∈ f.maxLength, n ≤ max32) (d : Nat) :
    MembersReadAs d f.shapeTexts (some f.shape) := by
  have htype := readAs_option (d := d) "type" f.jsonType fun type _ => readAs_string type
  have hformat := readAs_option (d := d) "format" f.format fun format _ => readAs_string format
  have hlength := readAs_option (d := d) "maxLength" f.maxLength fun n hn =>
    readAs_natural (Nat.le_trans (hlength n hn) (by decide))
  exact (htype.append hformat).append hlength

theorem readAs_memberTexts (hlength : ∀ n ∈ f.maxLength, n ≤ max32)
    (hsample : ∀ text ∈ f.sample, (parse? text).isSome = true) :
    MembersReadAs 124 f.memberTexts (if f.fits then some f.members else none) := by
  have hshape := readAs_shapeTexts hlength 124
  unfold memberTexts members fits sample?
  cases htext : f.sample with
  | none => simpa using hshape
  | some text =>
    obtain ⟨x, hx⟩ := Option.isSome_iff_exists.1 (hsample text htext)
    have hexamples := MembersReadAs.cons "examples"
      (readAs_array (readAs_of_parse? hx 123) (Json.ne_close_of_parse? hx)) .nil
    have happend := hshape.append hexamples
    by_cases hd : x.depth ≤ 123 <;> simpa [hx, hd] using happend

/-- **Reading.** The schema is read from its text, unless the sample nests too deep. -/
theorem parse?_schemaText (hlength : ∀ n ∈ f.maxLength, n ≤ max32)
    (hsample : ∀ text ∈ f.sample, (parse? text).isSome = true) :
    parse? f.schemaText = if f.fits then some f.schema else none := by
  have hproperty := readAs_object (readAs_memberTexts hlength hsample)
  have hfield := readAs_object (MembersReadAs.cons f.field hproperty .nil)
  have hschema := Json.parse?_of_readAs (readAs_object (MembersReadAs.cons "properties" hfield .nil))
  rw [schemaText, hschema]
  cases f.fits <;> rfl

/-! ## The commands -/

/-- What follows the type in a column: a required field whose type is not `null` admits no nulls. -/
def constraint (f : FieldFlags) (schema : Json) : String :=
  if !(Mapper.required schema).contains f.field || f.jsonType.any Fragment.isNullName then "" else " NOT NULL"

theorem constraint_schema (f : FieldFlags) : f.constraint f.schema = "" := rfl

theorem runResolve_eq (htag : f.tag = none) (hsample : ∀ text ∈ f.sample, (parse? text).isSome = true) :
    runResolve f = .printing (f.columnType.text ++ "\n") := by
  unfold runResolve columnType sample?
  rw [htag]
  cases htext : f.sample with
  | none => rfl
  | some text =>
    obtain ⟨x, hx⟩ := Option.isSome_iff_exists.1 (hsample text htext)
    simp [hx]

theorem runColumns_eq (h : f.SaidBy ms) (hlength : ∀ n ∈ f.maxLength, n ≤ max32) {text : String} {schema : Json}
    (hparse : parse? text = some schema) (halone : Mapper.properties schema = [(f.field, .object ms)])
    (file : String) :
    runColumns file (.ok text) = .printing
      ("  " ++ Text.uppered f.field ++ " " ++ f.columnType.text ++ f.constraint schema ++ "\n") := by
  have hcolumns : Mapper.columns {} schema = [{
      name := Text.uppered f.field
      source := f.field
      type := f.columnType
      nullable := !(Mapper.required schema).contains f.field || f.jsonType.any Fragment.isNullName }] := by
    simp only [Mapper.columns, halone, List.map_singleton, Mapper.column, h.columnType_eq hlength,
      h.ofJson?_eq hlength]
    cases f.jsonType <;> simp [Fragment.isNullable]
  simp [runColumns, hparse, hcolumns, Column.render, Column.text, constraint, String.append_assoc]

end FieldFlags
/-- **Agreement.** The type that is resolved from flags without a tag is that of the one column of every schema
whose property says what the flags say. There is such a schema, and it is read unless the sample nests more than
123 arrays and objects inside one another. -/
theorem resolve_agrees (f : FieldFlags) (htag : f.tag = none) (hlength : ∀ n ∈ f.maxLength, n ≤ max32)
    (hsample : ∀ text ∈ f.sample, (Json.parse? text).isSome = true) (env : Environment)
    (content : Except FileFault String) (file : String) :
    ∃ type : ColumnType,
      (Command.resolve f).run env content = .printing (type.text ++ "\n") ∧
      (∀ text schema ms, Json.parse? text = some schema → Mapper.properties schema = [(f.field, .object ms)] →
        f.SaidBy ms → (Command.columns file).run env (.ok text) = .printing
          ("  " ++ Text.uppered f.field ++ " " ++ type.text ++ f.constraint schema ++ "\n")) ∧
      (Command.columns file).run env (.ok f.schemaText) =
        if f.fits then .printing ("  " ++ Text.uppered f.field ++ " " ++ type.text ++ "\n")
        else .failing ("parsing " ++ file ++ ": malformed text") := by
  refine ⟨f.columnType, f.runResolve_eq htag hsample, fun text schema ms hparse halone h => ?_, ?_⟩
  · exact FieldFlags.runColumns_eq h hlength hparse halone file
  · have hparse := FieldFlags.parse?_schemaText hlength hsample
    cases hfits : f.fits with
    | true =>
      rw [hfits] at hparse
      have hrun := FieldFlags.runColumns_eq f.saidBy_members hlength hparse f.properties_schema file
      rwa [f.constraint_schema, String.append_empty] at hrun
    | false =>
      rw [hfits] at hparse
      simp [Command.run, runColumns, hparse]

/-! ## How deep a sample may nest -/

/-- Arrays inside one another, each the only item of the one around it. -/
def nestedArray : Nat → Json
  | 0 => .array []
  | n + 1 => .array [nestedArray n]

def nestedText : Nat → String
  | 0 => "[]"
  | n + 1 => "[" ++ nestedText n ++ "]"

theorem depth_nestedArray (n : Nat) : (nestedArray n).depth = n + 1 := by
  induction n with
  | zero => rfl
  | succ n ih => simp [nestedArray, Json.depth, Json.depthItems, ih]

theorem exists_nestedText (n : Nat) : ∃ s, (nestedText n).toList = '[' :: s := by
  cases n with
  | zero => exact ⟨_, rfl⟩
  | succ n => exact ⟨_, by simp [nestedText]; rfl⟩

theorem readAs_nestedText (n d : Nat) : ReadAs (d + n + 1) (nestedText n).toList (some (nestedArray n)) := by
  induction n with
  | zero =>
    intro t _
    have htext : (nestedText 0).toList ++ t = '[' :: ']' :: t := rfl
    rw [htext, Json.skipSpace_cons rfl, Json.value?_array_nil (Json.skipSpace_cons rfl t)]
    rfl
  | succ n ih =>
    refine readAs_array ih fun t r => ?_
    obtain ⟨s, hs⟩ := exists_nestedText n
    rw [hs, List.cons_append, Json.skipSpace_cons rfl]
    nofun

theorem parse?_nestedText {n : Nat} (h : n < 127) : parse? (nestedText n) = some (nestedArray n) := by
  have hread := readAs_nestedText n (126 - n)
  rw [show 126 - n + n + 1 = 127 by omega] at hread
  exact Json.parse?_of_readAs hread

/-- A field that is only known by such a sample. -/
def nestedFlags (n : Nat) : FieldFlags := { field := "warehouse", sample := some (nestedText n) }

theorem sample?_nestedFlags {n : Nat} (h : n < 127) : (nestedFlags n).sample? = some (nestedArray n) :=
  parse?_nestedText h

theorem columnType_nestedFlags {n : Nat} (h : n < 127) : (nestedFlags n).columnType = .clob := by
  have hrule : NameRule.find? ({ field := "warehouse" } : Evidence).name = none := by decide +kernel
  have hleft : ({ field := "warehouse", sample := some (nestedArray n) } : Evidence).LeftToSample :=
    Evidence.leftToSample_of_none rfl hrule rfl
  have hsample : Sample.columnType? (nestedArray n) = some .clob := by cases n <;> rfl
  have hflags : (nestedFlags n).columnType =
      ({ field := "warehouse", sample := some (nestedArray n) } : Evidence).columnType := by
    rw [FieldFlags.columnType, sample?_nestedFlags h]
    rfl
  rw [hflags, Evidence.columnType_of_sample hleft]
  simp [Evidence.fromSample?, hsample]

theorem fits_nestedFlags {n : Nat} (h : n < 127) : (nestedFlags n).fits = decide (n < 123) := by
  simp only [FieldFlags.fits, sample?_nestedFlags h, Option.all_some, depth_nestedArray]
  rfl

theorem isSome_sample_nestedFlags {n : Nat} (h : n < 127) :
    ∀ text ∈ (nestedFlags n).sample, (parse? text).isSome = true := by
  intro text htext
  cases htext
  rw [parse?_nestedText h]
  rfl

theorem maxLength_nestedFlags (n : Nat) : ∀ k ∈ (nestedFlags n).maxLength, k ≤ max32 := nofun

theorem resolve_nestedFlags {n : Nat} (h : n < 127) (env : Environment) (content : Except FileFault String) :
    (Command.resolve (nestedFlags n)).run env content = .printing "CLOB\n" := by
  rw [Command.run, FieldFlags.runResolve_eq rfl (isSome_sample_nestedFlags h), columnType_nestedFlags h]
  rfl

/-- The deepest sample that fits. -/
theorem resolve_agrees_deepest :
    (Command.resolve (nestedFlags 122)).run [] (.ok "") = .printing "CLOB\n" ∧
      (Command.columns "schema.json").run [] (.ok (nestedFlags 122).schemaText) =
        .printing "  WAREHOUSE CLOB\n" := by
  have hclob := resolve_nestedFlags (n := 122) (by decide) [] (.ok "")
  obtain ⟨type, hresolve, -, hcolumns⟩ := resolve_agrees (nestedFlags 122) rfl (maxLength_nestedFlags 122)
    (isSome_sample_nestedFlags (by decide)) [] (.ok "") "schema.json"
  have htype : type.text ++ "\n" = "CLOB\n" := by
    rw [hclob] at hresolve
    exact (congrArg Outcome.stdout hresolve).symm
  have hfield : "  " ++ Text.uppered (nestedFlags 122).field = "  WAREHOUSE" := by
    rw [nestedFlags]
    decide +kernel
  refine ⟨hclob, ?_⟩
  rw [hcolumns, fits_nestedFlags (by decide), if_pos (by decide), String.append_assoc, htype, hfield]
  rfl

/-- One array more, and the schema is not read any more while the flags still give a type. -/
theorem resolve_differs_deeper :
    (Command.resolve (nestedFlags 123)).run [] (.ok "") = .printing "CLOB\n" ∧
      (Command.columns "schema.json").run [] (.ok (nestedFlags 123).schemaText) =
        .failing "parsing schema.json: malformed text" := by
  have hparse := FieldFlags.parse?_schemaText (maxLength_nestedFlags 123) (isSome_sample_nestedFlags (by decide))
  rw [fits_nestedFlags (by decide), if_neg (by decide)] at hparse
  refine ⟨resolve_nestedFlags (by decide) [] (.ok ""), ?_⟩
  rw [Command.run, runColumns, hparse]
  rfl

end OracleIntake.CommandLine

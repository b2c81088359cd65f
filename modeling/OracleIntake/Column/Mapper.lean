import OracleIntake.Column.Evidence

/-!
# Columns of a schema

Each property of a JSON schema becomes one column, in ascending order of the properties' names. A schema is
either an object with the properties under `properties`, or the object of properties itself.
-/
namespace OracleIntake

structure Column where
  name : String
  /-- The field's name in the source. -/
  source : String
  type : ColumnType
  nullable : Bool
  deriving DecidableEq, Repr

/-- The column as a table definition writes it. -/
def Column.text (c : Column) : String :=
  c.name ++ " " ++ c.type.text ++ (if c.nullable then "" else " NOT NULL")

/-- The columns one per line, with commas between them. -/
def Column.render (columns : List Column) : String :=
  ",\n".intercalate (columns.map fun c => "  " ++ c.text)

/-- The tags that are given for fields, by the fields' names in lower case. -/
structure Mapper where
  tags : Bindings String := []

namespace Mapper

/-- Gives a field a tag, in place of an earlier one. -/
def withTag (m : Mapper) (field tag : String) : Mapper := ⟨m.tags ++ [(Text.lowered field, tag)]⟩

/-- The tag given for a field last, whatever the case of its name. -/
def tag? (m : Mapper) (field : String) : Option String := m.tags.value? (Text.lowered field)

/-- The first of a property's examples. -/
def sample? (property : Json) : Option Json :=
  ((property.member? "examples").bind Json.items?).bind List.head?

def evidence (m : Mapper) (field : String) (property : Json) : Evidence :=
  { field, tag := m.tag? field, fragment := Fragment.ofJson? property, sample := sample? property }

/-- The column of a field with this property. It admits nulls unless it is required and its types do not
name `null`. -/
def column (m : Mapper) (field : String) (property : Json) (required : Bool) : Column :=
  { name := Text.uppered field
    source := field
    type := (m.evidence field property).columnType
    nullable := !required || (Fragment.ofJson? property).any Fragment.isNullable }

def properties (schema : Json) : Bindings Json :=
  match (schema.member? "properties").bind Json.members? with
  | some members => members
  | none => (schema.members?).getD []

def required (schema : Json) : List String :=
  (((schema.member? "required").bind Json.items?).map Json.texts).getD []

def columns (m : Mapper) (schema : Json) : List Column :=
  (properties schema).map fun (field, property) =>
    m.column field property ((required schema).contains field)

end Mapper
end OracleIntake

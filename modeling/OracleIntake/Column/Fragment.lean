import OracleIntake.Column.Type
import OracleIntake.Json.Basic
import OracleIntake.Text.Blank
import OracleIntake.Text.Case

/-!
# Schema fragments

What a JSON schema says about one field: its declared types, a format and a greatest length. The type that
counts is the first that is not `null`; a `null` among the types makes the field nullable.
-/
namespace OracleIntake

/-- The part of a schema property that bears on the column type. -/
structure Fragment where
  types : List String := []
  format : Option String := none
  maxLength : Option Nat := none
  deriving DecidableEq, Repr

namespace Fragment

/-- Reads a fragment from a property, if the property is an object. A part of the wrong shape counts as
absent, and a length beyond 32 bits as the greatest one of 32 bits. -/
def ofJson? : Json → Option Fragment
  | .object members => some {
      types := match Bindings.value? "type" members with
        | some (.string t) => [t]
        | some (.array items) => Json.texts items
        | _ => []
      format := (Bindings.value? "format" members).bind Json.text?
      maxLength := ((Bindings.value? "maxLength" members).bind Json.natural?).map (min · max32) }
  | _ => none

/-- A declared type without blanks around it, in lower case. -/
def normalized (type : String) : String := Text.lowered (Text.trimmed type)

def primaryType (f : Fragment) : Option String := (f.types.map normalized).find? (· ≠ "null")

/-- A declared type that is `null` in any ASCII case, with blanks around it or not. -/
def isNullName (type : String) : Bool := Text.sameLetters (Text.trim type.toList) "null".toList

def isNullable (f : Fragment) : Bool := f.types.any isNullName

def isTimeFormat (format : String) : Bool :=
  ["date", "date-time", "time"].contains (Text.lowered format)

/-- The column type of the first declared type that is not `null`, if it is one of JSON schema. -/
def columnType? (f : Fragment) : Option ColumnType :=
  match f.primaryType with
  | some "integer" | some "number" => some .number
  | some "boolean" => some .flag
  | some "string" => some (if f.format.any isTimeFormat then .timestamp else .declared f.maxLength)
  | some "object" | some "array" => some .clob
  | _ => none

end Fragment
end OracleIntake

import OracleIntake.Calendar.Pattern
import OracleIntake.Json.Basic
import OracleIntake.Number.Shortest
import OracleIntake.Statement.Value

/-!
# Values in JSON

A value is an object with its type's name under `type` and its content under `value`; a null has no content.
Reading also takes the two, and only them, as an array. Days, times and decimals are texts, bytes are numbers
up to 255.
-/
namespace OracleIntake

namespace Value

private def integerJson (i : Int) : Json := .number (.integer i)

def toJson : Value → Json
  | null => .object [("type", .string "Null")]
  | bool b => tagged "Bool" (.bool b)
  | integer i => tagged "Int64" (integerJson i)
  | double x => tagged "Float64" (.number (.double x))
  | decimal d => tagged "Decimal" (.string d.text)
  | text s => tagged "Text" (.string s)
  | bytes bs => tagged "Bytes" (.array (bs.map fun b => integerJson b.toNat))
  | date d => tagged "Date" (.string d.text)
  | dateTime t => tagged "DateTime" (.string t.text)
  | other typeName display =>
    tagged "Other" (.object [("type_name", .string typeName), ("display", .string display)])
where
  /-- A content with its type's name. -/
  tagged (type : String) (content : Json) : Json := .object [("type", .string type), ("value", content)]

def byteOfJson? (x : Json) : Option UInt8 :=
  x.natural?.bind fun n => if n < 256 then some (UInt8.ofNat n) else Option.none

/-- A decimal: a text, or a number by its text. -/
def decimalOfJson? : Json → Option Decimal
  | .string s => Decimal.read? s
  | .number (.integer i) => some (Decimal.ofInt i)
  | .number (.double x) =>
    Decimal.positional? ((if x.negative then ['-'] else []) ++ x.magnitude.positional)
  | _ => Option.none

/-- A value of another type: an object with both its texts. -/
def otherOfJson? (x : Json) : Option Value := do
  let members ← x.members?
  let typeName ← (Bindings.value? "type_name" members).bind Json.text?
  let display ← (Bindings.value? "display" members).bind Json.text?
  some (other typeName display)

/-- The value with that type's name and content; only a null may lack its content. -/
def ofParts? (type : String) (content : Option Json) : Option Value :=
  match type, content with
  | "Null", Option.none | "Null", some .null => some null
  | "Bool", some x => x.bool?.map bool
  | "Int64", some x => x.integer?.map integer
  | "Float64", some x => x.double?.map double
  | "Decimal", some x => (decimalOfJson? x).map decimal
  | "Text", some x => x.text?.map text
  | "Bytes", some (.array xs) => (xs.mapM byteOfJson?).map bytes
  | "Date", some x => (x.text?.bind Calendar.Date.read?).map date
  | "DateTime", some x => (x.text?.bind Calendar.DateTime.read?).map dateTime
  | "Other", some x => otherOfJson? x
  | _, _ => Option.none

/-- The name of a type: a text, or the key of an object that holds a null and nothing else. -/
def typeOfJson? : Json → Option String
  | .string type | .object [(type, .null)] => some type
  | _ => Option.none

def ofJson? : Json → Option Value
  | .object members => do
    let type ← (Bindings.value? "type" members).bind typeOfJson?
    ofParts? type (Bindings.value? "value" members)
  | .array [type, content] => do ofParts? (← typeOfJson? type) (some content)
  | _ => Option.none

/-- The value of a plain JSON value: a truth value, a text or a number stands for itself, all else for null. -/
def ofPlain : Json → Value
  | .bool b => bool b
  | .string s => text s
  | .number (.integer i) => if i < 9223372036854775808 then integer i else double (Binary64.ofInt i)
  | .number (.double x) => double x
  | _ => null

end Value

def Row.toJson (r : Row) : Json :=
  .object [("cells", .array (r.cells.map fun c =>
    .object [("column", .string c.column), ("value", c.value.toJson)]))]

end OracleIntake

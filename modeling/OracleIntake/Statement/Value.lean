import OracleIntake.Calendar.Basic
import OracleIntake.Number.Binary64
import OracleIntake.Number.Decimal
import OracleIntake.Text.Case

/-!
# Values, rows and parameters

What a statement binds and what a row holds, whatever the driver. A row is read by column name in any ASCII
case; of several columns with one name the first counts.
-/
namespace OracleIntake

inductive Value where
  | null
  | bool (value : Bool)
  /-- A whole number of 64 bits. -/
  | integer (value : Int)
  | double (value : Binary64)
  /-- A number with more digits than a double has. -/
  | decimal (value : Decimal)
  | text (value : String)
  | bytes (value : List UInt8)
  | date (value : Calendar.Date)
  | dateTime (value : Calendar.DateTime)
  /-- A value of another type, by its text. -/
  | other (typeName display : String)
  deriving DecidableEq, Repr

def Value.text? : Value → Option String
  | .text s => some s
  | _ => none

/-- A value with the name of its column. -/
structure Cell where
  column : String
  value : Value
  deriving DecidableEq, Repr

/-- A row: cells in the order of the select list. -/
structure Row where
  cells : List Cell := []
  deriving DecidableEq, Repr

/-- The value in the first column of that name, in any ASCII case. -/
def Row.value? (r : Row) (column : String) : Option Value :=
  (r.cells.find? fun c => Text.sameLetters c.column.toList column.toList).map Cell.value

inductive Params where
  | none
  | positional (values : List Value)
  | named (values : List (String × Value))
  deriving DecidableEq, Repr

inductive BindValue where
  | null
  | integer (value : Int)
  | double (value : Binary64)
  | text (value : String)
  | bytes (value : List UInt8)
  | date (value : Calendar.Date)
  | dateTime (value : Calendar.DateTime)
  deriving DecidableEq, Repr

/-- The form in which a value is bound: a truth value as 0 or 1, a decimal as its text, a value of another type
as its text. -/
def BindValue.of : Value → BindValue
  | .null => .null
  | .bool b => .integer (if b then 1 else 0)
  | .integer i => .integer i
  | .double x => .double x
  | .decimal d => .text d.text
  | .text s => .text s
  | .bytes bs => .bytes bs
  | .date d => .date d
  | .dateTime t => .dateTime t
  | .other _ display => .text display

inductive Binds where
  | none
  | positional (values : List BindValue)
  | named (values : List (String × BindValue))
  deriving DecidableEq, Repr

/-- The values that parameters bind, in their order. -/
def Binds.of : Params → Binds
  | .none => .none
  | .positional vs => .positional (vs.map BindValue.of)
  | .named vs => .named (vs.map fun (name, v) => (name, BindValue.of v))

end OracleIntake

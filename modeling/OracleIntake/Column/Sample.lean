import OracleIntake.Calendar.Pattern
import OracleIntake.Column.Type
import OracleIntake.Json.Basic

/-!
# Samples

What a sample value says about its column. A text that names a moment is a timestamp; any other text gets
twice its length, so that longer values fit too.
-/
namespace OracleIntake.Sample

open Calendar in
/-- The text, blanks around it aside, names a day or a day and time of the calendar. A text of ten bytes can
only be a day. -/
def isMoment (s : String) : Bool :=
  let s := Text.trim s.toList
  if (String.ofList s).utf8ByteSize = 10 then
    (dateBy? dashed s).isSome || (dateBy? slashed s).isSome
  else
    (internet? s).isSome ||
      (dateTimeBy? (dashed ++ .mark 'T' :: clock) s).isSome ||
      (dateTimeBy? (dashed ++ .blanks :: clock) s).isSome

def textType (s : String) : ColumnType :=
  if s.isEmpty then .varchar2 ColumnType.defaultLength
  else if isMoment s then .timestamp
  else .bounded (2 * s.length)

/-- The column type of a sample; a null says nothing. -/
def columnType? : Json → Option ColumnType
  | .bool _ => some .flag
  | .number _ => some .number
  | .string s => some (textType s)
  | .array _ | .object _ => some .clob
  | .null => none

end OracleIntake.Sample

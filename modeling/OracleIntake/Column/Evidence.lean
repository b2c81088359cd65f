import OracleIntake.Column.Fragment
import OracleIntake.Column.NameRule
import OracleIntake.Column.Sample

/-!
# Resolving a column type

What is known about a field is tried in a fixed order: a tag, the name, a schema fragment, a sample. The first
that says something decides; a declared length may still replace the length of text that a tag or a name
gives. A bulk collection always has full width, unless a tag says that it is no text.
-/
namespace OracleIntake

structure Evidence where
  field : String
  tag : Option String := none
  fragment : Option Fragment := none
  sample : Option Json := none

namespace Evidence

/-- The field's name without blanks around it, in lower case. -/
def name (e : Evidence) : String := Text.lowered (Text.trimmed e.field)

def declaredLength (e : Evidence) : Option Nat := e.fragment.bind Fragment.maxLength

def fromTag? (e : Evidence) : Option ColumnType :=
  (e.tag.bind typeOfTag?).map fun type =>
    if type.isBoundedText && NameRule.isBulkCollection e.name then .varchar2 ColumnType.maxLength
    else type.withDeclaredLength e.declaredLength

def fromName? (e : Evidence) : Option ColumnType :=
  (NameRule.find? e.name).map fun rule =>
    if NameRule.isBulkCollection e.name then rule.type
    else rule.type.withDeclaredLength e.declaredLength

def fromFragment? (e : Evidence) : Option ColumnType := e.fragment.bind Fragment.columnType?

def fromSample? (e : Evidence) : Option ColumnType := e.sample.bind Sample.columnType?

/-- The column type of the field: that of the first evidence that says something, or text of the default
length. -/
def columnType (e : Evidence) : ColumnType :=
  (e.fromTag?.or (e.fromName?.or (e.fromFragment?.or e.fromSample?))).getD
    (.varchar2 ColumnType.defaultLength)

end Evidence
end OracleIntake

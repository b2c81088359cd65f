import OracleIntake.Column.NamePattern
import OracleIntake.Column.Type
import OracleIntake.Text.Blank
import OracleIntake.Text.Case

/-!
# The standard rules

Rules give a column type to every name that fits one of their patterns; the first rule that fits decides. The
rule for bulk collections stands first, so that it wins over every other. Tags give a column type by name of a
type.

* `isBulkCollection_iff`: which names are those of bulk collections.
* `find?_of_isBulkCollection`: their rule wins.
-/
namespace OracleIntake

structure NameRule where
  key : String
  patterns : List NamePattern
  type : ColumnType
  deriving DecidableEq, Repr

namespace NameRule

def of (key : String) (patterns : List String) (type : ColumnType) : NameRule :=
  ⟨key, patterns.map NamePattern.parse, type⟩

def accepts (rule : NameRule) (name : String) : Bool := rule.patterns.any (·.accepts name)

/-- Collections of values written into one text column of full width. -/
def bulkCollection : NameRule := of "bulk_collection" ["*_set"] (.varchar2 ColumnType.maxLength)

def identifier : NameRule := of "identifier" ["id", "*_id"] .number

def flag : NameRule := of "flag" ["*_flg", "*_flag", "is_*", "has_*"] .flag

def timestamp : NameRule :=
  of "timestamp" ["*_ts", "*_date", "*_datetime", "*_timestamp", "*_at"] .timestamp

def measure : NameRule :=
  of "measure"
    ["*_qty", "*_quantity", "*_amount", "*_amt", "*_count", "*_weight", "*_volume", "*_price", "*_cost",
      "*_seq_nbr"]
    .number

def document : NameRule := of "document" ["*_json", "*_payload", "*_xml"] .clob

def longText : NameRule :=
  of "long_text" ["*_desc", "*_description", "*_comment", "*_comments", "*_notes", "*_instructions"]
    (.varchar2 ColumnType.maxLength)

def code : NameRule := of "code" ["*_code", "*_status", "*_type", "*_uom"] (.varchar2 50)

def name : NameRule := of "name" ["*_name", "*_key", "*_nbr"] (.varchar2 ColumnType.defaultLength)

/-- The rules in the order in which they are tried. -/
def standard : List NameRule :=
  [bulkCollection, identifier, flag, timestamp, measure, document, longText, code, name]

/-- The first standard rule that a name in lower case fits. -/
def find? (name : String) : Option NameRule := standard.find? (·.accepts name)

def isBulkCollection (name : String) : Bool := bulkCollection.accepts name

theorem isBulkCollection_iff {name : String} :
    isBulkCollection name = true ↔ ∃ p, p ≠ [] ∧ name.toList = p ++ "_set".toList := by
  have hpatterns : bulkCollection.patterns = [.endingWith "_set"] := by decide
  rw [isBulkCollection, accepts, hpatterns, List.any_cons, List.any_nil, Bool.or_false,
    NamePattern.accepts_endingWith]
  constructor
  · rintro ⟨hlt, p, hp⟩
    refine ⟨p, ?_, hp.symm⟩
    rintro rfl
    simp [← String.length_toList, ← hp] at hlt
  · rintro ⟨p, hne, hp⟩
    refine ⟨?_, p, hp.symm⟩
    have := List.length_pos_iff.2 hne
    rw [← String.length_toList, ← String.length_toList, hp, List.length_append]
    omega

theorem find?_of_isBulkCollection {name : String} (h : isBulkCollection name = true) :
    find? name = some bulkCollection :=
  List.find?_cons_of_pos (p := fun rule : NameRule => rule.accepts name) h

end NameRule

/-- The names of types and the column types that they stand for. -/
def typeTags : List (List String × ColumnType) := [
  (["integer", "int", "bigint", "number", "numeric", "decimal", "float", "double", "id"], .number),
  (["boolean", "bool", "flag"], .flag),
  (["string", "text", "varchar", "varchar2", "char"], .varchar2 ColumnType.defaultLength),
  (["date", "datetime", "date-time", "timestamp", "time"], .timestamp),
  (["clob", "json", "object", "array", "long_text"], .clob)]

/-- The column type of a tag, in any case and with blanks around it, if the tag is known. -/
def typeOfTag? (tag : String) : Option ColumnType :=
  let name := Text.lowered (Text.trimmed tag)
  (typeTags.find? fun (names, _) => names.contains name).map Prod.snd

end OracleIntake

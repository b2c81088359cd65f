import OracleIntake.Bindings
import OracleIntake.Number.Binary64

/-!
# JSON values

An object keeps its members in the order of writing and is read through `Bindings`: its members are listed in
ascending order of keys, and the last of several members with one key counts.
-/
namespace OracleIntake

/-- A JSON number: an integer literal from `-2 ^ 63` to `2 ^ 64 - 1`, or a double. -/
inductive JsonNumber where
  | integer (value : Int)
  | double (value : Binary64)
  deriving DecidableEq, Repr

inductive Json where
  | null
  | bool (value : Bool)
  | number (value : JsonNumber)
  | string (value : String)
  | array (items : List Json)
  | object (members : List (String × Json))

namespace Json

/-- The members of an object, each key once, in ascending order. -/
def members? : Json → Option (Bindings Json)
  | object members => some (Bindings.entries members)
  | _ => none

/-- The member with that key, if the value is an object that has one. -/
def member? (key : String) : Json → Option Json
  | object members => Bindings.value? key members
  | _ => none

def items? : Json → Option (List Json)
  | array items => some items
  | _ => none

def text? : Json → Option String
  | string value => some value
  | _ => none

def bool? : Json → Option Bool
  | bool value => some value
  | _ => none

/-- The value of an integer literal that is not negative. -/
def natural? : Json → Option Nat
  | number (.integer i) => if 0 ≤ i then some i.toNat else none
  | _ => none

/-- The value of an integer literal from `-2 ^ 63` to `2 ^ 63 - 1`. -/
def integer? : Json → Option Int
  | number (.integer i) => if i < 9223372036854775808 then some i else none
  | _ => none

/-- The double nearest to a number. -/
def double? : Json → Option Binary64
  | number (.integer i) => some (Binary64.ofInt i)
  | number (.double x) => some x
  | _ => none

/-- The texts among the items of an array. -/
def texts (items : List Json) : List String := items.filterMap text?

theorem members?_eq_some_iff {x : Json} {members : Bindings Json} :
    x.members? = some members ↔ ∃ ms, x = .object ms ∧ members = Bindings.entries ms := by
  cases x <;> simp [members?, eq_comm]

theorem items?_eq_some_iff {x : Json} {items : List Json} : x.items? = some items ↔ x = .array items := by
  cases x <;> simp [items?]

theorem text?_eq_some_iff {x : Json} {t : String} : x.text? = some t ↔ x = .string t := by
  cases x <;> simp [text?]

theorem mem_texts_iff {items : List Json} {t : String} : t ∈ texts items ↔ .string t ∈ items := by
  simp [texts, text?_eq_some_iff]

end Json
end OracleIntake

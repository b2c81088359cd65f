/-!
# Column types

The five families of destination columns and their text in a table definition. A text column has a length in
characters; `varchar2` keeps it between 1 and 4000.

* `isLegal_bounded`: a length from `bounded` is always legal.
* `withDeclaredLength_legal`: a declared length keeps a legal type legal.
* `withDeclaredLength_of_pos`, `withDeclaredLength_of_zero`, `withDeclaredLength_of_other`: a declared length of
  at least one replaces that of text, and nothing else.
-/
namespace OracleIntake

inductive ColumnType where
  | number
  /-- A number that is 0 or 1. -/
  | flag
  | timestamp
  /-- Text of at most `length` characters. -/
  | varchar2 (length : Nat)
  /-- Text without a bound. -/
  | clob
  deriving DecidableEq, Repr

namespace ColumnType

def maxLength : Nat := 4000

/-- The length of a text column when nothing better is known. -/
def defaultLength : Nat := 255

/-- Text whose length is `n` kept between 1 and 4000. -/
def bounded (n : Nat) : ColumnType := varchar2 (max 1 (min n maxLength))

/-- Text with a declared length, or with the default one if none or zero is declared. -/
def declared : Option Nat → ColumnType
  | some (n + 1) => bounded (n + 1)
  | _ => varchar2 defaultLength

def isBoundedText : ColumnType → Bool
  | varchar2 _ => true
  | _ => false

/-- A declared length replaces the length of a text column. No other type changes, and a missing or zero
length changes nothing. -/
def withDeclaredLength : ColumnType → Option Nat → ColumnType
  | varchar2 _, some (n + 1) => bounded (n + 1)
  | t, _ => t

/-- The type as a table definition writes it. -/
def text : ColumnType → String
  | number => "NUMBER"
  | flag => "NUMBER(1,0)"
  | timestamp => "TIMESTAMP(6)"
  | varchar2 n => "VARCHAR2(" ++ toString n ++ " CHAR)"
  | clob => "CLOB"

/-- A text column has a length from 1 to 4000. -/
def IsLegal : ColumnType → Prop
  | varchar2 n => 1 ≤ n ∧ n ≤ maxLength
  | _ => True

instance : DecidablePred IsLegal
  | varchar2 n => inferInstanceAs (Decidable (1 ≤ n ∧ n ≤ maxLength))
  | number | flag | timestamp | clob => inferInstanceAs (Decidable True)

theorem isLegal_bounded (n : Nat) : (bounded n).IsLegal := by
  simp only [bounded, IsLegal, maxLength]
  omega

theorem bounded_of_pos {n : Nat} (h : 0 < n) : bounded n = varchar2 (min n maxLength) := by
  simp only [bounded, maxLength, varchar2.injEq]
  omega

theorem declared_of_zero {n : Option Nat} (hn : n.getD 0 = 0) : declared n = varchar2 defaultLength := by
  rcases n with _ | _ | n
  · rfl
  · rfl
  · cases hn

theorem declared_of_pos {n : Nat} (hn : 0 < n) : declared (some n) = bounded n := by
  obtain ⟨k, rfl⟩ := Nat.exists_eq_succ_of_ne_zero (Nat.ne_of_gt hn)
  rfl

theorem isLegal_declared (n : Option Nat) : (declared n).IsLegal := by
  unfold declared
  split
  · exact isLegal_bounded _
  · decide

theorem withDeclaredLength_of_zero {n : Option Nat} (hn : n.getD 0 = 0) (t : ColumnType) :
    t.withDeclaredLength n = t := by
  unfold withDeclaredLength
  split
  · cases hn
  · rfl

theorem withDeclaredLength_of_pos {t : ColumnType} (ht : t.isBoundedText = true) {n : Nat} (hn : 0 < n) :
    t.withDeclaredLength (some n) = bounded n := by
  cases t with
  | varchar2 length =>
    obtain ⟨k, rfl⟩ := Nat.exists_eq_succ_of_ne_zero (Nat.ne_of_gt hn)
    rfl
  | number | flag | timestamp | clob => cases ht

@[simp] theorem isBoundedText_declared (n : Option Nat) : (declared n).isBoundedText = true := by
  unfold declared
  split <;> rfl

@[simp] theorem isBoundedText_withDeclaredLength (t : ColumnType) (n : Option Nat) :
    (t.withDeclaredLength n).isBoundedText = t.isBoundedText := by
  unfold withDeclaredLength
  split <;> rfl

theorem withDeclaredLength_of_other {t : ColumnType} (ht : t.isBoundedText = false) (n : Option Nat) :
    t.withDeclaredLength n = t := by
  cases t with
  | varchar2 length => cases ht
  | number | flag | timestamp | clob => rfl

theorem withDeclaredLength_legal {t : ColumnType} (h : t.IsLegal) (n : Option Nat) :
    (t.withDeclaredLength n).IsLegal := by
  unfold withDeclaredLength
  split
  · exact isLegal_bounded _
  · exact h

end ColumnType
end OracleIntake

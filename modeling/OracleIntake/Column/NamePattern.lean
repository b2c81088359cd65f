/-!
# Name patterns

A pattern names a field exactly, by its start or by its end. A start or an end alone is not enough: at least
one more character belongs to the name. The star of a written pattern stands for that rest.
-/
namespace OracleIntake

inductive NamePattern where
  | exactly (name : String)
  | startingWith (start : String)
  | endingWith (ending : String)
  deriving DecidableEq, Repr

namespace NamePattern

/-- Reads a pattern: a star in front leaves the end of the name, a star behind leaves the start. -/
def parse (s : String) : NamePattern :=
  match s.toList with
  | '*' :: rest => endingWith (String.ofList rest)
  | cs => if cs.getLast? = some '*' then startingWith (String.ofList cs.dropLast) else exactly s

/-- Whether a name in lower case fits the pattern. -/
def accepts (name : String) : NamePattern → Bool
  | exactly n => name == n
  | startingWith p => p.length < name.length && p.toList.isPrefixOf name.toList
  | endingWith p => p.length < name.length && p.toList.isSuffixOf name.toList

def text : NamePattern → String
  | exactly n => n
  | startingWith p => p ++ "*"
  | endingWith p => "*" ++ p

theorem accepts_exactly {name n : String} : (exactly n).accepts name = true ↔ name = n := by
  simp [accepts]

theorem accepts_startingWith {name p : String} :
    (startingWith p).accepts name = true ↔ p.length < name.length ∧ p.toList <+: name.toList := by
  simp [accepts, List.isPrefixOf_iff_prefix]

theorem accepts_endingWith {name p : String} :
    (endingWith p).accepts name = true ↔ p.length < name.length ∧ p.toList <:+ name.toList := by
  simp [accepts, List.isSuffixOf_iff_suffix]

end NamePattern
end OracleIntake

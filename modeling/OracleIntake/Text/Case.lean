import OracleIntake.Text.CaseTable

/-!
# Upper and lower case

Full case conversion of texts: a character may become several (ß in upper case is SS, İ in lower case is an
i with a dot above), and a capital sigma becomes the final form at the end of a word. ASCII letters are
converted one by one, so on ASCII texts the conversion is that of `Char.toLower` and `Char.toUpper`.
-/
namespace OracleIntake.Text

/-- The character's lower-case form, away from the final form of sigma. -/
def lowerChar (c : Char) : List Char :=
  if c.toNat < 0x80 then [c.toLower]
  else if c = 'İ' then ['i', '\u0307']
  else match lowerRuns.findSome? (·.map? c.toNat) with
    | some n => [Char.ofNat n]
    | none => [c]

def upperChar (c : Char) : List Char :=
  if c.toNat < 0x80 then [c.toUpper]
  else match upperExpansions.lookup c.toNat with
    | some ns => ns.map Char.ofNat
    | none => match upperRuns.findSome? (·.map? c.toNat) with
      | some n => [Char.ofNat n]
      | none => [c]

/-- Letters with an upper-case, lower-case or title-case form. -/
def isCased (c : Char) : Bool := inRanges casedRanges c.toNat

/-- Marks and punctuation that do not end a word. -/
def isCaseIgnorable (c : Char) : Bool := inRanges ignorableRanges c.toNat

/-- The first character that is not case-ignorable is there and is a cased letter. -/
def meetsCased (s : List Char) : Bool :=
  match s.dropWhile isCaseIgnorable with
  | c :: _ => isCased c
  | [] => false

/-- The lower-case form of a capital sigma after `before` (nearest character first) and before `rest`. -/
def lowerSigma (before rest : List Char) : Char :=
  if meetsCased before && !meetsCased rest then 'ς' else 'σ'

/-- The lower-case form of a text that stands after `before` (nearest character first). -/
def lowerAfter (before : List Char) : List Char → List Char
  | [] => []
  | c :: s => (if c = 'Σ' then [lowerSigma before s] else lowerChar c) ++ lowerAfter (c :: before) s

def lower (s : List Char) : List Char := lowerAfter [] s

def upper (s : List Char) : List Char := s.flatMap upperChar

/-- `lower` on strings. -/
def lowered (s : String) : String := String.ofList (lower s.toList)

/-- `upper` on strings. -/
def uppered (s : String) : String := String.ofList (upper s.toList)

/-- Equal up to the case of ASCII letters. -/
def sameLetters (s t : List Char) : Bool := s.map Char.toLower == t.map Char.toLower

end OracleIntake.Text

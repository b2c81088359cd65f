import OracleIntake.Json.Number

/-!
# Reading JSON texts

A strict reader: no comments, no trailing commas, no control characters in strings, no code point of half a
surrogate pair, nothing but white space after the value, and at most 127 arrays and objects inside one
another. `value?` recurses on the depth that is left, and the loops over items and members on the length of
the text.
-/
namespace OracleIntake.Json

def isSpace (c : Char) : Bool := c == ' ' || c == '\n' || c == '\t' || c == '\r'

def skipSpace (s : List Char) : List Char := s.dropWhile isSpace

def hexDigit? (c : Char) : Option Nat :=
  if c.isDigit then some (c.toNat - '0'.toNat)
  else if 'a' ≤ c ∧ c ≤ 'f' then some (c.toNat - 'a'.toNat + 10)
  else if 'A' ≤ c ∧ c ≤ 'F' then some (c.toNat - 'A'.toNat + 10)
  else none

/-- Four hexadecimal digits and what follows. -/
def hex4? : List Char → Option (Nat × List Char)
  | a :: b :: c :: d :: s => do
    let a ← hexDigit? a
    let b ← hexDigit? b
    let c ← hexDigit? c
    let d ← hexDigit? d
    some (((a * 16 + b) * 16 + c) * 16 + d, s)
  | _ => none

/-- The character behind `\u` and what follows. Two escapes may form a surrogate pair; half a pair is none. -/
def unicodeEscape? (s : List Char) : Option (Char × List Char) := do
  let (n, s) ← hex4? s
  if 0xDC00 ≤ n ∧ n < 0xE000 then none
  else if 0xD800 ≤ n ∧ n < 0xDC00 then
    match s with
    | '\\' :: 'u' :: s =>
      let (m, s) ← hex4? s
      if 0xDC00 ≤ m ∧ m < 0xE000 then
        some (Char.ofNat (0x10000 + (n - 0xD800) * 0x400 + (m - 0xDC00)), s)
      else none
    | _ => none
  else some (Char.ofNat n, s)

/-- The character behind a backslash and what follows. -/
def escape? : List Char → Option (Char × List Char)
  | '"' :: s => some ('"', s)
  | '\\' :: s => some ('\\', s)
  | '/' :: s => some ('/', s)
  | 'b' :: s => some ('\x08', s)
  | 'f' :: s => some ('\x0c', s)
  | 'n' :: s => some ('\n', s)
  | 'r' :: s => some ('\r', s)
  | 't' :: s => some ('\t', s)
  | 'u' :: s => unicodeEscape? s
  | _ => none

/-- The rest of a string behind `read` (last character first), and what follows its closing quote. -/
def stringRest? : (fuel : Nat) → (read : List Char) → List Char → Option (List Char × List Char)
  | 0, _, _ => none
  | _, _, [] => none
  | fuel + 1, read, c :: s =>
    if c = '"' then some (read.reverse, s)
    else if c = '\\' then do
      let (c, s) ← escape? s
      stringRest? fuel (c :: read) s
    else if c.toNat < 0x20 then none
    else stringRest? fuel (c :: read) s

/-- A string behind its opening quote, and what follows. -/
def stringBody? (s : List Char) : Option (String × List Char) :=
  (stringRest? (s.length + 1) [] s).map fun (cs, s) => (String.ofList cs, s)

/-- The items of an array from one that must be there, behind those `read` (last first). -/
def itemsRest? (item : List Char → Option (Json × List Char)) :
    (fuel : Nat) → (read : List Json) → List Char → Option (List Json × List Char)
  | 0, _, _ => none
  | fuel + 1, read, s => do
    let (x, s) ← item (skipSpace s)
    match skipSpace s with
    | ',' :: s => itemsRest? item fuel (x :: read) s
    | ']' :: s => some ((x :: read).reverse, s)
    | _ => none

/-- The members of an object from one that must be there, behind those `read` (last first). -/
def membersRest? (item : List Char → Option (Json × List Char)) :
    (fuel : Nat) → (read : List (String × Json)) → List Char → Option (List (String × Json) × List Char)
  | 0, _, _ => none
  | fuel + 1, read, s =>
    match skipSpace s with
    | '"' :: s => do
      let (key, s) ← stringBody? s
      match skipSpace s with
      | ':' :: s =>
        let (x, s) ← item (skipSpace s)
        match skipSpace s with
        | ',' :: s => membersRest? item fuel ((key, x) :: read) s
        | '\x7d' :: s => some (((key, x) :: read).reverse, s)
        | _ => none
      | _ => none
    | _ => none

/-- A value that is neither array nor object, and what follows. -/
def scalar? : List Char → Option (Json × List Char)
  | '"' :: s => (stringBody? s).map fun (x, s) => (.string x, s)
  | 'n' :: 'u' :: 'l' :: 'l' :: s => some (.null, s)
  | 't' :: 'r' :: 'u' :: 'e' :: s => some (.bool true, s)
  | 'f' :: 'a' :: 'l' :: 's' :: 'e' :: s => some (.bool false, s)
  | s => (JsonNumber.read? s).map fun (x, s) => (.number x, s)

/-- The value at the start of a text, with at most `depth` arrays and objects inside one another, and what
follows. -/
def value? : (depth : Nat) → List Char → Option (Json × List Char)
  | 0, s => scalar? s
  | depth + 1, s =>
    match s with
    | '[' :: s =>
      match skipSpace s with
      | ']' :: s => some (.array [], s)
      | s => (itemsRest? (value? depth) (s.length + 1) [] s).map fun (xs, s) => (.array xs, s)
    | '\x7b' :: s =>
      match skipSpace s with
      | '\x7d' :: s => some (.object [], s)
      | s => (membersRest? (value? depth) (s.length + 1) [] s).map fun (ms, s) => (.object ms, s)
    | s => scalar? s

/-- The value that a whole text writes. -/
def parse? (s : String) : Option Json :=
  match value? 127 (skipSpace s.toList) with
  | some (x, rest) => if (skipSpace rest).isEmpty then some x else none
  | none => none

end OracleIntake.Json

import OracleIntake.Settings.Environment
import OracleIntake.Text.Search

/-!
# Settings files

A settings file has one `KEY=VALUE` a line. Blanks around a line, a key or a value do not count, a line may
start with `export`, and a value may stand between quotes, which are dropped. Blank lines and lines that
start with `#` are skipped. A later line with the same key counts.
-/
namespace OracleIntake

inductive FileFault where
  | notFound
  | notText
  /-- Another reason, in the words of the operating system. -/
  | system (reason : String)
  deriving DecidableEq, Repr

def FileFault.text : FileFault → String
  | notFound => "No such file or directory (os error 2)"
  | notText => "stream did not contain valid UTF-8"
  | system reason => reason

/-- The text of a file's bytes. -/
def FileFault.decode (bytes : ByteArray) : Except FileFault String :=
  match String.fromUTF8? bytes with
  | some s => .ok s
  | none => .error .notText

namespace SettingsFile

/-- The word that may stand before a key. -/
def exportWord : List Char := "export ".toList

/-- A value without the quotes around it, if it stands between double or else between single ones. -/
def unquote (s : List Char) : List Char :=
  ((Text.between? '"' s).or (Text.between? '\'' s)).getD s

/-- A line without the word `export` in front. -/
def withoutExport (s : List Char) : List Char :=
  if exportWord.isPrefixOf s then s.drop exportWord.length else s

/-- What line `number` binds; nothing if it is skipped. -/
def readLine (number : Nat) (line : List Char) : Except SettingsFault (Option (String × String)) :=
  let line := Text.trim line
  if line.isEmpty || line.head? == some '#' then .ok none
  else match Text.cut? '=' (withoutExport line) with
    | none => .error (.noPair number)
    | some (key, value) =>
      let key := Text.trim key
      if key.isEmpty then .error (.noKey number)
      else .ok (some (String.ofList key, String.ofList (unquote (Text.trim value))))

/-- What the lines from line `number` on bind, in their order. -/
def readLines (number : Nat) : List (List Char) → Except SettingsFault Environment
  | [] => .ok []
  | line :: lines => do
    let bound ← readLine number line
    let rest ← readLines (number + 1) lines
    return bound.toList ++ rest

def read (s : String) : Except SettingsFault Environment := readLines 1 (Text.lines s.toList)

/-- What the file at `path` binds, given what reading it gave. -/
def load (path : String) (content : Except FileFault String) : Except SettingsFault Environment :=
  match content with
  | .ok s => read s
  | .error reason => .error (.unreadable path reason.text)

end SettingsFile
end OracleIntake

import OracleIntake.CommandLine.Command
import OracleIntake.Proofs.Settings.Reading

/-!
# The text of a settings file

A file of quoted entries, blank lines and comments, as one may write it: with spaces and tabs around a line and
around an equals sign, with or without `export` in front of a key, in either quotes, and with either line end.
What is read of its text are its entries, character for character, so the file loads as an environment with these
texts does.

* `readLine_chars`: one line.
* `readLines_chars`: all lines.
* `read_written`: the text, and the settings that are loaded.
-/
namespace OracleIntake.SettingsFile

/-! ## Files as they are written -/

/-- Spaces and tabs. -/
structure Padding where
  chars : List Char
  blank : ∀ c ∈ chars, c = ' ' ∨ c = '\t'

/-- A key and a value that one line can bind. -/
structure Entry where
  key : String
  value : String
  key_trimmed : Text.trimmed key = key
  key_ne_empty : key ≠ ""
  key_ne_export : key ≠ "export"
  key_not_exported : ¬ exportWord <+: key.toList
  key_not_comment : key.toList.head? ≠ some '#'
  key_no_equals : '=' ∉ key.toList
  key_one_line : '\n' ∉ key.toList
  value_one_line : '\n' ∉ value.toList

/-- Every key of settings can be written. -/
def Entry.ofKey (key : SettingsKey) (value : String) (h : '\n' ∉ value.toList) : Entry where
  key := key.name
  value := value
  key_trimmed := by cases key <;> decide +kernel
  key_ne_empty := by cases key <;> decide
  key_ne_export := by cases key <;> decide
  key_not_exported := by cases key <;> decide
  key_not_comment := by cases key <;> decide
  key_no_equals := by cases key <;> decide
  key_one_line := by cases key <;> decide
  value_one_line := h

inductive Quote where
  | double
  | single

def Quote.char : Quote → Char
  | double => '"'
  | single => '\''

def Quote.around (q : Quote) (value : List Char) : List Char := q.char :: value ++ [q.char]

structure Layout where
  before : Padding
  exported : Bool
  left : Padding
  right : Padding
  quote : Quote
  after : Padding

/-- The entry without the padding around its line. -/
def Entry.core (e : Entry) (layout : Layout) : List Char :=
  (if layout.exported then exportWord else []) ++
    (e.key.toList ++ layout.left.chars ++ '=' :: (layout.right.chars ++ layout.quote.around e.value.toList))

inductive Line where
  | blank (padding : Padding)
  | comment (before : Padding) (text : String) (one_line : '\n' ∉ text.toList)
  | entry (e : Entry) (layout : Layout)

/-- The line without its end. -/
def Line.chars : Line → List Char
  | blank padding => padding.chars
  | comment before text _ => before.chars ++ '#' :: text.toList
  | entry e layout => layout.before.chars ++ e.core layout ++ layout.after.chars

/-- What the line binds. -/
def Line.bound? : Line → Option (String × String)
  | entry e _ => some (e.key, e.value)
  | _ => none

inductive LineEnd where
  | lineFeed
  | returnAndLineFeed

def LineEnd.chars : LineEnd → List Char
  | lineFeed => ['\n']
  | returnAndLineFeed => ['\r', '\n']

def written (lines : List (Line × LineEnd)) : String :=
  String.ofList (lines.flatMap fun (line, lineEnd) => line.chars ++ lineEnd.chars)

/-- What the lines bind, in their order. -/
def bound (lines : List (Line × LineEnd)) : Environment := lines.filterMap fun (line, _) => line.bound?

/-! ## Parts of a line -/

namespace Padding
variable {p : Padding} {c : Char}

theorem isBlank_of_mem (h : c ∈ p.chars) : Text.isBlank c = true := by
  rcases p.blank c h with rfl | rfl <;> decide

theorem not_mem (hspace : c ≠ ' ') (htab : c ≠ '\t') : c ∉ p.chars :=
  fun h => (p.blank c h).elim hspace htab

theorem trim_before (p : Padding) (s : List Char) : Text.trim (p.chars ++ s) = Text.trim s :=
  Text.trim_append_left (fun _ => isBlank_of_mem) s

theorem trim_after (s : List Char) (p : Padding) : Text.trim (s ++ p.chars) = Text.trim s :=
  Text.trim_append_right (fun _ => isBlank_of_mem) s

end Padding

namespace Quote
variable {q : Quote}

theorem isBlank_char (q : Quote) : Text.isBlank q.char = false := by cases q <;> decide

theorem char_ne_newline (q : Quote) : q.char ≠ '\n' := by cases q <;> decide

theorem trim_around (q : Quote) (value : List Char) : Text.trim (q.around value) = q.around value :=
  Text.trim_eq_self (fun c hc => by cases hc; exact q.isBlank_char) fun c hc => by
    rw [around, List.getLast?_concat] at hc
    cases hc
    exact q.isBlank_char

/-- Only the outer quotes are dropped, whatever stands between them. -/
theorem unquote_around (q : Quote) (value : List Char) : unquote (q.around value) = value := by
  rw [unquote, around]
  cases q with
  | double =>
    rw [char, Text.between?_delimited]
    rfl
  | single =>
    rw [char, List.cons_append, Text.between?_of_ne (by decide), ← List.cons_append, Text.between?_delimited]
    rfl

end Quote

/-! ## Lines -/

/-- What may stand behind a key. -/
def isBehindKey (c : Char) : Bool := c == ' ' || c == '\t' || c == '='

/-- A key is not taken for the word: it does not start with the word, and the blank that ends the word stands behind
the key only if the key is `export`. -/
theorem not_exportWord_prefix {key s : List Char} (hkey : ¬ exportWord <+: key) (hne : key ≠ "export".toList)
    (hs : ∀ c, s.head? = some c → isBehindKey c = true) : ¬ exportWord <+: key ++ s := by
  intro hword
  rcases List.prefix_or_prefix_of_prefix hword (List.prefix_append key s) with hlong | ⟨t, ht⟩
  · exact hkey hlong
  rw [← ht, List.prefix_append_right_inj] at hword
  cases t with
  | nil =>
    rw [← ht, List.append_nil] at hkey
    exact hkey List.prefix_rfl
  | cons c t =>
    have hc : isBehindKey c = true := by
      obtain ⟨r, rfl⟩ := hword
      exact hs c rfl
    have hnot : ("export".toList.any isBehindKey) = false := by decide
    have hsplit : key ++ c :: t = "export".toList ++ [' '] := ht
    rcases List.append_eq_append_iff.1 hsplit with ⟨a, ha, hrest⟩ | ⟨b, hb, hrest⟩
    · cases a with
      | nil => exact hne (by rw [ha, List.append_nil])
      | cons c' a =>
        cases hrest
        exact List.any_eq_false.1 hnot c (by rw [ha]; simp) hc
    · cases b with
      | nil => exact hne (by rw [hb, List.append_nil])
      | cons c' b => simpa using congrArg List.length hrest

namespace Entry
variable (e : Entry) (layout : Layout)

theorem trim_key : Text.trim e.key.toList = e.key.toList := by
  have h := congrArg String.toList e.key_trimmed
  rwa [Text.trimmed, String.toList_ofList] at h

theorem exists_key : ∃ c s, e.key.toList = c :: s ∧ Text.isBlank c = false ∧ c ≠ '#' := by
  cases hkey : e.key.toList with
  | nil => exact absurd (String.toList_eq_nil_iff.1 hkey) e.key_ne_empty
  | cons c s =>
    have htrim := e.trim_key
    have hcomment := e.key_not_comment
    rw [hkey] at htrim hcomment
    exact ⟨c, s, rfl, Text.isBlank_head_of_trim htrim, by simpa using hcomment⟩

theorem exists_core : ∃ c s, e.core layout = c :: s ∧ Text.isBlank c = false ∧ c ≠ '#' := by
  unfold core
  cases layout.exported with
  | true => exact ⟨'e', _, rfl, by decide, by decide⟩
  | false =>
    obtain ⟨c, s, hkey, hc⟩ := e.exists_key
    exact ⟨c, _, by rw [hkey]; rfl, hc⟩

theorem trim_core : Text.trim (e.core layout) = e.core layout := by
  obtain ⟨c, s, hcore, hc, -⟩ := e.exists_core layout
  apply Text.trim_eq_self
  · intro c' hc'
    rw [hcore] at hc'
    cases hc'
    exact hc
  · -- the last character is the closing quote
    intro c' hc'
    have hlast : (e.core layout).getLast? = some layout.quote.char := by
      rw [core, Quote.around]
      simp [List.getLast?_append, List.getLast?_cons]
    rw [hlast] at hc'
    cases hc'
    exact layout.quote.isBlank_char

theorem withoutExport_core : withoutExport (e.core layout) =
    e.key.toList ++ layout.left.chars ++ '=' :: (layout.right.chars ++ layout.quote.around e.value.toList) := by
  unfold core
  cases layout.exported with
  | true => rfl
  | false =>
    have hbehind : ¬ exportWord <+: e.key.toList ++ (layout.left.chars ++
        '=' :: (layout.right.chars ++ layout.quote.around e.value.toList)) := by
      refine not_exportWord_prefix e.key_not_exported (fun h => e.key_ne_export (String.toList_inj.1 h)) fun c hc => ?_
      cases hleft : layout.left.chars with
      | nil =>
        rw [hleft] at hc
        cases hc
        rfl
      | cons c' l =>
        rw [hleft] at hc
        cases hc
        rcases layout.left.blank c (by rw [hleft]; simp) with rfl | rfl <;> rfl
    rw [← List.append_assoc, ← List.isPrefixOf_iff_prefix] at hbehind
    exact if_neg hbehind

/-- **An entry is read as its key and its value.** -/
theorem readLine_entry (number : Nat) : readLine number (Line.entry e layout).chars = .ok (some (e.key, e.value)) := by
  obtain ⟨c, s, hcore, -, hc⟩ := e.exists_core layout
  have hline : Text.trim (Line.entry e layout).chars = e.core layout := by
    rw [Line.chars, Padding.trim_after, Padding.trim_before, trim_core]
  have hskip : ((e.core layout).isEmpty || (e.core layout).head? == some '#') = false := by
    rw [hcore]
    simpa using hc
  have hequals : '=' ∉ e.key.toList ++ layout.left.chars :=
    fun h => (List.mem_append.1 h).elim e.key_no_equals (layout.left.not_mem (by decide) (by decide))
  have hkey : Text.trim (e.key.toList ++ layout.left.chars) = e.key.toList := by
    rw [Padding.trim_after, e.trim_key]
  have hvalue : Text.trim (layout.right.chars ++ layout.quote.around e.value.toList) =
      layout.quote.around e.value.toList := by
    rw [Padding.trim_before, Quote.trim_around]
  have hnonempty : e.key.toList.isEmpty = false := by
    obtain ⟨c, s, hkey, -⟩ := e.exists_key
    rw [hkey]
    rfl
  unfold readLine
  simp only [hline, hskip, Bool.false_eq_true, if_false, withoutExport_core, Text.cut?_append hequals, hkey, hnonempty,
    hvalue, Quote.unquote_around, String.ofList_toList]

end Entry

theorem readLine_congr {l l' : List Char} (h : Text.trim l = Text.trim l') (number : Nat) :
    readLine number l = readLine number l' := by
  unfold readLine
  rw [h]

/-- **One line.** -/
theorem readLine_chars (line : Line) (number : Nat) : readLine number line.chars = .ok line.bound? := by
  cases line with
  | blank padding =>
    unfold readLine
    rw [Line.chars, Text.trim_eq_nil fun _ => Padding.isBlank_of_mem]
    rfl
  | comment before text one_line =>
    have hline : Text.trim (Line.comment before text one_line).chars = Text.trim ('#' :: text.toList) :=
      before.trim_before _
    have hhead : (Text.trim ('#' :: text.toList)).head? = some '#' := Text.head?_trim (by decide) _
    unfold readLine
    simp only [hline, hhead, beq_self_eq_true, Bool.or_true, if_true]
    rfl
  | entry e layout => exact e.readLine_entry layout number

/-! ## All lines -/

theorem Entry.newline_not_mem_core (e : Entry) (layout : Layout) : '\n' ∉ e.core layout := by
  have hword : '\n' ∉ if layout.exported then exportWord else [] := by
    split
    · decide
    · exact List.not_mem_nil
  have hpad : ∀ p : Padding, '\n' ∉ p.chars := fun p => p.not_mem (by decide) (by decide)
  simp [core, Quote.around, hword, hpad, e.key_one_line, e.value_one_line, layout.quote.char_ne_newline.symm]

theorem Line.newline_not_mem_chars (line : Line) : '\n' ∉ line.chars := by
  have hpad : ∀ p : Padding, '\n' ∉ p.chars := fun p => p.not_mem (by decide) (by decide)
  cases line with
  | blank padding => exact hpad padding
  | comment before text one_line => simp [chars, hpad, one_line]
  | entry e layout => simp [chars, hpad, e.newline_not_mem_core]

theorem LineEnd.exists_chars (lineEnd : LineEnd) :
    ∃ r, lineEnd.chars = r ++ ['\n'] ∧ '\n' ∉ r ∧ ∀ c ∈ r, Text.isBlank c = true := by
  cases lineEnd with
  | lineFeed => exact ⟨[], rfl, List.not_mem_nil, by simp⟩
  | returnAndLineFeed => exact ⟨['\r'], rfl, by decide, by simp; decide⟩

/-- The first line of a text is the line that was written, but for blanks at its end. -/
theorem lines_written (line : Line) (lineEnd : LineEnd) (rest : List Char) :
    ∃ l, Text.lines (line.chars ++ lineEnd.chars ++ rest) = l :: Text.lines rest ∧
      Text.trim l = Text.trim line.chars := by
  obtain ⟨r, hend, hr, hblank⟩ := lineEnd.exists_chars
  have hline : '\n' ∉ line.chars ++ r := fun h => (List.mem_append.1 h).elim line.newline_not_mem_chars hr
  obtain ⟨l, hlines, hl⟩ := Text.lines_append hline rest
  have htext : line.chars ++ lineEnd.chars ++ rest = line.chars ++ r ++ '\n' :: rest := by simp [hend]
  have hreturn : Text.trim (l ++ ['\r']) = Text.trim l := Text.trim_append_right (by simp; decide) l
  have htrim : Text.trim (line.chars ++ r) = Text.trim l := by
    rcases hl with hl | hl
    · rw [hl]
    · rw [hl, hreturn]
  exact ⟨l, by rw [htext, hlines], by rw [← htrim, Text.trim_append_right hblank]⟩

/-- **All lines.** By induction on the lines, of which each is read alone. -/
theorem readLines_chars (lines : List (Line × LineEnd)) (number : Nat) :
    readLines number (Text.lines (lines.flatMap fun (line, lineEnd) => line.chars ++ lineEnd.chars)) =
      .ok (bound lines) := by
  induction lines generalizing number with
  | nil => rfl
  | cons x lines ih =>
    obtain ⟨line, lineEnd⟩ := x
    obtain ⟨l, hl, htrim⟩ := lines_written line lineEnd
      (lines.flatMap fun (line, lineEnd) => line.chars ++ lineEnd.chars)
    rw [List.flatMap_cons, hl, readLines, readLine_congr htrim, readLine_chars, ih]
    cases hbound : line.bound? <;> simp [bound, hbound, bind, Except.bind, pure, Except.pure]

/-- **Files and environments load alike.** The text of a file binds what its entries say, a later entry of a key
before an earlier one. What is loaded of it, settings or a fault, is what is read of an environment that has the same
texts under the keys of settings. -/
theorem read_written (lines : List (Line × LineEnd)) :
    read (written lines) = .ok (bound lines) ∧
    (∀ key, (bound lines).value? key = ((bound lines).filter fun x => x.1 == key).getLast?.map Prod.snd) ∧
    ∀ (path : String) (env env' : Environment),
      (∀ key : SettingsKey, env.text? key = (bound lines).value? key.name) →
        CommandLine.loadSettings (some path) env' (.ok (written lines)) =
          (Settings.read env).mapError Fault.text := by
  have hread : read (written lines) = .ok (bound lines) := by
    rw [read, written, String.toList_ofList, readLines_chars]
  refine ⟨hread, fun key => Bindings.value?_eq_getLast? key _, fun path env env' henv => ?_⟩
  have hsame : Settings.read env = Settings.read (bound lines) := Settings.read_congr henv
  simp only [CommandLine.loadSettings, load, hread, hsame]

/-- Complete settings. Their password has both quotes, an equals sign, a backslash and blanks around it, and it is
written again after another. -/
theorem read_written_password :
    let bare : Padding := ⟨[], by simp⟩
    let wide : Padding := ⟨['\t', ' '], by simp⟩
    let terse : Layout := ⟨bare, false, bare, bare, .double, bare⟩
    let loose : Layout := ⟨wide, true, wide, wide, .single, wide⟩
    let lines : List (Line × LineEnd) := [
      (.comment wide "password=\"old\"\r" (by decide), .lineFeed),
      (.entry (.ofKey .password "old" (by decide)) terse, .lineFeed), (.blank wide, .returnAndLineFeed),
      (.entry (.ofKey .host "db" (by decide)) terse, .lineFeed),
      (.entry (.ofKey .port "2484" (by decide)) loose, .lineFeed),
      (.entry (.ofKey .serviceName "XE" (by decide)) terse, .returnAndLineFeed),
      (.entry (.ofKey .username "scott" (by decide)) loose, .lineFeed),
      (.entry (.ofKey .protocol "tcps" (by decide)) terse, .lineFeed),
      (.entry (.ofKey .verifyIdentity "on" (by decide)) terse, .lineFeed),
      (.entry (.ofKey .connectTimeout "30" (by decide)) terse, .lineFeed),
      (.entry (.ofKey .retryCount "4" (by decide)) terse, .lineFeed),
      (.entry (.ofKey .retryDelay "0.01" (by decide)) terse, .lineFeed),
      (.entry (.ofKey .password " \"it's\" = # \\ " (by decide)) loose, .returnAndLineFeed)]
    let texts : Environment := [
      ("ORACLE_HOST", "db"), ("ORACLE_PORT", "2484"), ("ORACLE_SERVICE_NAME", "XE"), ("ORACLE_USERNAME", "scott"),
      ("ORACLE_PROTOCOL", "tcps"), ("ORACLE_SSL_SERVER_DN_MATCH", "on"), ("ORACLE_CONNECT_TIMEOUT", "30"),
      ("ORACLE_RETRY_COUNT", "4"), ("ORACLE_RETRY_DELAY", "0.01"), ("ORACLE_PASSWORD", " \"it's\" = # \\ ")]
    let env : Environment := ("PATH", "/bin") :: texts
    let s : Settings := {
      target := {
        host := "db", port := 2484, service := "XE", username := "scott", password := ⟨" \"it's\" = # \\ "⟩
        transport := .secure, verify := true, timeout := .ofSeconds 30 }
      retry := { retries := 4, delay := .ofMillis 10 }
      recorded := Settings.recordedTexts env }
    (∀ key : SettingsKey, env.text? key = (bound lines).value? key.name) ∧
      read (written lines) = .ok (("ORACLE_PASSWORD", "old") :: texts) ∧ Settings.read env = .ok s ∧
      CommandLine.loadSettings (some ".env") [] (.ok (written lines)) = .ok s := by
  intro bare wide terse loose lines texts env s
  have henv : ∀ key : SettingsKey, env.text? key = (bound lines).value? key.name := fun key => by
    cases key <;> decide
  have hs : Settings.read env = .ok s := by decide +kernel
  obtain ⟨hread, -, hload⟩ := read_written lines
  have hloaded := hload ".env" env [] henv
  rw [hs] at hloaded
  exact ⟨henv, hread, hs, hloaded⟩

end OracleIntake.SettingsFile

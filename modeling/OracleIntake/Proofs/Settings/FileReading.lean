import Mathlib.Data.List.Basic
import OracleIntake.Proofs.Settings.FileText

/-!
# Which settings files are refused

The lines of a text are what stands between its line feeds; blanks around a line do not count, and a carriage return is
one of them. A line says nothing, or it lacks its equals sign or its key, or it gives a key a value. The first line
that lacks something is told with its number, whatever stands behind it. Without such a line the text binds the keys
of all lines that give one, each to the value of the last.

* `read_eq_readLines`: the lines are told by the line feeds alone.
* `readLine_of_lacksPair`, `readLine_of_lacksKey`, `readLine_of_sound`: the answer to each line.
* `read_reading`: the answer to a text.
-/
namespace OracleIntake

namespace Text

theorem trim_dropReturn (line : List Char) :
    trim (match line with
      | '\r' :: l => l.reverse
      | l => l.reverse) = trim line.reverse := by
  split
  · next l => rw [List.reverse_cons, trim_append_right (by simp; decide)]
  · rfl

/-- But for an empty last one, the lines are the pieces between the line feeds. -/
theorem splitOnPPrepend_linesFrom (begun s : List Char) :
    ∃ tail, (s.splitOnPPrepend (· == '\n') begun).map trim = (linesFrom begun s).map trim ++ tail ∧
      (tail = [] ∨ tail = [[]]) := by
  induction s generalizing begun with
  | nil =>
    cases begun with
    | nil => exact ⟨[[]], rfl, .inr rfl⟩
    | cons c begun => exact ⟨[], by simp [linesFrom], .inl rfl⟩
  | cons c s ih =>
    by_cases hc : c = '\n'
    · obtain ⟨tail, htail, hshort⟩ := ih []
      have hends : (linesFrom begun (c :: s)).map trim = trim begun.reverse :: (linesFrom [] s).map trim := by
        rw [← trim_dropReturn begun, ← List.map_cons]
        exact congrArg (List.map trim) (if_pos hc)
      refine ⟨tail, ?_, hshort⟩
      rw [List.splitOnPPrepend_cons_pos (by simpa using hc), hends, List.map_cons, List.cons_append, ← htail]
      rfl
    · obtain ⟨tail, htail, hshort⟩ := ih (c :: begun)
      have hgoes : linesFrom begun (c :: s) = linesFrom (c :: begun) s := if_neg hc
      refine ⟨tail, ?_, hshort⟩
      rw [List.splitOnPPrepend_cons_neg (by simpa using hc), hgoes, htail]

end Text

namespace SettingsFile

/-! ## What a line says -/

/-- The lines of a text without the blanks around them. -/
def rows (s : String) : List (List Char) := (s.toList.splitOn '\n').map Text.trim

/-- Nothing, or a comment. -/
def Skipped (row : List Char) : Prop := row = [] ∨ ∃ text, row = '#' :: text

/-- The rest of a line behind one word `export`, or the line if it does not start with this word. -/
def Body (row body : List Char) : Prop :=
  row = "export ".toList ++ body ∨ (¬ "export ".toList <+: row ∧ body = row)

/-- The line is not skipped, and nothing in it separates a key from a value. -/
def LacksPair (row : List Char) : Prop := ¬ Skipped row ∧ ∃ body, Body row body ∧ '=' ∉ body

/-- The line is not skipped, and `left` and `right` are what stands on both sides of its first equals sign. -/
def Sides (row left right : List Char) : Prop := ¬ Skipped row ∧ Body row (left ++ '=' :: right) ∧ '=' ∉ left

/-- There are but blanks in front of the first equals sign. -/
def LacksKey (row : List Char) : Prop := ∃ left right, Sides row left right ∧ ∀ c ∈ left, Text.isBlank c = true

/-- The line can be read. -/
def Sound (row : List Char) : Prop := ¬ LacksPair row ∧ ¬ LacksKey row

/-- The text without the double quotes around it, or without the single ones, or as it is. -/
def Unquoted (text inner : List Char) : Prop :=
  text = '"' :: inner ++ ['"'] ∨ text = '\'' :: inner ++ ['\''] ∨
    (inner = text ∧ ∀ q ∈ ['"', '\''], ∀ t, text ≠ q :: t ++ [q])

/-- The line gives the key the value. -/
def Gives (row : List Char) (key value : String) : Prop :=
  ∃ left right, Sides row left right ∧ key.toList = Text.trim left ∧ Unquoted (Text.trim right) value.toList

theorem unquote_eq_iff {text inner : List Char} : unquote text = inner ↔ Unquoted text inner := by
  have hdouble : ∀ t, Text.between? '"' text = some t ↔ text = '"' :: t ++ ['"'] := fun t => Text.between?_eq_some_iff
  have hsingle : ∀ t, Text.between? '\'' text = some t ↔ text = '\'' :: t ++ ['\''] :=
    fun t => Text.between?_eq_some_iff
  have hexclusive : ∀ t t', text = '"' :: t ++ ['"'] → text ≠ '\'' :: t' ++ ['\''] := by
    rintro t t' rfl
    simp
  unfold unquote Unquoted
  cases hd : Text.between? '"' text with
  | some t =>
    have ht := (hdouble t).1 hd
    constructor
    · rintro rfl
      exact .inl ht
    · rintro (h | h | ⟨-, h⟩)
      · exact Option.some.inj (hd.symm.trans ((hdouble inner).2 h))
      · exact absurd h (hexclusive t inner ht)
      · exact absurd ht (h _ (by simp) t)
  | none =>
    have hnot : ∀ t, text ≠ '"' :: t ++ ['"'] := fun t ht => by simp [(hdouble t).2 ht] at hd
    cases hs : Text.between? '\'' text with
    | some t =>
      have ht := (hsingle t).1 hs
      constructor
      · rintro rfl
        exact .inr (.inl ht)
      · rintro (h | h | ⟨-, h⟩)
        · exact absurd h (hnot inner)
        · exact Option.some.inj (hs.symm.trans ((hsingle inner).2 h))
        · exact absurd ht (h _ (by simp) t)
    | none =>
      have hnot' : ∀ t, text ≠ '\'' :: t ++ ['\''] := fun t ht => by simp [(hsingle t).2 ht] at hs
      constructor
      · rintro rfl
        exact .inr (.inr ⟨rfl, by simpa using ⟨hnot, hnot'⟩⟩)
      · rintro (h | h | ⟨h, -⟩)
        · exact absurd h (hnot inner)
        · exact absurd h (hnot' inner)
        · exact h.symm

theorem withoutExport_eq_iff {row body : List Char} : withoutExport row = body ↔ Body row body := by
  unfold withoutExport Body
  by_cases hword : exportWord <+: row
  · rw [if_pos (List.isPrefixOf_iff_prefix.2 hword)]
    obtain ⟨rest, rfl⟩ := hword
    have hprefix : "export ".toList <+: exportWord ++ rest := List.prefix_append _ _
    rw [List.drop_left]
    constructor
    · rintro rfl
      exact .inl rfl
    · rintro (h | ⟨h, -⟩)
      · exact List.append_cancel_left h
      · exact absurd hprefix h
  · rw [if_neg (mt List.isPrefixOf_iff_prefix.1 hword)]
    constructor
    · rintro rfl
      exact .inr ⟨hword, rfl⟩
    · rintro (h | ⟨-, h⟩)
      · exact absurd ⟨body, h.symm⟩ hword
      · exact h.symm

theorem sides_iff {row left right : List Char} :
    Sides row left right ↔ ¬ Skipped row ∧ Text.cut? '=' (withoutExport row) = some (left, right) := by
  rw [Sides, ← withoutExport_eq_iff, Text.cut?_eq_some_iff]

theorem lacksPair_iff {row : List Char} :
    LacksPair row ↔ ¬ Skipped row ∧ Text.cut? '=' (withoutExport row) = none := by
  simp only [LacksPair, ← withoutExport_eq_iff, exists_eq_left', Text.cut?_eq_none_iff]

theorem skipped_iff {row : List Char} : Skipped row ↔ (row.isEmpty || row.head? == some '#') = true := by
  cases row with
  | nil => simp [Skipped]
  | cons c row => simp [Skipped]

/-! ## The answer to a line -/

/-- What a line binds that can be read. -/
def binding? (row : List Char) : Option (String × String) :=
  if row.isEmpty || row.head? == some '#' then none
  else (Text.cut? '=' (withoutExport row)).map fun (left, right) =>
    (String.ofList (Text.trim left), String.ofList (unquote (Text.trim right)))

theorem binding?_of_skipped {row : List Char} (h : Skipped row) : binding? row = none := by
  rw [binding?, if_pos (skipped_iff.1 h)]

theorem binding?_of_sides {row left right : List Char} (h : Sides row left right) :
    binding? row = some (String.ofList (Text.trim left), String.ofList (unquote (Text.trim right))) := by
  obtain ⟨hnot, hcut⟩ := sides_iff.1 h
  rw [binding?, if_neg (mt skipped_iff.2 hnot), hcut, Option.map_some]

theorem binding?_eq_some_iff {row : List Char} {key value : String} :
    binding? row = some (key, value) ↔ Gives row key value := by
  constructor
  · intro h
    have hnot : ¬ Skipped row := fun hskip => by rw [binding?_of_skipped hskip] at h; cases h
    cases hcut : Text.cut? '=' (withoutExport row) with
    | none => rw [binding?, if_neg (mt skipped_iff.2 hnot), hcut] at h; cases h
    | some sides =>
      have hsides : Sides row sides.1 sides.2 := sides_iff.2 ⟨hnot, hcut⟩
      rw [binding?_of_sides hsides] at h
      cases h
      exact ⟨sides.1, sides.2, hsides, String.toList_ofList, unquote_eq_iff.1 String.toList_ofList.symm⟩
  · rintro ⟨left, right, hsides, hkey, hvalue⟩
    rw [binding?_of_sides hsides, ← hkey, unquote_eq_iff.2 hvalue, String.ofList_toList, String.ofList_toList]

section
variable {row : List Char} (htrim : Text.trim row = row)
include htrim

theorem readLine_of_skipped (h : Skipped row) (number : Nat) : readLine number row = .ok none := by
  unfold readLine
  simp only [htrim, skipped_iff.1 h, if_true]

theorem readLine_of_lacksPair (h : LacksPair row) (number : Nat) :
    readLine number row = .error (.noPair number) := by
  obtain ⟨hnot, hcut⟩ := lacksPair_iff.1 h
  unfold readLine
  simp only [htrim, if_neg (mt skipped_iff.2 hnot), hcut]

theorem readLine_of_lacksKey (h : LacksKey row) (number : Nat) :
    readLine number row = .error (.noKey number) := by
  obtain ⟨left, right, hsides, hblank⟩ := h
  obtain ⟨hnot, hcut⟩ := sides_iff.1 hsides
  unfold readLine
  simp only [htrim, if_neg (mt skipped_iff.2 hnot), hcut, Text.trim_eq_nil hblank, List.isEmpty_nil, if_true]

theorem readLine_of_sound (h : Sound row) (number : Nat) : readLine number row = .ok (binding? row) := by
  by_cases hskip : Skipped row
  · rw [readLine_of_skipped htrim hskip, binding?_of_skipped hskip]
  cases hcut : Text.cut? '=' (withoutExport row) with
  | none => exact absurd (lacksPair_iff.2 ⟨hskip, hcut⟩) h.1
  | some sides =>
    obtain ⟨left, right⟩ := sides
    have hsides : Sides row left right := sides_iff.2 ⟨hskip, hcut⟩
    have hkey : ¬ (Text.trim left).isEmpty = true := fun hempty =>
      h.2 ⟨left, right, hsides, Text.trim_eq_nil_iff.1 (List.isEmpty_iff.1 hempty)⟩
    unfold readLine
    simp only [htrim, if_neg (mt skipped_iff.2 hskip), hcut, if_neg hkey, binding?_of_sides hsides]

end

/-! ## The answer to a text -/

theorem trim_of_mem_rows {s : String} {row : List Char} (h : row ∈ rows s) : Text.trim row = row := by
  obtain ⟨line, -, rfl⟩ := List.mem_map.1 h
  exact Text.trim_trim line

theorem readLines_trim (number : Nat) (lines : List (List Char)) :
    readLines number (lines.map Text.trim) = readLines number lines := by
  induction lines generalizing number with
  | nil => rfl
  | cons line lines ih => rw [List.map_cons, readLines, readLines, ih, readLine_congr (Text.trim_trim line)]

theorem readLines_snoc_nil (number : Nat) (lines : List (List Char)) :
    readLines number (lines ++ [[]]) = readLines number lines := by
  induction lines generalizing number with
  | nil => rfl
  | cons line lines ih => rw [List.cons_append, readLines, readLines, ih]

/-- The lines are what stands between the line feeds. -/
theorem read_eq_readLines (s : String) : read s = readLines 1 (rows s) := by
  obtain ⟨tail, hrows, htail⟩ := Text.splitOnPPrepend_linesFrom [] s.toList
  have hlines : rows s = (Text.lines s.toList).map Text.trim ++ tail := hrows
  rw [hlines, read]
  rcases htail with rfl | rfl
  · rw [List.append_nil, readLines_trim]
  · rw [readLines_snoc_nil, readLines_trim]

theorem readLines_of_sound {lines : List (List Char)} (htrim : ∀ row ∈ lines, Text.trim row = row)
    (h : ∀ row ∈ lines, Sound row) (number : Nat) : readLines number lines = .ok (lines.filterMap binding?) := by
  induction lines generalizing number with
  | nil => rfl
  | cons row lines ih =>
    obtain ⟨htrim, htrims⟩ := List.forall_mem_cons.1 htrim
    obtain ⟨hrow, hrows⟩ := List.forall_mem_cons.1 h
    rw [readLines, readLine_of_sound htrim hrow, ih htrims hrows, List.filterMap_cons]
    cases binding? row <;> rfl

/-- A line is only looked at when all lines before it can be read, and then it stops the reading if it cannot. -/
theorem readLines_of_fault {before : List (List Char)} {row : List Char} {number : Nat} {fault : SettingsFault}
    (htrim : ∀ r ∈ before, Text.trim r = r) (h : ∀ r ∈ before, Sound r)
    (hrow : readLine (number + before.length) row = .error fault) (after : List (List Char)) :
    readLines number (before ++ row :: after) = .error fault := by
  induction before generalizing number with
  | nil =>
    have hfirst : readLine number row = .error fault := hrow
    rw [List.nil_append, readLines, hfirst]
    rfl
  | cons r before ih =>
    obtain ⟨htrim, htrims⟩ := List.forall_mem_cons.1 htrim
    obtain ⟨hr, hrs⟩ := List.forall_mem_cons.1 h
    have hnext : readLine (number + 1 + before.length) row = .error fault := by
      rw [← hrow, List.length_cons, Nat.add_right_comm, Nat.add_assoc]
    rw [List.cons_append, readLines, readLine_of_sound htrim hr, ih htrims hrs hnext]
    rfl

/-- Of the lines that cannot be read one is the first. -/
theorem exists_first {lines : List (List Char)} (h : ∃ row ∈ lines, ¬ Sound row) :
    ∃ before row after, lines = before ++ row :: after ∧ (∀ r ∈ before, Sound r) ∧ ¬ Sound row := by
  induction lines with
  | nil => simp at h
  | cons row lines ih =>
    by_cases hrow : Sound row
    · have hlater : ∃ r ∈ lines, ¬ Sound r := by simpa [hrow] using h
      obtain ⟨before, r, after, rfl, hbefore, hr⟩ := ih hlater
      exact ⟨row :: before, r, after, rfl, List.forall_mem_cons.2 ⟨hrow, hbefore⟩, hr⟩
    · exact ⟨[], row, lines, rfl, by simp, hrow⟩

theorem not_sound_iff {row : List Char} : ¬ Sound row ↔ LacksPair row ∨ LacksKey row := by
  rw [Sound, not_and_or, not_not, not_not]

/-- The value of a key is what the last line gives that gives it any. -/
theorem value?_filterMap_binding? {lines : List (List Char)} {key value : String} :
    Bindings.value? key (lines.filterMap binding?) = some value ↔
      ∃ before row after, lines = before ++ row :: after ∧ Gives row key value ∧
        ∀ r ∈ after, ∀ other, ¬ Gives r key other := by
  rw [Bindings.value?_eq_some_iff]
  constructor
  · rintro ⟨before, after, hsplit, hafter⟩
    obtain ⟨front, back, rfl, -, hback⟩ := List.filterMap_eq_append_iff.1 hsplit
    obtain ⟨skipped, row, rest, rfl, -, hrow, hrest⟩ := List.filterMap_eq_cons_iff.1 hback
    refine ⟨front ++ skipped, row, rest, by simp, binding?_eq_some_iff.1 hrow, fun r hr other hgives => ?_⟩
    have hmem : (key, other) ∈ after := by
      rw [← hrest]
      exact List.mem_filterMap.2 ⟨r, hr, binding?_eq_some_iff.2 hgives⟩
    exact hafter _ hmem rfl
  · rintro ⟨before, row, after, rfl, hgives, hafter⟩
    refine ⟨before.filterMap binding?, after.filterMap binding?, ?_, ?_⟩
    · rw [List.filterMap_append, List.filterMap_cons, binding?_eq_some_iff.2 hgives]
    · rintro ⟨k, other⟩ hmem rfl
      obtain ⟨r, hr, hbinding⟩ := List.mem_filterMap.1 hmem
      exact hafter r hr other (binding?_eq_some_iff.1 hbinding)

/-- The keys are those that some line has on the left side. -/
theorem exists_value?_iff {lines : List (List Char)} {key : String} :
    (∃ value, Bindings.value? key (lines.filterMap binding?) = some value) ↔
      ∃ row ∈ lines, ∃ left right, Sides row left right ∧ key.toList = Text.trim left := by
  rw [← Option.isSome_iff_exists, ← Option.not_isNone, Bool.not_eq_true', ← Bool.not_eq_true, Option.isNone_iff_eq_none,
    Bindings.value?_eq_none_iff]
  simp only [List.mem_filterMap, not_forall, Classical.not_not]
  constructor
  · rintro ⟨⟨k, value⟩, ⟨row, hrow, hbinding⟩, rfl⟩
    obtain ⟨left, right, hsides, hkey, -⟩ := binding?_eq_some_iff.1 hbinding
    exact ⟨row, hrow, left, right, hsides, hkey⟩
  · rintro ⟨row, hrow, left, right, hsides, hkey⟩
    exact ⟨_, ⟨row, hrow, binding?_of_sides hsides⟩, by rw [← hkey, String.ofList_toList]⟩

/-- The answer to a text, line by line. -/
structure Reading (s : String) : Prop where
  /-- The text is refused if some line lacks its pair or its key, and only then. -/
  refused : (∃ fault, read s = .error fault) ↔ ∃ row ∈ rows s, LacksPair row ∨ LacksKey row
  /-- The first such line is told, by its number among all lines and by what it lacks. -/
  first : ∀ before row after, rows s = before ++ row :: after → (∀ r ∈ before, Sound r) →
    (LacksPair row → ∃ fault, read s = .error fault ∧ fault = .noPair (before.length + 1) ∧
      fault.text = "line " ++ toString (before.length + 1) ++ ": expected KEY=VALUE") ∧
    (LacksKey row → ∃ fault, read s = .error fault ∧ fault = .noKey (before.length + 1) ∧
      fault.text = "line " ++ toString (before.length + 1) ++ ": empty key")
  /-- Without such a line, the text binds the keys on the left sides, each to what its last line gives it. -/
  bound : (∀ row ∈ rows s, Sound row) → ∃ env, read s = .ok env ∧
    (∀ key, (∃ value, env.value? key = some value) ↔
      ∃ row ∈ rows s, ∃ left right, Sides row left right ∧ key.toList = Text.trim left) ∧
    ∀ key value, env.value? key = some value ↔
      ∃ before row after, rows s = before ++ row :: after ∧ Gives row key value ∧
        ∀ r ∈ after, ∀ other, ¬ Gives r key other

/-- **Reading a settings file.** -/
theorem read_reading (s : String) : Reading s := by
  have hbound : (∀ row ∈ rows s, Sound row) → read s = .ok ((rows s).filterMap binding?) := fun h => by
    rw [read_eq_readLines, readLines_of_sound (fun _ => trim_of_mem_rows) h]
  have hfirst : ∀ before row after, rows s = before ++ row :: after → (∀ r ∈ before, Sound r) →
      ∀ fault, readLine (1 + before.length) row = .error fault → read s = .error fault := by
    intro before row after hrows hbefore fault hrow
    have htrim : ∀ r ∈ before, Text.trim r = r := fun r hr => trim_of_mem_rows (by rw [hrows]; simp [hr])
    rw [read_eq_readLines, hrows, readLines_of_fault htrim hbefore hrow]
  have htrim : ∀ before row after, rows s = before ++ row :: after → Text.trim row = row :=
    fun before row after hrows => trim_of_mem_rows (by rw [hrows]; simp)
  refine ⟨⟨fun ⟨fault, hfault⟩ => ?_, fun h => ?_⟩, fun before row after hrows hbefore => ⟨fun h => ?_, fun h => ?_⟩,
    fun h => ⟨_, hbound h, fun key => exists_value?_iff, fun key value => value?_filterMap_binding?⟩⟩
  · by_contra hnone
    have hsound : ∀ row ∈ rows s, Sound row := fun row hrow =>
      not_not.1 fun hnot => hnone ⟨row, hrow, not_sound_iff.1 hnot⟩
    rw [hbound hsound] at hfault
    cases hfault
  · obtain ⟨row, hrow, hlacks⟩ := h
    obtain ⟨before, row, after, hrows, hbefore, hrow⟩ := exists_first ⟨row, hrow, not_sound_iff.2 hlacks⟩
    rcases not_sound_iff.1 hrow with hpair | hkey
    · exact ⟨_, hfirst _ _ _ hrows hbefore _ (readLine_of_lacksPair (htrim _ _ _ hrows) hpair _)⟩
    · exact ⟨_, hfirst _ _ _ hrows hbefore _ (readLine_of_lacksKey (htrim _ _ _ hrows) hkey _)⟩
  · have hline := readLine_of_lacksPair (htrim _ _ _ hrows) h (1 + before.length)
    rw [← Nat.add_comm 1]
    exact ⟨_, hfirst _ _ _ hrows hbefore _ hline, rfl, rfl⟩
  · have hline := readLine_of_lacksKey (htrim _ _ _ hrows) h (1 + before.length)
    rw [← Nat.add_comm 1]
    exact ⟨_, hfirst _ _ _ hrows hbefore _ hline, rfl, rfl⟩

/-- A return alone ends no line, and the first line at fault is told before the second. -/
example : read "a = \"1\"\r\n# x\n export b\r=2\r\n\nexport c\n=3" = .error (.noPair 5) := by decide +kernel

end SettingsFile
end OracleIntake

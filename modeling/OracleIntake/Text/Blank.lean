/-!
# Blank characters and trimming

`isBlank` is the Unicode property White_Space. Trimming removes the longest blank start and the longest
blank end of a text, and nothing between them.

* `trim_append_left`, `trim_append_right`: blanks around a text do not count.
* `trim_eq_self`, `isBlank_head_of_trim`: a text without blanks around it stays as it is.
* `trim_trim`, `trim_eq_nil_iff`: trimming again changes nothing, and of blanks alone nothing is left.
-/
namespace OracleIntake.Text

/-- The 25 characters with the property White_Space. -/
def isBlank (c : Char) : Bool :=
  let n := c.toNat
  (0x09 ≤ n && n ≤ 0x0D) || n == 0x20 || n == 0x85 || n == 0xA0 || n == 0x1680 ||
    (0x2000 ≤ n && n ≤ 0x200A) || n == 0x2028 || n == 0x2029 || n == 0x202F || n == 0x205F || n == 0x3000

def trimStart (s : List Char) : List Char := s.dropWhile isBlank

def trimEnd (s : List Char) : List Char := (s.reverse.dropWhile isBlank).reverse

def trim (s : List Char) : List Char := trimEnd (trimStart s)

/-- `trim` on strings. -/
def trimmed (s : String) : String := String.ofList (trim s.toList)

/-- Nothing but blanks, the empty text included. -/
def isBlankText (s : String) : Bool := s.toList.all isBlank

/-! ## Blanks around a text -/

section
variable {l r s : List Char} {c : Char}

theorem isBlank_of_isDigit (h : c.isDigit = true) : isBlank c = false := by
  have hrange : 48 ≤ c.toNat ∧ c.toNat ≤ 57 := by
    simp only [Char.isDigit, Bool.and_eq_true, decide_eq_true_eq, ge_iff_le, UInt32.le_iff_toNat_le] at h
    exact h
  simp only [isBlank, Bool.or_eq_false_iff, Bool.and_eq_false_iff, beq_eq_false_iff_ne, decide_eq_false_iff_not]
  omega

theorem trimStart_append (hl : ∀ c ∈ l, isBlank c = true) (s : List Char) : trimStart (l ++ s) = trimStart s :=
  List.dropWhile_append_of_pos hl

theorem trimEnd_append (hr : ∀ c ∈ r, isBlank c = true) (s : List Char) : trimEnd (s ++ r) = trimEnd s := by
  rw [trimEnd, List.reverse_append, List.dropWhile_append_of_pos (by simpa using hr), trimEnd]

theorem trim_append_left (hl : ∀ c ∈ l, isBlank c = true) (s : List Char) : trim (l ++ s) = trim s := by
  rw [trim, trimStart_append hl, trim]

theorem trim_append_right (hr : ∀ c ∈ r, isBlank c = true) (s : List Char) : trim (s ++ r) = trim s := by
  rw [trim, trimStart, List.dropWhile_append]
  split
  · next hblank =>
    have hs : s.dropWhile isBlank = [] := List.isEmpty_iff.1 hblank
    have hr' : (r ++ []).dropWhile isBlank = [] := List.dropWhile_append_of_pos hr
    rw [List.append_nil] at hr'
    rw [hr', trim, trimStart, hs]
  · rw [trimEnd_append hr, trim, trimStart]

theorem trim_eq_nil (h : ∀ c ∈ s, isBlank c = true) : trim s = [] := by
  have htrim := trim_append_left h []
  rwa [List.append_nil] at htrim

theorem head?_trim (h : isBlank c = false) (s : List Char) : (trim (c :: s)).head? = some c := by
  have hc : ¬ isBlank c = true := by simp [h]
  rw [trim, trimStart, List.dropWhile_cons_of_neg hc, trimEnd, List.reverse_cons, List.dropWhile_append]
  split
  · rw [List.dropWhile_cons_of_neg hc]
    rfl
  · rw [List.reverse_append]
    rfl

theorem trim_eq_self (hhead : ∀ c, s.head? = some c → isBlank c = false)
    (hlast : ∀ c, s.getLast? = some c → isBlank c = false) : trim s = s := by
  have hstart : trimStart s = s := by
    cases s with
    | nil => rfl
    | cons c s => exact List.dropWhile_cons_of_neg (by simp [hhead c rfl])
  rw [trim, hstart, trimEnd]
  cases hrev : s.reverse with
  | nil => simpa using hrev
  | cons c t =>
    have hc : isBlank c = false := hlast c (by rw [List.getLast?_eq_head?_reverse, hrev, List.head?_cons])
    rw [List.dropWhile_cons_of_neg (by simp [hc]), ← hrev, List.reverse_reverse]

theorem trim_eq_self_of_forall (h : ∀ c ∈ s, isBlank c = false) : trim s = s :=
  trim_eq_self (fun c hc => h c (List.mem_of_mem_head? hc)) fun c hc => h c (List.mem_of_getLast? hc)

theorem length_trim_le (s : List Char) : (trim s).length ≤ s.length := by
  have hend : ∀ s, (trimEnd s).length ≤ s.length := fun s => by
    have hle := (List.dropWhile_sublist isBlank : (s.reverse.dropWhile isBlank).Sublist s.reverse).length_le
    rwa [List.length_reverse, ← List.length_reverse] at hle
  exact Nat.le_trans (hend _) (List.dropWhile_sublist _).length_le

theorem isBlank_head_of_trim (h : trim (c :: s) = c :: s) : isBlank c = false := by
  cases hc : isBlank c with
  | false => rfl
  | true =>
    have hskip : trim (c :: s) = trim s := by
      rw [trim, trimStart, List.dropWhile_cons_of_pos hc]
      rfl
    have hlength := length_trim_le s
    rw [← hskip, h, List.length_cons] at hlength
    omega

theorem isBlank_getLast_trim (h : (trim s).getLast? = some c) : isBlank c = false := by
  have hnot := List.head?_dropWhile_not isBlank (trimStart s).reverse
  rw [trim, trimEnd, List.getLast?_reverse] at h
  rw [h] at hnot
  simpa using hnot

theorem isBlank_head_trimStart (h : (trimStart s).head? = some c) : isBlank c = false := by
  have hnot := List.head?_dropWhile_not isBlank s
  rw [trimStart] at h
  rw [h] at hnot
  simpa using hnot

theorem trimEnd_prefix (s : List Char) : trimEnd s <+: s := by
  have hsuffix := List.dropWhile_suffix isBlank (l := s.reverse)
  rwa [← List.reverse_prefix, List.reverse_reverse] at hsuffix

theorem trim_trim (s : List Char) : trim (trim s) = trim s := by
  refine trim_eq_self (fun c hc => ?_) fun c hc => isBlank_getLast_trim hc
  obtain ⟨rest, hrest⟩ := trimEnd_prefix (trimStart s)
  apply isBlank_head_trimStart (s := s)
  rw [← hrest, List.head?_append, show (trimEnd (trimStart s)).head? = some c from hc]
  rfl

theorem trim_eq_nil_iff : trim s = [] ↔ ∀ c ∈ s, isBlank c = true := by
  refine ⟨fun h => ?_, trim_eq_nil⟩
  have hall : ∀ l : List Char, l.dropWhile isBlank = [] → ∀ c ∈ l, isBlank c = true := fun l hl => by
    have hany := List.any_dropWhile (l := l) (p := isBlank)
    rw [hl] at hany
    simpa using hany
  rw [trim, trimEnd, List.reverse_eq_nil_iff] at h
  have hstart : trimStart s = [] := by
    cases hs : trimStart s with
    | nil => rfl
    | cons c t =>
      have hblank := hall _ h c (by simp [hs])
      rw [isBlank_head_trimStart (s := s) (by rw [hs]; rfl)] at hblank
      cases hblank
  exact hall s hstart

end

theorem trimmed_trimmed (s : String) : trimmed (trimmed s) = trimmed s := by
  rw [trimmed, trimmed, String.toList_ofList, trim_trim]

theorem isBlankText_trimmed (s : String) : isBlankText (trimmed s) = true ↔ trimmed s = "" := by
  rw [isBlankText, trimmed, String.toList_ofList, List.all_eq_true, ← trim_eq_nil_iff, trim_trim,
    ← String.toList_eq_nil_iff, String.toList_ofList]

end OracleIntake.Text

import Mathlib.Data.List.Basic
import OracleIntake.Text.Blank
import OracleIntake.Text.Case

/-!
# Spellings of a word

The lower-case form of a text depends on what stands around a letter, but not on the case of ASCII letters: a
letter in either case is cased, ends no word and has one lower-case form. So texts that differ in the case of
ASCII letters and in the blanks around them have the same lower-case form without blanks around it.

* `lower_map_toLower`, `upper_map_toLower`, `trim_map_toLower`: the case of ASCII letters plays no part.
* `uppered_eq_iff_recased`: ASCII texts in upper case.
* `Respelled.normalized_eq`: spellings of one word have one normal form.
* `lower_eq_word_iff`: only ASCII letters become a word of plain letters.
-/
namespace OracleIntake.Text
variable {s t : List Char} {c : Char}

/-! ## The case of ASCII letters -/

theorem toLower_eq_self (h : 0x80 ≤ c.toNat) : c.toLower = c := by
  have hlarge : ¬ (c.val ≥ 'A'.val ∧ c.val ≤ 'Z'.val) := by
    rintro ⟨-, hle⟩
    have hz : c.toNat ≤ 'Z'.toNat := UInt32.le_iff_toNat_le.1 hle
    exact absurd (Nat.le_trans h hz) (by decide)
  exact dif_neg hlarge

/-- What ASCII letters have in common with their lower-case forms, all characters do. -/
theorem toLower_invariant {α : Type} (f : Char → α)
    (hascii : ∀ n < 0x80, f (Char.ofNat n).toLower = f (Char.ofNat n)) (c : Char) : f c.toLower = f c := by
  by_cases h : c.toNat < 0x80
  · have hc := hascii c.toNat h
    rwa [Char.ofNat_toNat] at hc
  · rw [toLower_eq_self (Nat.le_of_not_lt h)]

/-- Ranges that begin beyond ASCII play no part for ASCII characters. -/
theorem inRanges_ascii {n : Nat} (h : n < 0x80) (ranges : List (Nat × Nat)) :
    inRanges ranges n = inRanges (ranges.filter fun r => r.1 < 0x80) n := by
  rw [inRanges, inRanges, List.any_filter]
  congr 1
  funext r
  by_cases hr : r.1 < 0x80
  · simp [hr]
  · have hn : ¬ r.1 ≤ n := by omega
    simp [hr, hn]

theorem inRanges_toLower {ranges : List (Nat × Nat)} (ascii : List (Nat × Nat))
    (hranges : (ranges.filter fun r => r.1 < 0x80) = ascii)
    (hascii : ∀ n < 0x80, inRanges ascii (Char.ofNat n).toLower.toNat = inRanges ascii (Char.ofNat n).toNat)
    (c : Char) : inRanges ranges c.toLower.toNat = inRanges ranges c.toNat := by
  have hsmall : ∀ n < 0x80, (Char.ofNat n).toNat < 0x80 ∧ (Char.ofNat n).toLower.toNat < 0x80 := by decide +kernel
  refine toLower_invariant (fun c => inRanges ranges c.toNat) (fun n hn => ?_) c
  rw [inRanges_ascii (hsmall n hn).1, inRanges_ascii (hsmall n hn).2, hranges, hascii n hn]

theorem isCased_toLower (c : Char) : isCased c.toLower = isCased c :=
  inRanges_toLower [(0x41, 0x5A), (0x61, 0x7A)] (by decide +kernel) (by decide +kernel) c

theorem isCaseIgnorable_toLower (c : Char) : isCaseIgnorable c.toLower = isCaseIgnorable c :=
  inRanges_toLower [(0x27, 0x27), (0x2E, 0x2E), (0x3A, 0x3A), (0x5E, 0x5E), (0x60, 0x60)] (by decide +kernel)
    (by decide +kernel) c

theorem isBlank_toLower (c : Char) : isBlank c.toLower = isBlank c :=
  toLower_invariant isBlank (by decide +kernel) c

theorem lowerChar_toLower (c : Char) : lowerChar c.toLower = lowerChar c :=
  toLower_invariant lowerChar (by decide +kernel) c

theorem upperChar_toLower (c : Char) : upperChar c.toLower = upperChar c :=
  toLower_invariant upperChar (by decide +kernel) c

theorem toLower_eq_sigma_iff : c.toLower = 'Σ' ↔ c = 'Σ' := by
  have hsigma := toLower_invariant (fun c => decide (c = 'Σ')) (by decide +kernel) c
  simpa using hsigma

theorem dropWhile_map_toLower {p : Char → Bool} (hp : ∀ c, p c.toLower = p c) (s : List Char) :
    (s.map Char.toLower).dropWhile p = (s.dropWhile p).map Char.toLower := by
  have hcomp : p ∘ Char.toLower = p := funext hp
  rw [List.dropWhile_map, hcomp]

theorem meetsCased_map_toLower (s : List Char) : meetsCased (s.map Char.toLower) = meetsCased s := by
  rw [meetsCased, dropWhile_map_toLower isCaseIgnorable_toLower, meetsCased]
  cases s.dropWhile isCaseIgnorable with
  | nil => rfl
  | cons c s => exact isCased_toLower c

theorem lowerAfter_map_toLower (before s : List Char) :
    lowerAfter (before.map Char.toLower) (s.map Char.toLower) = lowerAfter before s := by
  induction s generalizing before with
  | nil => rfl
  | cons c s ih =>
    have hrest := ih (c :: before)
    rw [List.map_cons] at hrest
    simp only [List.map_cons, lowerAfter, hrest, toLower_eq_sigma_iff, lowerChar_toLower, lowerSigma,
      meetsCased_map_toLower]

/-- The lower-case form does not depend on the case of ASCII letters. -/
theorem lower_map_toLower (s : List Char) : lower (s.map Char.toLower) = lower s := lowerAfter_map_toLower [] s

/-- Nor does the upper-case form. -/
theorem upper_map_toLower (s : List Char) : upper (s.map Char.toLower) = upper s := by
  rw [upper, List.flatMap_map, upper]
  exact List.flatMap_congr fun c _ => upperChar_toLower c

theorem trimEnd_map_toLower (s : List Char) : trimEnd (s.map Char.toLower) = (trimEnd s).map Char.toLower := by
  rw [trimEnd, ← List.map_reverse, dropWhile_map_toLower isBlank_toLower, ← List.map_reverse, trimEnd]

theorem trim_map_toLower (s : List Char) : trim (s.map Char.toLower) = (trim s).map Char.toLower := by
  rw [trim, trimStart, dropWhile_map_toLower isBlank_toLower, trimEnd_map_toLower, trim, trimStart]

theorem sameLetters_iff : sameLetters s t = true ↔ s.map Char.toLower = t.map Char.toLower := beq_iff_eq

theorem lower_eq_of_sameLetters (h : sameLetters s t = true) : lower s = lower t := by
  rw [← lower_map_toLower s, sameLetters_iff.1 h, lower_map_toLower]

/-! ## Spellings of one word -/

/-- The texts differ at most in the case of ASCII letters. -/
def Recased (s t : String) : Prop := sameLetters s.toList t.toList = true

instance : DecidableRel Recased := fun _ _ => inferInstanceAs (Decidable (_ = true))

/-- The texts differ at most in the case of ASCII letters and in the blanks around them. -/
def Respelled (s t : String) : Prop :=
  ∃ l r l' r' core core' : List Char, (∀ c ∈ l ++ r ++ l' ++ r', isBlank c = true) ∧
    s.toList = l ++ core ++ r ∧ t.toList = l' ++ core' ++ r' ∧ sameLetters core core' = true

theorem Recased.lowered_eq {s t : String} (h : Recased s t) : lowered s = lowered t := by
  rw [lowered, lower_eq_of_sameLetters h, lowered]

theorem Recased.uppered_eq {s t : String} (h : Recased s t) : uppered s = uppered t := by
  rw [uppered, ← upper_map_toLower, sameLetters_iff.1 h, upper_map_toLower, uppered]

theorem upper_of_ascii (h : ∀ c ∈ s, c.toNat < 0x80) : upper s = s.map Char.toUpper := by
  rw [List.map_eq_flatMap, upper]
  exact List.flatMap_congr fun c hc => if_pos (h c hc)

theorem map_toLower_upper (h : ∀ c ∈ s, c.toNat < 0x80) : (upper s).map Char.toLower = s.map Char.toLower := by
  have hascii : ∀ n < 0x80, (Char.ofNat n).toUpper.toLower = (Char.ofNat n).toLower := by decide +kernel
  rw [upper_of_ascii h, List.map_map]
  refine List.map_congr_left fun c hc => ?_
  have hc := hascii c.toNat (h c hc)
  rwa [Char.ofNat_toNat] at hc

/-- ASCII texts have one upper-case form exactly if they differ in the case of letters only. -/
theorem uppered_eq_iff_recased {s t : String} (hs : ∀ c ∈ s.toList, c.toNat < 0x80)
    (ht : ∀ c ∈ t.toList, c.toNat < 0x80) : uppered s = uppered t ↔ Recased s t := by
  refine ⟨fun h => ?_, Recased.uppered_eq⟩
  have hupper : upper s.toList = upper t.toList := String.ofList_inj.1 h
  rw [Recased, sameLetters_iff, ← map_toLower_upper hs, hupper, map_toLower_upper ht]

theorem trim_around {l r : List Char} (hl : ∀ c ∈ l, isBlank c = true) (hr : ∀ c ∈ r, isBlank c = true)
    (s : List Char) : trim (l ++ s ++ r) = trim s := by
  rw [trim_append_right hr, trim_append_left hl]

theorem exists_around (s : List Char) :
    ∃ l r, (∀ c ∈ l, isBlank c = true) ∧ (∀ c ∈ r, isBlank c = true) ∧ s = l ++ trim s ++ r := by
  refine ⟨s.takeWhile isBlank, ((trimStart s).reverse.takeWhile isBlank).reverse, fun c hc => ?_, fun c hc => ?_, ?_⟩
  · exact List.all_eq_true.1 List.all_takeWhile c hc
  · exact List.all_eq_true.1 List.all_takeWhile c (List.mem_reverse.1 hc)
  · have hend : trimStart s = trim s ++ ((trimStart s).reverse.takeWhile isBlank).reverse := by
      rw [trim, trimEnd, ← List.reverse_append, List.takeWhile_append_dropWhile, List.reverse_reverse]
    rw [List.append_assoc, ← hend, trimStart, List.takeWhile_append_dropWhile]

/-- Without the blanks around them, spellings of one word differ in the case of ASCII letters only. -/
theorem respelled_iff {s t : String} :
    Respelled s t ↔ sameLetters (trim s.toList) (trim t.toList) = true := by
  constructor
  · rintro ⟨l, r, l', r', core, core', hblank, hs, ht, hcore⟩
    simp only [List.forall_mem_append] at hblank
    obtain ⟨⟨⟨hl, hr⟩, hl'⟩, hr'⟩ := hblank
    rw [sameLetters_iff] at hcore ⊢
    rw [hs, ht, trim_around hl hr, trim_around hl' hr', ← trim_map_toLower, hcore, trim_map_toLower]
  · intro h
    obtain ⟨l, r, hl, hr, hs⟩ := exists_around s.toList
    obtain ⟨l', r', hl', hr', ht⟩ := exists_around t.toList
    refine ⟨l, r, l', r', _, _, ?_, hs, ht, h⟩
    simp only [List.forall_mem_append]
    exact ⟨⟨⟨hl, hr⟩, hl'⟩, hr'⟩

instance : DecidableRel Respelled := fun _ _ => decidable_of_iff _ respelled_iff.symm

/-- **One normal form.** Spellings of one word agree without the blanks around them and in lower case. -/
theorem Respelled.normalized_eq {s t : String} (h : Respelled s t) : lowered (trimmed s) = lowered (trimmed t) := by
  simp only [lowered, trimmed, String.toList_ofList, lower_eq_of_sameLetters (respelled_iff.1 h)]

/-! ## Words of plain letters -/

/-- The small letters of ASCII but for `i` and `k`, which the dotted capital `İ` and the Kelvin sign have as
lower-case forms. -/
def plainLetters : List Char := "abcdefghjlmnopqrstuvwxyz".toList

/-- Beyond ASCII, a run leads to ASCII from one character at most, and to the letter `k` from that. -/
theorem lowerRuns_leave :
    ∀ r ∈ lowerRuns, 0x80 ≤ r.first + r.shift ∨ r.first = r.last ∧ r.first + r.shift = 107 := by
  decide +kernel

theorem toNat_of_mem_plainLetters (h : c ∈ plainLetters) :
    97 ≤ c.toNat ∧ c.toNat ≤ 122 ∧ c.toNat ≠ 107 := by
  have hall : (plainLetters.all fun c => 97 ≤ c.toNat && c.toNat ≤ 122 && c.toNat != 107) = true := by decide +kernel
  have hc := List.all_eq_true.1 hall c h
  simp only [Bool.and_eq_true, decide_eq_true_eq, bne_iff_ne] at hc
  exact ⟨hc.1.1, hc.1.2, hc.2⟩

theorem toNat_ofNat (n : Nat) : (Char.ofNat n).toNat = n ∨ (Char.ofNat n).toNat = 0 := by
  by_cases h : n.isValidChar
  · have hvalid : Char.ofNat n = Char.ofNatAux n h := dif_pos h
    exact .inl (congrArg Char.toNat hvalid)
  · exact .inr (congrArg Char.toNat (dif_neg h))

theorem not_mem_plainLetters_of_map? {r : CaseRun} (hr : r ∈ lowerRuns) {n m : Nat} (h : r.map? n = some m) :
    Char.ofNat m ∉ plainLetters := by
  intro hmem
  have hletter := toNat_of_mem_plainLetters hmem
  have hleave := lowerRuns_leave r hr
  have hm := toNat_ofNat m
  rw [CaseRun.map?] at h
  split at h
  · next hrange =>
    simp only [Bool.and_eq_true, decide_eq_true_eq] at hrange
    cases h
    omega
  · cases h

theorem not_mem_plainLetters_of_le (h : 0x80 ≤ c.toNat) : c ∉ plainLetters := by
  intro hmem
  have hletter := toNat_of_mem_plainLetters hmem
  omega

/-- The lower-case form of a character beyond ASCII does not begin with a plain letter. -/
theorem lowerChar_beyond (h : 0x80 ≤ c.toNat) : ∃ d rest, lowerChar c = d :: rest ∧ d ∉ plainLetters := by
  unfold lowerChar
  rw [if_neg (Nat.not_lt.2 h)]
  split
  · exact ⟨_, _, rfl, by decide +kernel⟩
  · split
    · next m hm =>
      obtain ⟨r, hr, hmap⟩ := List.exists_of_findSome?_eq_some hm
      exact ⟨_, _, rfl, not_mem_plainLetters_of_map? hr hmap⟩
    · exact ⟨_, _, rfl, not_mem_plainLetters_of_le h⟩

theorem lowerAfter_ascii (h : c.toNat < 0x80) (before s : List Char) :
    lowerAfter before (c :: s) = c.toLower :: lowerAfter (c :: before) s := by
  have hsigma : c ≠ 'Σ' := fun hc => absurd h (by rw [hc]; decide)
  rw [lowerAfter, if_neg hsigma, lowerChar, if_pos h, List.singleton_append]

theorem lowerAfter_beyond (h : 0x80 ≤ c.toNat) (before s : List Char) :
    ∃ d rest, lowerAfter before (c :: s) = d :: rest ∧ d ∉ plainLetters := by
  have hforms : 'ς' ∉ plainLetters ∧ 'σ' ∉ plainLetters := by decide +kernel
  rw [lowerAfter]
  split
  · refine ⟨_, _, rfl, ?_⟩
    rw [lowerSigma]
    split
    · exact hforms.1
    · exact hforms.2
  · obtain ⟨d, rest, hd, hplain⟩ := lowerChar_beyond h
    exact ⟨d, _, by rw [hd, List.cons_append], hplain⟩

theorem lowerAfter_eq_word_iff {w : List Char} (hw : w ⊆ plainLetters) (before : List Char) :
    lowerAfter before s = w ↔ s.map Char.toLower = w := by
  induction s generalizing before w with
  | nil => rfl
  | cons c s ih =>
    rcases Nat.lt_or_ge c.toNat 0x80 with h | h
    · rw [lowerAfter_ascii h, List.map_cons]
      cases w with
      | nil => simp
      | cons d w => rw [List.cons_eq_cons, List.cons_eq_cons, ih (List.subset_of_cons_subset hw)]
    · -- the word would begin with no plain letter on either side
      obtain ⟨d, rest, hlower, hd⟩ := lowerAfter_beyond h before s
      have hc : c.toLower ∉ plainLetters := by
        rw [toLower_eq_self h]
        exact not_mem_plainLetters_of_le h
      rw [hlower, List.map_cons]
      constructor
      · rintro rfl
        exact absurd (hw List.mem_cons_self) hd
      · rintro rfl
        exact absurd (hw List.mem_cons_self) hc

/-- **Plain words.** Only ASCII letters become a word of plain letters in lower case. -/
theorem lower_eq_word_iff {w : List Char} (hw : w ⊆ plainLetters) :
    lower s = w ↔ s.map Char.toLower = w := lowerAfter_eq_word_iff hw []

end OracleIntake.Text

import Mathlib.Data.List.Basic
import OracleIntake.Failure.VendorCode
import OracleIntake.Number.Numeral

/-!
# The first code of a message

A code is a number right behind a mark such as `ORA-`. The search stops at the first mark, also if no digit follows it:
a code that it finds is the first one of the message, but a message that begins with a bare mark has its first code
behind another one, and that is overlooked.

* `Text.after?_eq_some_iff`: what stands behind the first occurrence of a text.
* `after?_eq_some_iff`: the number behind the first mark.
* `after?_firstCode`: when that is the first code.
-/
namespace OracleIntake

namespace Text
variable {follows : List Char → Prop} {mark s rest rest' : List Char}

/-- What stands behind the first occurrence of `mark` that is followed so. Occurrences may overlap. -/
def FirstBehind (follows : List Char → Prop) (mark s rest : List Char) : Prop :=
  ∃ before, s = before ++ mark ++ rest ∧ follows rest ∧
    ∀ before' rest', s = before' ++ mark ++ rest' → follows rest' → before.length ≤ before'.length

theorem FirstBehind.unique (h : FirstBehind follows mark s rest) (h' : FirstBehind follows mark s rest') :
    rest = rest' := by
  obtain ⟨before, hs, hfollows, hfirst⟩ := h
  obtain ⟨before', hs', hfollows', hfirst'⟩ := h'
  have hlength : before.length = before'.length :=
    Nat.le_antisymm (hfirst before' rest' hs' hfollows') (hfirst' before rest hs hfollows)
  rw [hs, List.append_assoc, List.append_assoc] at hs'
  exact List.append_cancel_left (List.append_inj hs' hlength).2

/-- The first of all occurrences is the first of some kind, if it is of that kind. -/
theorem FirstBehind.of_first (h : FirstBehind (fun _ => True) mark s rest) (hfollows : follows rest) :
    FirstBehind follows mark s rest := by
  obtain ⟨before, hs, -, hfirst⟩ := h
  exact ⟨before, hs, hfollows, fun before' rest' hs' _ => hfirst before' rest' hs' trivial⟩

theorem firstBehind_of_after? (h : after? mark s = some rest) : FirstBehind (fun _ => True) mark s rest := by
  induction s with
  | nil =>
    rw [after?] at h
    split at h
    · next hmark =>
      cases h
      exact ⟨[], by rw [List.isEmpty_iff.1 hmark]; rfl, trivial, fun _ _ _ _ => Nat.zero_le _⟩
    · cases h
  | cons c s ih =>
    rw [after?] at h
    split at h
    · next hmark =>
      cases h
      have hs := List.prefix_iff_eq_append.1 (List.isPrefixOf_iff_prefix.1 hmark)
      exact ⟨[], hs.symm, trivial, fun _ _ _ _ => Nat.zero_le _⟩
    · next hmark =>
      obtain ⟨before, rfl, -, hfirst⟩ := ih h
      refine ⟨c :: before, rfl, trivial, fun before' rest' hs' _ => ?_⟩
      cases before' with
      | nil =>
        rw [List.nil_append] at hs'
        exact absurd (List.isPrefixOf_iff_prefix.2 ⟨rest', hs'.symm⟩) hmark
      | cons d before' => exact Nat.succ_le_succ (hfirst before' rest' (List.cons.inj hs').2 trivial)

theorem isSome_after? (h : mark <:+: s) : (after? mark s).isSome = true := by
  induction s with
  | nil =>
    rw [List.infix_nil.1 h]
    rfl
  | cons c s ih =>
    rw [after?]
    split
    · rfl
    · next hmark =>
      rcases List.infix_cons_iff.1 h with hprefix | hinfix
      · exact absurd (List.isPrefixOf_iff_prefix.2 hprefix) hmark
      · exact ih hinfix

/-- A text is looked up behind its first occurrence. -/
theorem after?_eq_some_iff : after? mark s = some rest ↔ FirstBehind (fun _ => True) mark s rest := by
  refine ⟨firstBehind_of_after?, fun h => ?_⟩
  have hoccurs : mark <:+: s := by
    obtain ⟨before, hs, -⟩ := h
    exact ⟨before, rest, hs.symm⟩
  obtain ⟨rest', hrest'⟩ := Option.isSome_iff_exists.1 (isSome_after? hoccurs)
  rw [hrest', h.unique (firstBehind_of_after? hrest')]

/-- No earlier place has an occurrence that is followed so. -/
theorem firstBehind_of_forall_lt {before : List Char} (hs : s = before ++ mark ++ rest) (hfollows : follows rest)
    (hfirst : ∀ k < before.length, mark <+: s.drop k → ¬ follows (s.drop (k + mark.length))) :
    FirstBehind follows mark s rest := by
  refine ⟨before, hs, hfollows, fun before' rest' hs' hfollows' => Nat.le_of_not_lt fun hlt => ?_⟩
  have hdrop : s.drop before'.length = mark ++ rest' := by rw [hs', List.append_assoc, List.drop_left]
  refine hfirst before'.length hlt (by rw [hdrop]; exact List.prefix_append _ _) ?_
  rwa [← List.drop_drop, hdrop, List.drop_left]

end Text

namespace VendorCode
variable {mark message : String} {code : Nat}

/-- A digit comes first. -/
def Numbered (rest : List Char) : Prop := rest.head?.any Char.isDigit = true

instance : DecidablePred Numbered := fun _ => inferInstanceAs (Decidable (_ = true))

/-- The first code: the number that all the digits write behind the first mark that a digit follows. -/
def FirstCode (mark message : String) (code : Nat) : Prop :=
  ∃ rest, Text.FirstBehind Numbered mark.toList message.toList rest ∧
    Numeral.Writes (rest.takeWhile Char.isDigit) code

/-- A digit follows the very first mark. -/
def NumberedAtOnce (mark message : String) : Prop :=
  ∃ rest, Text.FirstBehind (fun _ => True) mark.toList message.toList rest ∧ Numbered rest

theorem numbered_iff {rest : List Char} : Numbered rest ↔ rest.takeWhile Char.isDigit ≠ [] := by
  cases rest with
  | nil => simp [Numbered]
  | cons c rest =>
    cases hc : c.isDigit <;> simp [Numbered, hc]

/-- All digits at the beginning of a text write a number as soon as there is one. -/
theorem writes_takeWhile_iff {rest : List Char} : Numeral.Writes (rest.takeWhile Char.isDigit) code ↔
    Numbered rest ∧ Nat.ofDigitChars 10 (rest.takeWhile Char.isDigit) 0 = code := by
  have hdigits : ∀ c ∈ rest.takeWhile Char.isDigit, c.isDigit = true := List.all_eq_true.1 List.all_takeWhile
  rw [Numeral.Writes, numbered_iff, and_iff_right hdigits]

theorem Numbered.of_writes {rest : List Char} (h : Numeral.Writes (rest.takeWhile Char.isDigit) code) :
    Numbered rest := (writes_takeWhile_iff.1 h).1

/-- The number behind the first mark, if it has at most 31 bits. -/
theorem after?_eq_some_iff : after? mark message = some code ↔
    ∃ rest, Text.FirstBehind (fun _ => True) mark.toList message.toList rest ∧
      Numeral.Writes (rest.takeWhile Char.isDigit) code ∧ code ≤ 2147483647 := by
  rw [after?, Option.bind_eq_bind, Option.bind_eq_some_iff]
  refine exists_congr fun rest => and_congr Text.after?_eq_some_iff ?_
  rw [writes_takeWhile_iff, numbered_iff]
  cases hdigits : rest.takeWhile Char.isDigit with
  | nil => simp
  | cons c digits =>
    simp only [List.isEmpty_cons, Bool.false_eq_true, if_false, Option.filter_eq_some_iff, Option.some.injEq,
      decide_eq_true_eq, Nat.lt_succ_iff, ne_eq, List.cons_ne_nil, not_false_eq_true, true_and]

/-- **The first code.** A number of at most 31 bits is found exactly if it is the first code and a digit follows the
very first mark. Without a mark that a digit follows, nothing is found. -/
theorem after?_firstCode (mark message : String) :
    (∀ code, after? mark message = some code ↔
      FirstCode mark message code ∧ code ≤ 2147483647 ∧ NumberedAtOnce mark message) ∧
    ((∀ before rest, message.toList = before ++ mark.toList ++ rest → ¬ Numbered rest) →
      after? mark message = none) := by
  constructor
  · intro code
    rw [after?_eq_some_iff]
    constructor
    · rintro ⟨rest, hfirst, hwrites, hbound⟩
      have hnumbered := Numbered.of_writes hwrites
      exact ⟨⟨rest, hfirst.of_first hnumbered, hwrites⟩, hbound, rest, hfirst, hnumbered⟩
    · -- the rest behind the very first mark is the one that the first code stands in
      rintro ⟨⟨rest, hfirst, hwrites⟩, hbound, rest', hfirst', hnumbered⟩
      rw [hfirst.unique (hfirst'.of_first hnumbered)] at hwrites
      exact ⟨rest', hfirst', hwrites, hbound⟩
  · intro hbare
    rw [Option.eq_none_iff_forall_ne_some]
    intro code hcode
    obtain ⟨rest, ⟨before, hmessage, -⟩, hwrites, -⟩ := after?_eq_some_iff.1 hcode
    exact hbare before rest hmessage (Numbered.of_writes hwrites)

/-- A bare mark hides the code behind the next one. -/
theorem after?_overlooked :
    FirstCode "ORA-" "ORA-: ORA-12541: TNS:no listener" 12541 ∧
      after? "ORA-" "ORA-: ORA-12541: TNS:no listener" = none := by
  have hmessage : "ORA-: ORA-12541: TNS:no listener".toList =
      "ORA-: ".toList ++ "ORA-".toList ++ "12541: TNS:no listener".toList := by decide
  have hwrites : Numeral.Writes ("12541: TNS:no listener".toList.takeWhile Char.isDigit) 12541 :=
    writes_takeWhile_iff.2 (by decide)
  exact ⟨⟨_, Text.firstBehind_of_forall_lt hmessage (by decide) (by decide), hwrites⟩, by decide⟩

end VendorCode
end OracleIntake

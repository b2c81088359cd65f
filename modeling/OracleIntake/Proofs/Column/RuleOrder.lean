import OracleIntake.Column.NameRule

/-!
# Where the order of the rules counts

A name may fit patterns of several rules, and then the first rule decides. Whether two patterns can fit one name is
seen from what is written of them: of two endings one ends with the other, of two beginnings one begins with the
other. Of the standard rules, all patterns of two rules are apart in this sense, but for the two beginnings of flags
and for the ending of sequence numbers, which ends as other numbers do.

* `meets_of_accepts`: patterns that fit one name meet.
* `standard_meetings`: which patterns of two standard rules meet.
* `find?_ordered`: which rule decides, and where no other order would change it.
-/
namespace OracleIntake

namespace NamePattern
variable {name : String} {p q : NamePattern}

/-- Some name may fit both patterns, as far as their written parts tell. -/
def meets : NamePattern → NamePattern → Bool
  | exactly n, p => p.accepts n
  | p, exactly n => p.accepts n
  | startingWith a, startingWith b => a.toList.isPrefixOf b.toList || b.toList.isPrefixOf a.toList
  | endingWith a, endingWith b => a.toList.isSuffixOf b.toList || b.toList.isSuffixOf a.toList
  | startingWith _, endingWith _ | endingWith _, startingWith _ => true

theorem meets_of_accepts (hp : p.accepts name = true) (hq : q.accepts name = true) : p.meets q = true := by
  cases p with
  | exactly n =>
    rw [accepts_exactly] at hp
    subst hp
    exact hq
  | startingWith a =>
    cases q with
    | exactly n =>
      rw [accepts_exactly] at hq
      subst hq
      exact hp
    | startingWith b =>
      simp only [meets, Bool.or_eq_true, List.isPrefixOf_iff_prefix]
      exact List.prefix_or_prefix_of_prefix (accepts_startingWith.1 hp).2 (accepts_startingWith.1 hq).2
    | endingWith b => rfl
  | endingWith a =>
    cases q with
    | exactly n =>
      rw [accepts_exactly] at hq
      subst hq
      exact hp
    | startingWith b => rfl
    | endingWith b =>
      simp only [meets, Bool.or_eq_true, List.isSuffixOf_iff_suffix]
      exact List.suffix_or_suffix_of_suffix (accepts_endingWith.1 hp).2 (accepts_endingWith.1 hq).2

end NamePattern

namespace NameRule
open NamePattern (startingWith endingWith)

variable {name : String} {r r' : NameRule} {p : NamePattern}

theorem accepts_iff : r.accepts name = true ↔ ∃ p ∈ r.patterns, p.accepts name = true := List.any_eq_true

/-- Of a rule, only patterns that meet one that the name fits play a part. -/
theorem accepts_eq_any (hp : p.accepts name = true) (r : NameRule) :
    r.accepts name = (r.patterns.filter p.meets).any (·.accepts name) := by
  rw [Bool.eq_iff_iff, accepts_iff, List.any_eq_true]
  constructor
  · rintro ⟨q, hq, hname⟩
    exact ⟨q, List.mem_filter.2 ⟨hq, NamePattern.meets_of_accepts hp hname⟩, hname⟩
  · rintro ⟨q, hq, hname⟩
    exact ⟨q, (List.mem_filter.1 hq).1, hname⟩

/-! ## The standard rules -/

/-- The pairs of patterns of two rules that some name may fit both. -/
def meetings (r r' : NameRule) : List (NamePattern × NamePattern) :=
  (r.patterns.flatMap fun p => r'.patterns.map fun q => (p, q)).filter fun (p, q) => p.meets q

theorem mem_meetings {q : NamePattern} (hp : p ∈ r.patterns) (hq : q ∈ r'.patterns) (hpname : p.accepts name = true)
    (hqname : q.accepts name = true) : (p, q) ∈ meetings r r' :=
  List.mem_filter.2
    ⟨List.mem_flatMap.2 ⟨p, hp, List.mem_map.2 ⟨q, hq, rfl⟩⟩, NamePattern.meets_of_accepts hpname hqname⟩

/-- The beginnings of flags, the only beginnings that the standard rules write. -/
def flagStarts : List NamePattern := [startingWith "is_", startingWith "has_"]

/-- The rules that a name fits, in their order. -/
def accepting (name : String) : List NameRule := standard.filter (·.accepts name)

/-- The name begins as a flag does. -/
def StartsAsFlag (name : String) : Prop := "is_".toList <+: name.toList ∨ "has_".toList <+: name.toList

instance : DecidablePred StartsAsFlag := fun _ => inferInstanceAs (Decidable (_ ∨ _))

/-- The name ends as a sequence number does. -/
def EndsAsSequence (name : String) : Prop := "_seq_nbr".toList <:+ name.toList

/-- **Patterns of different rules are apart**, but for the beginnings of flags and for sequence numbers. -/
theorem standard_meetings : standard.Pairwise fun r r' => ∀ m ∈ meetings r r',
    m.1 ∈ flagStarts ∨ m.2 ∈ flagStarts ∨ m = (endingWith "_seq_nbr", endingWith "_nbr") := by
  decide +kernel

theorem startsAsFlag_of_mem (hp : p ∈ flagStarts) (h : p.accepts name = true) : StartsAsFlag name := by
  simp only [flagStarts, List.mem_cons, List.not_mem_nil, or_false] at hp
  rcases hp with rfl | rfl
  · exact .inl (NamePattern.accepts_startingWith.1 h).2
  · exact .inr (NamePattern.accepts_startingWith.1 h).2

theorem find?_eq_head? (name : String) : find? name = (accepting name).head? := (List.head?_filter ..).symm

/-! ## Names that fit one rule at most -/

/-- Away from flags and sequence numbers, no two rules accept a name. -/
theorem standard_apart (hflag : ¬ StartsAsFlag name) (hsequence : ¬ EndsAsSequence name) :
    standard.Pairwise fun r r' => ¬ (r.accepts name = true ∧ r'.accepts name = true) := by
  refine standard_meetings.imp fun {r r'} hmeet => ?_
  rintro ⟨hr, hr'⟩
  obtain ⟨p, hp, hpname⟩ := accepts_iff.1 hr
  obtain ⟨q, hq, hqname⟩ := accepts_iff.1 hr'
  rcases hmeet (p, q) (mem_meetings hp hq hpname hqname) with h | h | h
  · exact hflag (startsAsFlag_of_mem h hpname)
  · exact hflag (startsAsFlag_of_mem h hqname)
  · cases h
    exact hsequence (NamePattern.accepts_endingWith.1 hpname).2

theorem length_accepting_le (hflag : ¬ StartsAsFlag name) (hsequence : ¬ EndsAsSequence name) :
    (accepting name).length ≤ 1 := by
  have hpairwise : (accepting name).Pairwise fun r r' => ¬ (r.accepts name = true ∧ r'.accepts name = true) :=
    (standard_apart hflag hsequence).filter _
  have haccepts : ∀ r ∈ accepting name, r.accepts name = true := fun r hr => (List.mem_filter.1 hr).2
  match haccepting : accepting name with
  | [] => exact Nat.zero_le 1
  | [r] => exact Nat.le_refl 1
  | r :: r' :: rest =>
    rw [haccepting] at hpairwise haccepts
    exact absurd ⟨haccepts r (by simp), haccepts r' (by simp)⟩ ((List.pairwise_cons.1 hpairwise).1 r' (by simp))

/-- Where one rule accepts a name at most, the rules may stand in any order. -/
theorem find?_perm (h : (accepting name).length ≤ 1) {rules : List NameRule} (hperm : rules.Perm standard) :
    rules.find? (·.accepts name) = find? name := by
  have hfilter : (rules.filter (·.accepts name)).Perm (accepting name) := hperm.filter _
  rw [← List.head?_filter, find?_eq_head?]
  match haccepting : accepting name with
  | [] => rw [haccepting] at hfilter; rw [hfilter.eq_nil]
  | [r] => rw [haccepting] at hfilter; rw [hfilter.eq_singleton]
  | r :: r' :: rest => rw [haccepting] at h; simp at h

/-! ## Sequence numbers -/

theorem accepts_sequence (hsequence : EndsAsSequence name) (hlong : 8 < name.utf8ByteSize) :
    (endingWith "_seq_nbr").accepts name = true := by
  refine NamePattern.accepts_endingWith.2 ⟨?_, hsequence⟩
  have hle : "_seq_nbr".toList.length ≤ name.toList.length := hsequence.length_le
  rw [String.length_toList, String.length_toList] at hle
  refine Nat.lt_of_le_of_ne hle fun heq => ?_
  -- a name of eight characters is the ending itself, of eight bytes
  have hname : "_seq_nbr".toList = name.toList :=
    hsequence.eq_of_length (by rw [String.length_toList, String.length_toList, heq])
  rw [← String.toList_inj.1 hname] at hlong
  exact absurd hlong (by decide)

theorem any_flagStarts (hlong : 4 < name.length) :
    flagStarts.any (·.accepts name) = true ↔ StartsAsFlag name := by
  have his : "is_".length < name.length := by have : "is_".length = 3 := rfl; omega
  have hhas : "has_".length < name.length := by have : "has_".length = 4 := rfl; omega
  simp only [flagStarts, List.any_cons, List.any_nil, Bool.or_false, Bool.or_eq_true,
    NamePattern.accepts_startingWith, his, hhas, true_and, StartsAsFlag]

/-- The rules that a sequence number fits. -/
theorem accepting_sequence (hsequence : EndsAsSequence name) (hlong : 8 < name.utf8ByteSize) :
    accepting name =
      if StartsAsFlag name then [flag, measure, NameRule.name] else [measure, NameRule.name] := by
  have hname := accepts_sequence hsequence hlong
  have hlength : "_seq_nbr".length < name.length := (NamePattern.accepts_endingWith.1 hname).1
  have hother : (endingWith "_nbr").accepts name = true :=
    NamePattern.accepts_endingWith.2 ⟨Nat.lt_trans (by decide) hlength, List.IsSuffix.trans (by decide) hsequence⟩
  have hflag : flag.accepts name = decide (StartsAsFlag name) := by
    have hpatterns : flag.patterns.filter (endingWith "_seq_nbr").meets = flagStarts := by decide +kernel
    rw [accepts_eq_any hname, hpatterns, Bool.eq_iff_iff, any_flagStarts (Nat.lt_trans (by decide) hlength),
      decide_eq_true_eq]
  have hmeasure : measure.accepts name = true := accepts_iff.2 ⟨_, by decide +kernel, hname⟩
  have hnumber : NameRule.name.accepts name = true := accepts_iff.2 ⟨_, by decide +kernel, hother⟩
  have hrest : ∀ r ∈ [bulkCollection, identifier, timestamp, document, longText, code],
      r.accepts name = false := by
    have hapart : ∀ r ∈ [bulkCollection, identifier, timestamp, document, longText, code],
        r.patterns.filter (endingWith "_seq_nbr").meets = [] := by decide +kernel
    intro r hr
    rw [accepts_eq_any hname, hapart r hr, List.any_nil]
  simp only [List.forall_mem_cons] at hrest
  obtain ⟨hbulk, hidentifier, htimestamp, hdocument, hlongText, hcode, -⟩ := hrest
  by_cases hstart : StartsAsFlag name <;>
    simp [accepting, standard, hflag, hmeasure, hnumber, hbulk, hidentifier, htimestamp, hdocument, hlongText, hcode,
      hstart]

/-! ## Flags -/

/-- A name that begins as a flag and fits some rule is a flag: more than the beginning belongs to it. -/
theorem flag_accepts (hstart : StartsAsFlag name) (hr : r ∈ standard) (h : r.accepts name = true) :
    flag.accepts name = true := by
  have hbare : ∀ start ∈ ["is_", "has_"], ∀ r ∈ standard, r.accepts start = false := by decide +kernel
  have hlonger : ∀ start ∈ ["is_", "has_"], start.toList <+: name.toList → start.length < name.length := by
    intro start hmem hprefix
    have hle := hprefix.length_le
    rw [String.length_toList, String.length_toList] at hle
    refine Nat.lt_of_le_of_ne hle fun heq => ?_
    have hname : start.toList = name.toList :=
      hprefix.eq_of_length (by rw [String.length_toList, String.length_toList, heq])
    rw [← String.toList_inj.1 hname, hbare start hmem r hr] at h
    cases h
  rcases hstart with his | hhas
  · exact accepts_iff.2 ⟨startingWith "is_", by decide +kernel,
      NamePattern.accepts_startingWith.2 ⟨hlonger "is_" (by simp) his, his⟩⟩
  · exact accepts_iff.2 ⟨startingWith "has_", by decide +kernel,
      NamePattern.accepts_startingWith.2 ⟨hlonger "has_" (by simp) hhas, hhas⟩⟩

/-- The rules in front of the one for flags. -/
theorem find?_of_flag (h : flag.accepts name = true) : find? name =
    some (if bulkCollection.accepts name then bulkCollection else if identifier.accepts name then identifier else flag) := by
  cases hbulk : bulkCollection.accepts name <;> cases hidentifier : identifier.accepts name <;>
    simp [find?, standard, h, hbulk, hidentifier]

/-! ## Which rule decides -/

/-- Where the order of the standard rules decides about a name, and where not. -/
structure Ordered (name : String) : Prop where
  /-- A name that is neither begun as a flag nor ended as a sequence number fits one rule at most. -/
  single : ¬ StartsAsFlag name → ¬ EndsAsSequence name → (accepting name).length ≤ 1
  /-- The order of the rules is nothing to such a name. -/
  anyOrder : ¬ StartsAsFlag name → ¬ EndsAsSequence name →
    ∀ rules : List NameRule, rules.Perm standard → rules.find? (·.accepts name) = find? name
  /-- A sequence number fits the rule for measures, then that for names, and that for flags if it begins as one. -/
  sequence : EndsAsSequence name → 8 < name.utf8ByteSize →
    accepting name = if StartsAsFlag name then [flag, measure, NameRule.name] else [measure, NameRule.name]
  /-- It is a measure, unless it begins as a flag. -/
  measured : EndsAsSequence name → 8 < name.utf8ByteSize →
    find? name = some (if StartsAsFlag name then flag else measure)
  /-- A name that begins as a flag and fits some ending is a bulk collection or an identifier before it is a flag. -/
  flagged : StartsAsFlag name →
    (∃ r ∈ standard, ∃ ending, endingWith ending ∈ r.patterns ∧ (endingWith ending).accepts name = true) →
    find? name = some
      (if bulkCollection.accepts name then bulkCollection
        else if identifier.accepts name then identifier else flag)

/-- **The order of the rules.** -/
theorem find?_ordered (name : String) : Ordered name where
  single := length_accepting_le
  anyOrder hflag hsequence _ hperm := find?_perm (length_accepting_le hflag hsequence) hperm
  sequence := accepting_sequence
  measured hsequence hlong := by
    rw [find?_eq_head?, accepting_sequence hsequence hlong]
    split <;> rfl
  flagged hstart hending := by
    obtain ⟨r, hr, ending, hmem, hname⟩ := hending
    exact find?_of_flag (flag_accepts hstart hr (accepts_iff.2 ⟨_, hmem, hname⟩))

example : accepting "is_line_seq_nbr" = [flag, measure, NameRule.name] := by decide +kernel

end NameRule
end OracleIntake

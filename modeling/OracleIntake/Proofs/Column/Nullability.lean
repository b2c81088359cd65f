import OracleIntake.Proofs.Column.Spelling

/-!
# The two tests for null

A declared `null` is met twice: it is passed over where the type of the column is looked for, and it lets the column
have null. The first test compares the lower-case form of all letters, the second the case of ASCII letters only. They
agree on every text, so no declared type is taken for a null by one and for a type by the other.

* `primaryType_eq_find?`: the type that counts, found by the other test.
* `nullTestsAgree`: what a fragment's types say by either test.
-/
namespace OracleIntake.Fragment
variable {f : Fragment}

theorem normalized_ne_null_iff {type : String} : normalized type ≠ "null" ↔ isNullName type = false := by
  rw [Ne, ← isNullName_iff, Bool.not_eq_true]

theorem primaryType_eq_find? (f : Fragment) :
    f.primaryType = (f.types.find? fun type => !isNullName type).map normalized := by
  have htest : ((fun type => decide (type ≠ "null")) ∘ normalized) = fun type => !isNullName type := by
    funext type
    rw [Function.comp_apply, Bool.eq_iff_iff, decide_eq_true_iff, normalized_ne_null_iff, Bool.not_eq_true']
  rw [primaryType, List.find?_map, htest]

theorem primaryType_eq_none_iff : f.primaryType = none ↔ ∀ type ∈ f.types, isNullName type = true := by
  simp [primaryType_eq_find?]

theorem primaryType_eq_some_iff {word : String} : f.primaryType = some word ↔
    ∃ before type after, f.types = before ++ type :: after ∧ (∀ t ∈ before, isNullName t = true) ∧
      isNullName type = false ∧ word = normalized type := by
  rw [primaryType_eq_find?, Option.map_eq_some_iff]
  constructor
  · rintro ⟨type, hfind, rfl⟩
    obtain ⟨hcounts, before, after, htypes, hbefore⟩ := List.find?_eq_some_iff_append.1 hfind
    exact ⟨before, type, after, htypes, by simpa using hbefore, by simpa using hcounts, rfl⟩
  · rintro ⟨before, type, after, htypes, hbefore, hcounts, rfl⟩
    have hfind : f.types.find? (fun type => !isNullName type) = some type :=
      List.find?_eq_some_iff_append.2 ⟨by simpa using hcounts, before, after, htypes, by simpa using hbefore⟩
    exact ⟨type, hfind, rfl⟩

theorem isNullable_iff : f.isNullable = true ↔ ∃ type ∈ f.types, isNullName type = true := List.any_eq_true

/-- The test in lower case and the test of ASCII letters take the same declared types for a null. -/
structure NullTestsAgree (f : Fragment) : Prop where
  /-- A declared type is passed over exactly if it makes the fragment that has no other type nullable. -/
  passedOver : ∀ type ∈ f.types, normalized type = "null" ↔ isNullable { f with types := [type] } = true
  /-- No type counts exactly if the other test takes every declared type for a null. -/
  untyped : f.primaryType = none ↔ ∀ type ∈ f.types, isNullName type = true
  /-- The type that counts is the first one that the other test does not take for a null, without blanks around it
  and in lower case. -/
  typed : ∀ word, f.primaryType = some word ↔
    ∃ before type after, f.types = before ++ type :: after ∧ (∀ t ∈ before, isNullName t = true) ∧
      isNullName type = false ∧ word = Text.lowered (Text.trimmed type)
  /-- The fragment is nullable exactly if a declared type is one that is passed over, wherever it stands. -/
  nullable : f.isNullable = true ↔ ∃ type ∈ f.types, Text.lowered (Text.trimmed type) = "null"

/-- **One null.** The tests agree on every fragment. -/
theorem nullTestsAgree (f : Fragment) : NullTestsAgree f where
  passedOver type _ := by
    rw [← isNullName_iff, isNullable_iff]
    simp
  untyped := primaryType_eq_none_iff
  typed _ := primaryType_eq_some_iff
  nullable := by
    rw [isNullable_iff]
    exact exists_congr fun type => and_congr_right fun _ => isNullName_iff

/-- The numeral `ⅼ` is not the letter `l`, and a null may have blanks around it. -/
example : ({ types := ["\u3000NuLL\n", "Nuⅼⅼ"] } : Fragment).primaryType = some "nuⅼⅼ" := by decide +kernel

end OracleIntake.Fragment

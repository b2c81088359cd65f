import Mathlib.Data.List.Basic
import OracleIntake.Number.Numeral
import OracleIntake.Text.Search

/-!
# Texts with separators

Where a separator does not occur in what stands before it, or in what stands behind it, the two sides can be told
from the whole. A text put together in this way is read in one way only.

* `append_cons_inj`, `append_cons_inj_of_last`: the two sides of a first and of a last separator.
* `append_inj_of_head`: the same where the separator and all behind it may be missing.
* `intercalate_inj`: a list of texts between which the same separator stands.
* `toDigits_inj`, `not_mem_toDigits`: numerals between separators.
-/
namespace OracleIntake.Text
variable {l l' r r' : List Char} {d : Char}

/-- The two sides of the first separator. -/
theorem append_cons_inj (hl : d ∉ l) (hl' : d ∉ l') : l ++ d :: r = l' ++ d :: r' ↔ l = l' ∧ r = r' := by
  refine ⟨fun h => ?_, fun ⟨hl, hr⟩ => by rw [hl, hr]⟩
  have hcut := congrArg (cut? d) h
  rw [cut?_append hl, cut?_append hl'] at hcut
  exact Prod.mk.inj (Option.some.inj hcut)

/-- The two sides of the last separator. -/
theorem append_cons_inj_of_last (hr : d ∉ r) (hr' : d ∉ r') :
    l ++ d :: r = l' ++ d :: r' ↔ l = l' ∧ r = r' := by
  rw [← List.reverse_inj, List.reverse_append, List.reverse_append, List.reverse_cons, List.reverse_cons,
    List.append_assoc, List.append_assoc, List.singleton_append, List.singleton_append,
    append_cons_inj (mt List.mem_reverse.1 hr) (mt List.mem_reverse.1 hr'), List.reverse_inj, List.reverse_inj,
    and_comm]

/-- What stands before the first separator, and the separator with all behind it, if it is there. -/
theorem append_inj_of_head (hl : d ∉ l) (hl' : d ∉ l') (hr : ∀ c ∈ r.head?, c = d) (hr' : ∀ c ∈ r'.head?, c = d) :
    l ++ r = l' ++ r' ↔ l = l' ∧ r = r' := by
  refine ⟨fun h => ?_, fun ⟨hl, hr⟩ => by rw [hl, hr]⟩
  have hbefore : ∀ {l r : List Char}, d ∉ l → (∀ c ∈ r.head?, c = d) → (l ++ r).takeWhile (· != d) = l := by
    intro l r hl hr
    have hall : ∀ c ∈ l, (c != d) = true := fun c hc => bne_iff_ne.2 fun hcd => hl (hcd ▸ hc)
    rw [List.takeWhile_append_of_pos hall]
    cases r with
    | nil => exact List.append_nil l
    | cons c r => simp [hr c rfl]
  have hleft := hbefore hl hr
  rw [h, hbefore hl' hr'] at hleft
  subst hleft
  exact ⟨rfl, List.append_cancel_left h⟩

/-! ## Lists -/

theorem intercalate_cons (sep l : List Char) (ls : List (List Char)) :
    sep.intercalate (l :: ls) = l ++ ls.flatMap (sep ++ ·) := by
  induction ls generalizing l with
  | nil => rw [List.intercalate_singleton, List.flatMap_nil, List.append_nil]
  | cons m ls ih => rw [List.intercalate_cons_cons, ih, List.flatMap_cons, List.append_assoc, List.append_assoc]

/-- Texts that have no `d` in them, where the separator ends with its only `d`. -/
theorem append_flatMap_inj {p m : List Char} {ls ms : List (List Char)} (hp : d ∉ p) (hl : ∀ s ∈ l :: ls, d ∉ s)
    (hm : ∀ s ∈ m :: ms, d ∉ s) (h : l ++ ls.flatMap (p ++ [d] ++ ·) = m ++ ms.flatMap (p ++ [d] ++ ·)) :
    l :: ls = m :: ms := by
  -- What stands before the first `d` is the first text with the rest of the separator, if there are more texts.
  have hmore : ∀ s t ts, s ++ (t :: ts).flatMap (p ++ [d] ++ ·) =
      s ++ p ++ d :: (t ++ ts.flatMap (p ++ [d] ++ ·)) := by
    intro s t ts
    simp only [List.flatMap_cons, List.append_assoc, List.cons_append, List.nil_append]
  have hmem : ∀ s t ts, d ∈ s ++ (t :: ts).flatMap (p ++ [d] ++ ·) := fun s t ts => by
    rw [hmore]
    exact List.mem_append_right _ List.mem_cons_self
  induction ls generalizing l m ms with
  | nil =>
    cases ms with
    | nil => rw [List.append_cancel_right h]
    | cons n ms =>
      rw [List.flatMap_nil, List.append_nil] at h
      exact absurd (h ▸ hmem m n ms) (hl l List.mem_cons_self)
  | cons n ls ih =>
    cases ms with
    | nil =>
      rw [List.flatMap_nil, List.append_nil] at h
      exact absurd (h ▸ hmem l n ls) (hm m List.mem_cons_self)
    | cons o ms =>
      have hfree : ∀ s : List Char, d ∉ s → d ∉ s ++ p := fun s hs hd => (List.mem_append.1 hd).elim hs hp
      rw [hmore, hmore, append_cons_inj (hfree l (hl l List.mem_cons_self)) (hfree m (hm m List.mem_cons_self))] at h
      rw [List.append_cancel_right h.1, ih (fun s hs => hl s (List.mem_cons_of_mem _ hs))
        (fun s hs => hm s (List.mem_cons_of_mem _ hs)) h.2]

/-- A list is read from its texts joined, if none of them is empty or has the end of the separator in it. -/
theorem intercalate_inj {p : List Char} {ls ms : List (List Char)} (hp : d ∉ p) (hls : ∀ s ∈ ls, s ≠ [] ∧ d ∉ s)
    (hms : ∀ s ∈ ms, s ≠ [] ∧ d ∉ s) : (p ++ [d]).intercalate ls = (p ++ [d]).intercalate ms ↔ ls = ms := by
  refine ⟨fun h => ?_, congrArg _⟩
  cases ls with
  | nil =>
    cases ms with
    | nil => rfl
    | cons m ms =>
      rw [intercalate_cons, List.intercalate_nil, eq_comm, List.append_eq_nil_iff] at h
      exact absurd h.1 (hms m List.mem_cons_self).1
  | cons l ls =>
    cases ms with
    | nil =>
      rw [intercalate_cons, List.intercalate_nil, List.append_eq_nil_iff] at h
      exact absurd h.1 (hls l List.mem_cons_self).1
    | cons m ms =>
      rw [intercalate_cons, intercalate_cons] at h
      exact append_flatMap_inj hp (fun s hs => (hls s hs).2) (fun s hs => (hms s hs).2) h

/-! ## Numerals -/

theorem not_mem_toDigits (hd : d.isDigit = false) (n : Nat) : d ∉ Nat.toDigits 10 n := by
  intro hmem
  rw [Nat.isDigit_of_mem_toDigits (by decide) (by decide) hmem] at hd
  cases hd

theorem toDigits_inj {m n : Nat} : Nat.toDigits 10 m = Nat.toDigits 10 n ↔ m = n := by
  refine ⟨fun h => ?_, congrArg _⟩
  have hread := congrArg Numeral.digits? h
  rw [Numeral.digits?_toDigits, Numeral.digits?_toDigits] at hread
  exact Option.some.inj hread

theorem toList_toString (n : Nat) : (toString n).toList = Nat.toDigits 10 n := by
  rw [Nat.toString_eq_ofList_toDigits, String.toList_ofList]

end OracleIntake.Text

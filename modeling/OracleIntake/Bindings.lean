/-!
# Bindings

Texts bound to values in the order in which they were written. A later binding of a key replaces an earlier
one, so `value?` reads the last, and `entries` lists each key once, in ascending order of code points, with
its last value.

* `entries_cons`: one more binding in front counts only if the key is not bound behind it.
* `value?_append`: what is written behind goes before what is written in front.
* `value?_eq_getLast?`, `value?_eq_some_iff`: the value is that of the last binding of the key.
* `ascending_entries`, `mem_entries_iff`: the entries are ascending, and they are the values of the keys.
* `Ascending.ext`: ascending bindings are told by the values of their keys.
* `filter_entries_insert`: one more binding changes the entry of its key only.
-/
namespace OracleIntake

/-- Keys bound to values, in the order of writing. -/
abbrev Bindings (α : Type) := List (String × α)

namespace Bindings
variable {α : Type}

/-- The last value bound to `key`. -/
def value? (key : String) : Bindings α → Option α
  | [] => none
  | (k, v) :: rest => (value? key rest).or (if k = key then some v else none)

/-- Puts `key` into an ascending list, unless the list has it. -/
def place (key : String) (value : α) : Bindings α → Bindings α
  | [] => [(key, value)]
  | (k, v) :: rest =>
    if key < k then (key, value) :: (k, v) :: rest
    else if key = k then (k, v) :: rest
    else (k, v) :: place key value rest

/-- Each key once with its last value, in ascending order. -/
def entries : Bindings α → Bindings α
  | [] => []
  | (k, v) :: rest => place k v (entries rest)

@[simp] theorem entries_nil : entries ([] : Bindings α) = [] := rfl

@[simp] theorem entries_cons (k : String) (v : α) (rest : Bindings α) :
    entries ((k, v) :: rest) = place k v (entries rest) := rfl

@[simp] theorem value?_nil (key : String) : value? key ([] : Bindings α) = none := rfl

theorem value?_cons (key k : String) (v : α) (rest : Bindings α) :
    value? key ((k, v) :: rest) = (value? key rest).or (if k = key then some v else none) := rfl

theorem value?_append (key : String) (xs ys : Bindings α) :
    value? key (xs ++ ys) = (value? key ys).or (value? key xs) := by
  induction xs with
  | nil => simp
  | cons x xs ih => rw [List.cons_append, value?_cons, value?_cons, ih, Option.or_assoc]

theorem value?_eq_getLast? (key : String) (xs : Bindings α) :
    value? key xs = (xs.filter fun x => x.1 == key).getLast?.map Prod.snd := by
  induction xs with
  | nil => rfl
  | cons x xs ih =>
    obtain ⟨k, v⟩ := x
    rw [value?_cons, ih]
    by_cases hk : k = key
    · rw [if_pos hk, List.filter_cons_of_pos (by simpa using hk), List.getLast?_cons]
      cases (xs.filter fun x => x.1 == key).getLast? <;> rfl
    · rw [if_neg hk, List.filter_cons_of_neg (by simpa using hk), Option.or_none]

theorem value?_eq_none_iff {key : String} {xs : Bindings α} : value? key xs = none ↔ ∀ x ∈ xs, x.1 ≠ key := by
  induction xs with
  | nil => simp
  | cons x xs ih =>
    obtain ⟨k, v⟩ := x
    by_cases hk : k = key <;> simp [value?_cons, ih, hk]

theorem value?_eq_some_iff {key : String} {v : α} {xs : Bindings α} :
    value? key xs = some v ↔ ∃ before after, xs = before ++ (key, v) :: after ∧ ∀ x ∈ after, x.1 ≠ key := by
  constructor
  · induction xs with
    | nil => nofun
    | cons x xs ih =>
      obtain ⟨k, w⟩ := x
      intro h
      rw [value?_cons] at h
      cases hrest : value? key xs with
      | some u =>
        rw [hrest] at h
        cases h
        obtain ⟨before, after, hxs, hafter⟩ := ih hrest
        exact ⟨(k, w) :: before, after, by rw [hxs]; rfl, hafter⟩
      | none =>
        rw [hrest, Option.none_or] at h
        split at h
        · next hk =>
          cases h
          exact ⟨[], xs, by rw [hk]; rfl, value?_eq_none_iff.1 hrest⟩
        · cases h
  · rintro ⟨before, after, rfl, hafter⟩
    rw [value?_append, value?_cons, if_pos rfl, value?_eq_none_iff.2 hafter]
    rfl

theorem value?_insert_of_ne {key k : String} (h : k ≠ key) (v : α) (xs ys : Bindings α) :
    value? key (xs ++ (k, v) :: ys) = value? key (xs ++ ys) := by
  rw [value?_append, value?_append, value?_cons, if_neg h, Option.or_none]

theorem value?_insert_self {key : String} {xs ys : Bindings α} (h : value? key (xs ++ ys) = none) (v : α) :
    value? key (xs ++ (key, v) :: ys) = some v := by
  rw [value?_append, Option.or_eq_none_iff] at h
  rw [value?_append, value?_cons, if_pos rfl, h.1, h.2]
  rfl

/-! ## Each key once -/

/-- The keys stand in ascending order, and so each stands there once. -/
def Ascending (xs : Bindings α) : Prop := xs.Pairwise fun x y => x.1 < y.1

theorem value?_place (key k : String) (v : α) (xs : Bindings α) :
    value? key (place k v xs) = (value? key xs).or (if k = key then some v else none) := by
  induction xs with
  | nil => rfl
  | cons x xs ih =>
    obtain ⟨k', v'⟩ := x
    rw [place]
    split
    · rfl
    · split
      · next hk =>
        subst hk
        by_cases hkey : k = key <;> simp [value?_cons, hkey]
      · next hk =>
        rw [value?_cons, ih, value?_cons, Option.or_assoc, Option.or_assoc]
        congr 1
        by_cases hkey : k = key
        · subst hkey
          simp [Ne.symm hk]
        · simp [hkey]

@[simp] theorem value?_entries (key : String) (xs : Bindings α) : value? key (entries xs) = value? key xs := by
  induction xs with
  | nil => rfl
  | cons x xs ih => rw [entries_cons, value?_place, ih, value?_cons]

theorem mem_of_mem_place {k : String} {v : α} {x : String × α} {xs : Bindings α} (h : x ∈ place k v xs) :
    x = (k, v) ∨ x ∈ xs := by
  induction xs with
  | nil => exact .inl (List.mem_singleton.1 h)
  | cons y xs ih =>
    obtain ⟨k', v'⟩ := y
    rw [place] at h
    split at h
    · exact List.mem_cons.1 h
    · split at h
      · exact .inr h
      · rcases List.mem_cons.1 h with rfl | h
        · exact .inr List.mem_cons_self
        · exact (ih h).imp_right (List.mem_cons_of_mem _)

theorem ascending_place {xs : Bindings α} (h : Ascending xs) (k : String) (v : α) : Ascending (place k v xs) := by
  induction xs with
  | nil => exact List.pairwise_singleton _ _
  | cons x xs ih =>
    obtain ⟨k', v'⟩ := x
    obtain ⟨hfirst, hrest⟩ := List.pairwise_cons.1 h
    rw [place]
    split
    · next hlt =>
      refine List.pairwise_cons.2 ⟨fun y hy => ?_, h⟩
      rcases List.mem_cons.1 hy with rfl | hy
      · exact hlt
      · exact String.lt_trans hlt (hfirst y hy)
    · next hle =>
      split
      · exact h
      · next hne =>
        refine List.pairwise_cons.2 ⟨fun y hy => ?_, ih hrest⟩
        rcases mem_of_mem_place hy with rfl | hy
        · -- neither less nor equal, so greater
          have hle' : k' ≤ k := String.not_lt.1 hle
          exact Decidable.byContradiction fun hnot => hne (String.le_antisymm (String.not_lt.1 hnot) hle')
        · exact hfirst y hy

theorem ascending_entries (xs : Bindings α) : Ascending (entries xs) := by
  induction xs with
  | nil => exact List.Pairwise.nil
  | cons x xs ih => exact ascending_place ih _ _

theorem Ascending.value?_eq_none {k : String} {v : α} {xs : Bindings α} (h : Ascending ((k, v) :: xs)) :
    value? k xs = none := by
  refine value?_eq_none_iff.2 fun x hx hkey => String.lt_irrefl k ?_
  have hlt : k < x.1 := (List.pairwise_cons.1 h).1 x hx
  rwa [hkey] at hlt

theorem Ascending.mem_iff {xs : Bindings α} (h : Ascending xs) {k : String} {v : α} :
    (k, v) ∈ xs ↔ value? k xs = some v := by
  induction xs with
  | nil => simp
  | cons x xs ih =>
    obtain ⟨k', v'⟩ := x
    rw [List.mem_cons, ih (List.pairwise_cons.1 h).2, value?_cons]
    by_cases hk : k' = k
    · subst hk
      simp [h.value?_eq_none, eq_comm]
    · simp [hk, Ne.symm hk]

theorem mem_entries_iff {k : String} {v : α} {xs : Bindings α} : (k, v) ∈ entries xs ↔ value? k xs = some v := by
  rw [(ascending_entries xs).mem_iff, value?_entries]

theorem Ascending.nodup_keys {xs : Bindings α} (h : Ascending xs) : (xs.map Prod.fst).Nodup := by
  refine List.pairwise_map.2 (List.Pairwise.imp (fun {x y} hlt heq => ?_) h)
  rw [heq] at hlt
  exact String.lt_irrefl y.1 hlt

theorem Ascending.nodup {xs : Bindings α} (h : Ascending xs) : xs.Nodup :=
  List.Pairwise.of_map Prod.fst (fun _ _ hne heq => hne (congrArg Prod.fst heq)) h.nodup_keys

/-- Ascending bindings are told by the values of their keys. -/
theorem Ascending.ext {xs ys : Bindings α} (hx : Ascending xs) (hy : Ascending ys)
    (h : ∀ k, value? k xs = value? k ys) : xs = ys := by
  have hperm : xs.Perm ys := (List.perm_ext_iff_of_nodup hx.nodup hy.nodup).2 fun x => by rw [hx.mem_iff, hy.mem_iff, h]
  exact hperm.eq_of_pairwise (fun a b _ _ hab hba => absurd hba (String.lt_asymm hab)) hx hy

/-- Where each key stands once, what is made of the values one by one is made of the value of the key. -/
theorem Ascending.value?_filterMap {β : Type} {xs : Bindings α} (h : Ascending xs) (g : String → α → Option β)
    (key : String) :
    value? key (xs.filterMap fun x => (g x.1 x.2).map fun v => (x.1, v)) = (value? key xs).bind (g key) := by
  induction xs with
  | nil => rfl
  | cons x xs ih =>
    obtain ⟨k, v⟩ := x
    have hrest : Ascending xs := (List.pairwise_cons.1 h).2
    by_cases hk : k = key
    · subst hk
      cases hg : g k v <;> simp [value?_cons, ih hrest, h.value?_eq_none, hg]
    · cases hg : g k v <;> simp [value?_cons, ih hrest, hk, hg]

theorem value?_filter_keys (p : String → Bool) (key : String) (xs : Bindings α) :
    value? key (xs.filter fun x => p x.1) = if p key then value? key xs else none := by
  induction xs with
  | nil => simp
  | cons x xs ih =>
    obtain ⟨k, v⟩ := x
    rw [List.filter_cons]
    by_cases hk : k = key
    · subst hk
      cases hp : p k <;> simp [value?_cons, ih, hp]
    · cases hp : p k <;> simp [value?_cons, ih, hk]

/-- A binding put among others changes the entry of its key only. -/
theorem filter_entries_insert (k : String) (v : α) (xs ys : Bindings α) :
    (entries (xs ++ (k, v) :: ys)).filter (fun x => x.1 != k) = (entries (xs ++ ys)).filter fun x => x.1 != k := by
  have hfilter (zs : Bindings α) : Ascending ((entries zs).filter fun x => x.1 != k) :=
    List.Pairwise.filter _ (ascending_entries zs)
  refine (hfilter _).ext (hfilter _) fun key => ?_
  rw [value?_filter_keys (· != k), value?_filter_keys (· != k), value?_entries, value?_entries]
  split
  · next hkey => exact value?_insert_of_ne (Ne.symm (bne_iff_ne.1 hkey)) v xs ys
  · rfl

theorem place_map {β : Type} (g : String → α → β) (k : String) (v : α) (xs : Bindings α) :
    place k (g k v) (xs.map fun x => (x.1, g x.1 x.2)) = (place k v xs).map fun x => (x.1, g x.1 x.2) := by
  induction xs with
  | nil => rfl
  | cons x xs ih =>
    simp only [List.map_cons, place]
    split
    · rfl
    · split
      · rfl
      · rw [ih, List.map_cons]

theorem entries_map {β : Type} (g : String → α → β) (xs : Bindings α) :
    entries (xs.map fun x => (x.1, g x.1 x.2)) = (entries xs).map fun x => (x.1, g x.1 x.2) := by
  induction xs with
  | nil => rfl
  | cons x xs ih => rw [List.map_cons, entries_cons, ih, place_map, entries_cons]

end Bindings
end OracleIntake

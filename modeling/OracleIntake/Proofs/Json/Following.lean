import OracleIntake.Json.Reader
import OracleIntake.Proofs.Json.Number

/-!
# What follows a JSON value

A value that stands at the start of a text is read alike whatever follows it, as long as that does not go on a
number, and at every depth that leaves room for the arrays and objects inside it; at no other depth is it read.

* `value?_append`: a value that is read is read before whatever follows.
* `value?_append_of_deep`: a value that nests too deep is not read.
-/
namespace OracleIntake.Json
open JsonNumber (Ends)

variable {s t r : List Char}

/-! ## Space and strings -/

/-- What is refused at the end of the text is only read where there is text. -/
theorem ne_nil_of_some {α : Type} {f : List Char → Option α} (hnil : f [] = none) {a : α} (h : f s = some a) :
    s ≠ [] := by
  rintro rfl
  rw [hnil] at h
  cases h

theorem skipSpace_append (h : skipSpace s ≠ []) : skipSpace (s ++ t) = skipSpace s ++ t := by
  unfold skipSpace at h ⊢
  rw [List.dropWhile_append, if_neg (by simpa using h)]

theorem skipSpace_append_of_cons {c : Char} {s' : List Char} (h : skipSpace s = c :: s') :
    skipSpace (s ++ t) = c :: (s' ++ t) := by
  rw [skipSpace_append (by simp [h]), h, List.cons_append]

theorem hex4?_append {n : Nat} (h : hex4? s = some (n, r)) : hex4? (s ++ t) = some (n, r ++ t) := by
  unfold hex4? at h
  split at h
  · next a b c d s =>
    simp only [Option.bind_eq_bind, Option.bind_eq_some_iff] at h
    obtain ⟨a', ha, b', hb, c', hc, d', hd, h⟩ := h
    cases h
    simp [hex4?, ha, hb, hc, hd]
  · cases h

theorem unicodeEscape?_append {c : Char} (h : unicodeEscape? s = some (c, r)) :
    unicodeEscape? (s ++ t) = some (c, r ++ t) := by
  simp only [unicodeEscape?, Option.bind_eq_bind] at h ⊢
  obtain ⟨⟨n, s'⟩, hn, h⟩ := Option.bind_eq_some_iff.1 h
  rw [hex4?_append hn, Option.bind_some]
  dsimp only at h ⊢
  split at h
  · cases h
  next hlow =>
  rw [if_neg hlow]
  split at h
  next hhigh =>
    rw [if_pos hhigh]
    split at h
    · next s₂ =>
      obtain ⟨⟨m, s₃⟩, hm, h⟩ := Option.bind_eq_some_iff.1 h
      dsimp only at h
      split at h
      · next hpair =>
        obtain ⟨rfl, rfl⟩ := Prod.mk.inj (Option.some.inj h)
        change ((hex4? (s₂ ++ t)).bind fun low =>
          if 0xDC00 ≤ low.1 ∧ low.1 < 0xE000 then
            some (Char.ofNat (0x10000 + (n - 0xD800) * 0x400 + (low.1 - 0xDC00)), low.2)
          else none) = _
        rw [hex4?_append hm, Option.bind_some]
        exact if_pos hpair
      · cases h
    · cases h
  next hhigh =>
    rw [if_neg hhigh]
    obtain ⟨rfl, rfl⟩ := Prod.mk.inj (Option.some.inj h)
    rfl

theorem escape?_append {c : Char} (h : escape? s = some (c, r)) : escape? (s ++ t) = some (c, r ++ t) := by
  unfold escape? at h
  split at h
  case h_9 => exact unicodeEscape?_append h
  case h_10 => cases h
  all_goals
    cases h
    rfl

theorem stringRest?_append {fuel fuel' : Nat} (hfuel : fuel ≤ fuel') {read cs : List Char}
    (h : stringRest? fuel read s = some (cs, r)) : stringRest? fuel' read (s ++ t) = some (cs, r ++ t) := by
  induction fuel generalizing fuel' read s with
  | zero => cases h
  | succ fuel ih =>
    cases fuel' with
    | zero => cases hfuel
    | succ fuel' =>
      have hfuel := Nat.le_of_succ_le_succ hfuel
      cases s with
      | nil => cases h
      | cons c s =>
        rw [List.cons_append]
        simp only [stringRest?] at h ⊢
        split at h
        next hquote =>
          rw [if_pos hquote]
          cases h
          rfl
        next hquote =>
        rw [if_neg hquote]
        split at h
        next hescape =>
          rw [if_pos hescape]
          obtain ⟨⟨c', s'⟩, hc, h⟩ := Option.bind_eq_some_iff.1 h
          rw [escape?_append hc]
          exact ih hfuel h
        next hescape =>
        rw [if_neg hescape]
        split at h
        next hcontrol => cases h
        next hcontrol =>
          rw [if_neg hcontrol]
          exact ih hfuel h

theorem stringBody?_append {x : String} (h : stringBody? s = some (x, r)) :
    stringBody? (s ++ t) = some (x, r ++ t) := by
  unfold stringBody? at h ⊢
  obtain ⟨⟨cs, s'⟩, hcs, h⟩ := Option.map_eq_some_iff.1 h
  cases h
  rw [stringRest?_append (by simp) hcs]
  rfl

/-- A number is told from the other values by its first character. -/
theorem scalar?_of_number {c : Char} (hc : c.isDigit = true ∨ c = '-') (s : List Char) :
    scalar? (c :: s) = (JsonNumber.read? (c :: s)).map fun (x, s) => (.number x, s) := by
  unfold scalar?
  split
  case h_1 h | h_2 h | h_3 h | h_4 h =>
    cases h
    rcases hc with hc | hc <;> cases hc
  case h_5 => rfl

theorem scalar?_append (ht : Ends t) {x : Json} (h : scalar? s = some (x, r)) :
    scalar? (s ++ t) = some (x, r ++ t) := by
  unfold scalar? at h
  split at h
  case h_1 s =>
    obtain ⟨⟨y, s'⟩, hy, h⟩ := Option.map_eq_some_iff.1 h
    cases h
    simp [scalar?, stringBody?_append hy]
  case h_2 | h_3 | h_4 =>
    cases h
    rfl
  case h_5 hquote hnull htrue hfalse =>
    obtain ⟨⟨y, s'⟩, hy, h⟩ := Option.map_eq_some_iff.1 h
    cases h
    obtain ⟨c, s', rfl, hc⟩ := JsonNumber.exists_cons_of_read? hy
    have happend := JsonNumber.read?_append ht hy
    rw [List.cons_append] at happend ⊢
    rw [scalar?_of_number hc, happend]
    rfl

/-! ## Items and members -/

section
variable {α : Type} {entry entry' : List Char → Option (α × List Char)} {close : Char} {fuel fuel' : Nat}

/-- The entries of a list from one that must be there, behind those `read` (last first), with commas between them
and `close` behind the last one. -/
def listRest? (close : Char) (entry : List Char → Option (α × List Char)) :
    (fuel : Nat) → (read : List α) → List Char → Option (List α × List Char)
  | 0, _, _ => none
  | fuel + 1, read, s => (entry s).bind fun (x, s) =>
    match skipSpace s with
    | c :: s =>
      if c = ',' then listRest? close entry fuel (x :: read) s
      else if c = close then some ((x :: read).reverse, s)
      else none
    | [] => none

/-- The text behind a character that must be there, after space. -/
def behind? (c : Char) (s : List Char) : Option (List Char) :=
  match skipSpace s with
  | c' :: s => if c' = c then some s else none
  | [] => none

/-- One member of an object, and what follows. -/
def readMember? (item : List Char → Option (Json × List Char)) (s : List Char) :
    Option ((String × Json) × List Char) :=
  (behind? '"' s).bind fun s => (stringBody? s).bind fun (key, s) =>
    (behind? ':' s).bind fun s => (item (skipSpace s)).map fun (x, s) => ((key, x), s)

theorem behind?_eq_some {c : Char} {s₁ : List Char} : behind? c s = some s₁ ↔ skipSpace s = c :: s₁ := by
  unfold behind?
  split
  · next c' s' hs => simp [hs]
  · next hs => simp [hs]

theorem behind?_append {c : Char} (h : behind? c s = some r) : behind? c (s ++ t) = some (r ++ t) :=
  behind?_eq_some.2 (skipSpace_append_of_cons (behind?_eq_some.1 h))

theorem itemsRest?_eq_listRest? (item : List Char → Option (Json × List Char)) (fuel : Nat) (read : List Json)
    (s : List Char) :
    itemsRest? item fuel read s = listRest? ']' (fun s => item (skipSpace s)) fuel read s := by
  induction fuel generalizing read s with
  | zero => rfl
  | succ fuel ih =>
    rw [itemsRest?, listRest?]
    refine congrArg (item (skipSpace s)).bind (funext fun found => ?_)
    obtain ⟨x, s₁⟩ := found
    dsimp only
    split
    · next s₂ hs₂ => simp [hs₂, ih]
    · next s₂ hs₂ => simp [hs₂]
    · next hcomma hclose =>
      cases hs₂ : skipSpace s₁ with
      | nil => rfl
      | cons c s₂ =>
        have hc : c ≠ ',' := fun h => hcomma s₂ (by rw [hs₂, h])
        have hc' : c ≠ ']' := fun h => hclose s₂ (by rw [hs₂, h])
        simp [hc, hc']

theorem membersRest?_eq_listRest? (item : List Char → Option (Json × List Char)) (fuel : Nat)
    (read : List (String × Json)) (s : List Char) :
    membersRest? item fuel read s = listRest? '\x7d' (readMember? item) fuel read s := by
  induction fuel generalizing read s with
  | zero => rfl
  | succ fuel ih =>
    rw [membersRest?, listRest?, readMember?]
    split
    · next s₁ hs₁ =>
      rw [behind?_eq_some.2 hs₁, Option.bind_some, Option.bind_assoc]
      refine congrArg (stringBody? s₁).bind (funext fun found => ?_)
      obtain ⟨key, s₂⟩ := found
      dsimp only
      split
      · next s₃ hs₃ =>
        rw [behind?_eq_some.2 hs₃, Option.bind_some, Option.bind_map]
        refine congrArg (item (skipSpace s₃)).bind (funext fun found => ?_)
        obtain ⟨x, s₄⟩ := found
        dsimp only [Function.comp]
        split
        · next s₅ hs₅ => simp [hs₅, ih]
        · next s₅ hs₅ => simp [hs₅]
        · next hcomma hclose =>
          cases hs₅ : skipSpace s₄ with
          | nil => rfl
          | cons c s₅ =>
            have hc : c ≠ ',' := fun h => hcomma s₅ (by rw [hs₅, h])
            have hc' : c ≠ '\x7d' := fun h => hclose s₅ (by rw [hs₅, h])
            simp [hc, hc']
      · next hcolon =>
        have hnone : behind? ':' s₂ = none :=
          Option.eq_none_iff_forall_ne_some.2 fun s₃ hs₃ => hcolon s₃ (behind?_eq_some.1 hs₃)
        rw [hnone]
        rfl
    · next hquote =>
      have hnone : behind? '"' s = none :=
        Option.eq_none_iff_forall_ne_some.2 fun s₁ hs₁ => hquote s₁ (behind?_eq_some.1 hs₁)
      rw [hnone]
      rfl

theorem listRest?_eq_some (hclose : close ≠ ',') {read xs : List α} :
    listRest? close entry (fuel + 1) read s = some (xs, r) ↔
      ∃ x s₁, entry s = some (x, s₁) ∧
        ((∃ s₂, skipSpace s₁ = ',' :: s₂ ∧ listRest? close entry fuel (x :: read) s₂ = some (xs, r)) ∨
          skipSpace s₁ = close :: r ∧ xs = (x :: read).reverse) := by
  rw [listRest?]
  constructor
  · intro h
    obtain ⟨⟨x, s₁⟩, hx, h⟩ := Option.bind_eq_some_iff.1 h
    refine ⟨x, s₁, hx, ?_⟩
    dsimp only at h
    split at h
    · next c s₂ hs₂ =>
      split at h
      · next hc => exact .inl ⟨s₂, by rw [hs₂, hc], h⟩
      · split at h
        · next hc =>
          cases h
          exact .inr ⟨by rw [hs₂, hc], rfl⟩
        · cases h
    · cases h
  · rintro ⟨x, s₁, hx, ⟨s₂, hs₂, h⟩ | ⟨hs₂, rfl⟩⟩
    · simp [hx, hs₂, h]
    · simp [hx, hs₂, hclose]

/-- What holds of every entry that is read holds of all entries of the list. -/
theorem forall_of_listRest? (hclose : close ≠ ',') {P : α → Prop} (hentry : ∀ s x r, entry s = some (x, r) → P x)
    {read xs : List α} (hread : ∀ x ∈ read, P x) (h : listRest? close entry fuel read s = some (xs, r)) :
    ∀ x ∈ xs, P x := by
  induction fuel generalizing read s with
  | zero => cases h
  | succ fuel ih =>
    obtain ⟨x, s₁, hx, h⟩ := (listRest?_eq_some hclose).1 h
    have hread' : ∀ y ∈ x :: read, P y := List.forall_mem_cons.2 ⟨hentry _ _ _ hx, hread⟩
    rcases h with ⟨s₂, -, h⟩ | ⟨-, rfl⟩
    · exact ih hread' h
    · exact fun y hy => hread' y (List.mem_reverse.1 hy)

theorem mem_of_listRest? (hclose : close ≠ ',') {read xs : List α}
    (h : listRest? close entry fuel read s = some (xs, r)) : ∀ x ∈ read, x ∈ xs := by
  induction fuel generalizing read s with
  | zero => cases h
  | succ fuel ih =>
    obtain ⟨x, s₁, -, ⟨s₂, -, h⟩ | ⟨-, rfl⟩⟩ := (listRest?_eq_some hclose).1 h
    · exact fun y hy => ih h y (List.mem_cons_of_mem x hy)
    · exact fun y hy => List.mem_reverse.2 (List.mem_cons_of_mem x hy)

/-- A list is read before whatever follows it if its entries are. -/
theorem listRest?_append (hclose : close ≠ ',') {P : α → Prop}
    (hentry : ∀ s x r, entry s = some (x, r) → P x → entry' (s ++ t) = some (x, r ++ t)) (hfuel : fuel ≤ fuel')
    {read xs : List α} (h : listRest? close entry fuel read s = some (xs, r)) (hxs : ∀ x ∈ xs, P x) :
    listRest? close entry' fuel' read (s ++ t) = some (xs, r ++ t) := by
  induction fuel generalizing fuel' read s with
  | zero => cases h
  | succ fuel ih =>
    cases fuel' with
    | zero => cases hfuel
    | succ fuel' =>
      refine (listRest?_eq_some hclose).2 ?_
      obtain ⟨x, s₁, hx, ⟨s₂, hs₂, h⟩ | ⟨hs₂, rfl⟩⟩ := (listRest?_eq_some hclose).1 h
      · have hmem : x ∈ xs := mem_of_listRest? hclose h x List.mem_cons_self
        exact ⟨x, s₁ ++ t, hentry s x s₁ hx (hxs x hmem),
          .inl ⟨s₂ ++ t, skipSpace_append_of_cons hs₂, ih (Nat.le_of_succ_le_succ hfuel) h⟩⟩
      · exact ⟨x, s₁ ++ t, hentry s x s₁ hx (hxs x (by simp)), .inr ⟨skipSpace_append_of_cons hs₂, rfl⟩⟩

end

/-! ## Values -/

mutual
/-- How many arrays and objects are inside one another. -/
def depth : Json → Nat
  | array items => depthItems items + 1
  | object members => depthMembers members + 1
  | _ => 0

/-- The greatest depth of an item. -/
def depthItems : List Json → Nat
  | [] => 0
  | x :: items => max (depth x) (depthItems items)

/-- The greatest depth of a member. -/
def depthMembers : List (String × Json) → Nat
  | [] => 0
  | (_, x) :: members => max (depth x) (depthMembers members)
end

theorem depthItems_le {d : Nat} {xs : List Json} : depthItems xs ≤ d ↔ ∀ x ∈ xs, x.depth ≤ d := by
  induction xs with
  | nil => simp [depthItems]
  | cons x xs ih => rw [depthItems, Nat.max_le, ih, List.forall_mem_cons]

theorem depthMembers_le {d : Nat} {ms : List (String × Json)} :
    depthMembers ms ≤ d ↔ ∀ m ∈ ms, m.2.depth ≤ d := by
  induction ms with
  | nil => simp [depthMembers]
  | cons m ms ih => rw [depthMembers, Nat.max_le, ih, List.forall_mem_cons]

theorem value?_array_nil {d : Nat} (h : skipSpace s = ']' :: r) :
    value? (d + 1) ('[' :: s) = some (.array [], r) := by
  rw [value?, h]
  rfl

theorem value?_array {d : Nat} (h : ∀ r, skipSpace s ≠ ']' :: r) :
    value? (d + 1) ('[' :: s) =
      (listRest? ']' (fun s => value? d (skipSpace s)) ((skipSpace s).length + 1) [] (skipSpace s)).map
        fun (xs, s) => (.array xs, s) := by
  rw [value?]
  split
  · next r hr => exact absurd hr (h r)
  · rw [itemsRest?_eq_listRest?]

theorem value?_object_nil {d : Nat} (h : skipSpace s = '\x7d' :: r) :
    value? (d + 1) ('\x7b' :: s) = some (.object [], r) := by
  rw [value?, h]
  rfl

theorem value?_object {d : Nat} (h : ∀ r, skipSpace s ≠ '\x7d' :: r) :
    value? (d + 1) ('\x7b' :: s) =
      (listRest? '\x7d' (readMember? (value? d)) ((skipSpace s).length + 1) [] (skipSpace s)).map
        fun (ms, s) => (.object ms, s) := by
  rw [value?]
  split
  · next r hr => exact absurd hr (h r)
  · rw [membersRest?_eq_listRest?]

theorem value?_of_scalar {x : Json} (h : scalar? s = some (x, r)) (d : Nat) : value? d s = some (x, r) := by
  cases d with
  | zero => exact h
  | succ d =>
    unfold value?
    split
    · cases h
    · cases h
    · exact h

theorem depth_of_scalar? {x : Json} (h : scalar? s = some (x, r)) : x.depth = 0 := by
  unfold scalar? at h
  split at h
  case h_1 | h_5 =>
    obtain ⟨y, -, h⟩ := Option.map_eq_some_iff.1 h
    cases h
    rfl
  all_goals
    cases h
    rfl

theorem value?_nil (d : Nat) : value? d [] = none := by
  cases d <;> rfl

/-- How a value is read with room for `d` arrays and objects inside it. -/
inductive Nested (d : Nat) : List Char → Json → List Char → Prop where
  | scalar {s r : List Char} {x : Json} : scalar? s = some (x, r) → Nested d s x r
  | arrayNil {s r : List Char} : skipSpace s = ']' :: r → Nested d ('[' :: s) (.array []) r
  | array {s r : List Char} {xs : List Json} : (∀ r, skipSpace s ≠ ']' :: r) →
    listRest? ']' (fun s => value? d (skipSpace s)) ((skipSpace s).length + 1) [] (skipSpace s) = some (xs, r) →
    Nested d ('[' :: s) (.array xs) r
  | objectNil {s r : List Char} : skipSpace s = '\x7d' :: r → Nested d ('\x7b' :: s) (.object []) r
  | object {s r : List Char} {ms : List (String × Json)} : (∀ r, skipSpace s ≠ '\x7d' :: r) →
    listRest? '\x7d' (readMember? (value? d)) ((skipSpace s).length + 1) [] (skipSpace s) = some (ms, r) →
    Nested d ('\x7b' :: s) (.object ms) r

theorem nested_of_value? {d : Nat} {x : Json} (h : value? (d + 1) s = some (x, r)) : Nested d s x r := by
  by_cases harray : ∃ s₁, s = '[' :: s₁
  · obtain ⟨s₁, rfl⟩ := harray
    by_cases hnil : ∃ r, skipSpace s₁ = ']' :: r
    · obtain ⟨r', hr⟩ := hnil
      rw [value?_array_nil hr] at h
      cases h
      exact .arrayNil hr
    · rw [value?_array (not_exists.1 hnil)] at h
      obtain ⟨⟨xs, r'⟩, hxs, h⟩ := Option.map_eq_some_iff.1 h
      cases h
      exact .array (not_exists.1 hnil) hxs
  by_cases hobject : ∃ s₁, s = '\x7b' :: s₁
  · obtain ⟨s₁, rfl⟩ := hobject
    by_cases hnil : ∃ r, skipSpace s₁ = '\x7d' :: r
    · obtain ⟨r', hr⟩ := hnil
      rw [value?_object_nil hr] at h
      cases h
      exact .objectNil hr
    · rw [value?_object (not_exists.1 hnil)] at h
      obtain ⟨⟨ms, r'⟩, hms, h⟩ := Option.map_eq_some_iff.1 h
      cases h
      exact .object (not_exists.1 hnil) hms
  rw [value?] at h
  · exact .scalar h
  · exact fun s₁ hs => harray ⟨s₁, hs⟩
  · exact fun s₁ hs => hobject ⟨s₁, hs⟩

theorem exists_of_readMember? {item : List Char → Option (Json × List Char)} {m : String × Json}
    (h : readMember? item s = some (m, r)) : ∃ s₁, item (skipSpace s₁) = some (m.2, r) := by
  obtain ⟨s₁, -, h⟩ := Option.bind_eq_some_iff.1 h
  obtain ⟨⟨key, s₂⟩, -, h⟩ := Option.bind_eq_some_iff.1 h
  obtain ⟨s₃, -, h⟩ := Option.bind_eq_some_iff.1 h
  obtain ⟨⟨x, s₄⟩, hx, h⟩ := Option.map_eq_some_iff.1 h
  cases h
  exact ⟨s₃, hx⟩

/-- **Depth.** A value that is read fits the depth. -/
theorem depth_le_of_value? {d : Nat} {x : Json} (h : value? d s = some (x, r)) : x.depth ≤ d := by
  induction d generalizing s x r with
  | zero => exact Nat.le_of_eq (depth_of_scalar? h)
  | succ d ih =>
    cases nested_of_value? h with
    | scalar h => simp [depth_of_scalar? h]
    | arrayNil | objectNil => simp [depth, depthItems, depthMembers]
    | array _ hxs =>
      refine Nat.succ_le_succ (depthItems_le.2 (forall_of_listRest? (by decide) ?_ (List.forall_mem_nil _) hxs))
      exact fun _ _ _ hx => ih hx
    | object _ hms =>
      refine Nat.succ_le_succ (depthMembers_le.2 (forall_of_listRest? (by decide) ?_ (List.forall_mem_nil _) hms))
      intro _ _ _ hm
      obtain ⟨_, hx⟩ := exists_of_readMember? hm
      exact ih hx

theorem readMember?_append {item item' : List Char → Option (Json × List Char)} {d : Nat} (hnil : item [] = none)
    (hitem : ∀ s x r, item s = some (x, r) → x.depth ≤ d → item' (s ++ t) = some (x, r ++ t)) {m : String × Json}
    (h : readMember? item s = some (m, r)) (hm : m.2.depth ≤ d) :
    readMember? item' (s ++ t) = some (m, r ++ t) := by
  obtain ⟨s₁, hs₁, h⟩ := Option.bind_eq_some_iff.1 h
  obtain ⟨⟨key, s₂⟩, hkey, h⟩ := Option.bind_eq_some_iff.1 h
  obtain ⟨s₃, hs₃, h⟩ := Option.bind_eq_some_iff.1 h
  obtain ⟨⟨x, s₄⟩, hx, h⟩ := Option.map_eq_some_iff.1 h
  cases h
  simp [readMember?, behind?_append hs₁, stringBody?_append hkey, behind?_append hs₃,
    skipSpace_append (ne_nil_of_some hnil hx), hitem _ _ _ hx hm]

theorem listRest?_nil {α : Type} {close : Char} {entry : List Char → Option (α × List Char)}
    (hnil : entry [] = none) (fuel : Nat) (read : List α) : listRest? close entry fuel read [] = none := by
  cases fuel with
  | zero => rfl
  | succ fuel =>
    rw [listRest?, hnil]
    rfl

theorem skipSpace_append_ne {c : Char} (hne : skipSpace s ≠ []) (h : ∀ r, skipSpace s ≠ c :: r) (t : List Char) :
    ∀ r, skipSpace (s ++ t) ≠ c :: r := by
  intro r
  rw [skipSpace_append hne]
  cases hs : skipSpace s with
  | nil => exact absurd hs hne
  | cons c' s' =>
    intro heq
    exact h s' (by rw [hs, (List.cons.inj heq).1])

/-- **What follows.** A value that is read is read before whatever does not go on a number, and at every depth that
it fits. -/
theorem value?_append {d d' : Nat} (ht : Ends t) {x : Json} (h : value? d s = some (x, r)) (hd : x.depth ≤ d') :
    value? d' (s ++ t) = some (x, r ++ t) := by
  induction d generalizing s x r d' with
  | zero => exact value?_of_scalar (scalar?_append ht h) d'
  | succ d ih =>
    cases nested_of_value? h with
    | scalar h => exact value?_of_scalar (scalar?_append ht h) d'
    | @arrayNil s₁ _ hnil =>
      obtain ⟨d', rfl⟩ := Nat.exists_eq_succ_of_ne_zero (Nat.ne_of_gt hd)
      rw [List.cons_append, value?_array_nil (skipSpace_append_of_cons hnil)]
    | @objectNil s₁ _ hnil =>
      obtain ⟨d', rfl⟩ := Nat.exists_eq_succ_of_ne_zero (Nat.ne_of_gt hd)
      rw [List.cons_append, value?_object_nil (skipSpace_append_of_cons hnil)]
    | @array s₁ _ xs hnil hxs =>
      obtain ⟨d', rfl⟩ : ∃ k, d' = k + 1 := ⟨d' - 1, by rw [depth] at hd; omega⟩
      have hne := ne_nil_of_some (listRest?_nil (by exact value?_nil d) _ _) hxs
      have hitems : ∀ x ∈ xs, x.depth ≤ d' := depthItems_le.1 (Nat.le_of_succ_le_succ hd)
      rw [List.cons_append, value?_array (skipSpace_append_ne hne hnil t), skipSpace_append hne,
        listRest?_append (by decide) ?_ (by simp) hxs hitems]
      · rfl
      · intro s x r hx hx'
        rw [skipSpace_append (ne_nil_of_some (value?_nil d) hx)]
        exact ih hx hx'
    | @object s₁ _ ms hnil hms =>
      obtain ⟨d', rfl⟩ : ∃ k, d' = k + 1 := ⟨d' - 1, by rw [depth] at hd; omega⟩
      have hne := ne_nil_of_some (listRest?_nil rfl _ _) hms
      have hmembers : ∀ m ∈ ms, m.2.depth ≤ d' := depthMembers_le.1 (Nat.le_of_succ_le_succ hd)
      rw [List.cons_append, value?_object (skipSpace_append_ne hne hnil t), skipSpace_append hne,
        listRest?_append (by decide) ?_ (by simp) hms hmembers]
      · rfl
      · exact fun _ _ _ hm hm' => readMember?_append (value?_nil d) (fun _ _ _ hx hx' => ih hx hx') hm hm'

/-- A value that nests too deep for a depth is not read at it. -/
theorem value?_append_of_deep {d d' : Nat} (ht : Ends t) {x : Json} (h : value? d s = some (x, r))
    (hd : d' < x.depth) : value? d' (s ++ t) = none := by
  refine Option.eq_none_iff_forall_ne_some.2 fun found hy => ?_
  obtain ⟨y, r'⟩ := found
  have hdeep : value? (max d d') (s ++ t) = some (x, r ++ t) :=
    value?_append ht h (Nat.le_trans (depth_le_of_value? h) (Nat.le_max_left ..))
  -- whatever is read at the lesser depth is read at the greater one as well
  have hsame := value?_append JsonNumber.ends_nil hy (Nat.le_trans (depth_le_of_value? hy) (Nat.le_max_right d d'))
  rw [List.append_nil, hdeep] at hsame
  obtain ⟨rfl, -⟩ := Prod.mk.inj (Option.some.inj hsame)
  exact absurd (depth_le_of_value? hy) (Nat.not_le.2 hd)

end OracleIntake.Json

import OracleIntake.Json.Number

/-!
# What follows a JSON number

A number at the start of a text is read alike whatever follows it, as long as that does not go on the number.

* `Ends`: what does not go on a number.
* `read?_append`: the number before whatever ends it.
-/
namespace OracleIntake

section
variable {p : Char → Bool} {s t : List Char}

theorem takeWhile_append_of_head (h : ∀ c ∈ t.head?, p c = false) :
    (s ++ t).takeWhile p = s.takeWhile p := by
  induction s with
  | nil =>
    cases t with
    | nil => rfl
    | cons c t => exact List.takeWhile_cons_of_neg (by simp [h c rfl])
  | cons c s ih => simp only [List.cons_append, List.takeWhile_cons, ih]

theorem dropWhile_append_of_head (h : ∀ c ∈ t.head?, p c = false) :
    (s ++ t).dropWhile p = s.dropWhile p ++ t := by
  induction s with
  | nil =>
    cases t with
    | nil => rfl
    | cons c t => exact List.dropWhile_cons_of_neg (by simp [h c rfl])
  | cons c s ih =>
    simp only [List.cons_append, List.dropWhile_cons, ih]
    split <;> rfl

end

namespace JsonNumber

/-- The text does not go on a number. -/
def Ends (t : List Char) : Prop := ∀ c ∈ t.head?, c.isDigit = false ∧ c ≠ '.' ∧ c ≠ 'e' ∧ c ≠ 'E'

variable {s t r : List Char}

theorem ends_nil : Ends [] := nofun

theorem ends_cons {c : Char} (h : c.isDigit = false ∧ c ≠ '.' ∧ c ≠ 'e' ∧ c ≠ 'E') (t : List Char) :
    Ends (c :: t) := by
  intro c' hc
  cases hc
  exact h

theorem Ends.isDigit (h : Ends t) : ∀ c ∈ t.head?, c.isDigit = false := fun c hc => (h c hc).1

/-- Digits that do not write a number: none, or a zero with more behind it. -/
def refusesWhole (whole : List Char) : Bool := whole.isEmpty || (whole.head? == some '0' && 1 < whole.length)

theorem base?_of_point {rest : List Char} (h : s.dropWhile Char.isDigit = '.' :: rest) :
    base? s = if refusesWhole (s.takeWhile Char.isDigit) then none
      else if (rest.takeWhile Char.isDigit).isEmpty then none
      else some (s.takeWhile Char.isDigit, some (rest.takeWhile Char.isDigit), rest.dropWhile Char.isDigit) := by
  unfold base?
  rw [h]
  rfl

/-- Where no point follows, the digits are all that goes before the power of ten. -/
theorem base?_of_not_point (h : ∀ rest, s.dropWhile Char.isDigit ≠ '.' :: rest) :
    base? s = if refusesWhole (s.takeWhile Char.isDigit) then none
      else some (s.takeWhile Char.isDigit, none, s.dropWhile Char.isDigit) := by
  unfold base? refusesWhole
  dsimp only
  split
  · rfl
  · split
    · next rest hrest => exact absurd hrest (h rest)
    · rfl

theorem base?_append (ht : Ends t) {whole : List Char} {places : Option (List Char)}
    (h : base? s = some (whole, places, r)) : base? (s ++ t) = some (whole, places, r ++ t) := by
  have hwhole : (s ++ t).takeWhile Char.isDigit = s.takeWhile Char.isDigit := takeWhile_append_of_head ht.isDigit
  have hbehind : (s ++ t).dropWhile Char.isDigit = s.dropWhile Char.isDigit ++ t :=
    dropWhile_append_of_head ht.isDigit
  by_cases hpoint : ∃ rest, s.dropWhile Char.isDigit = '.' :: rest
  · obtain ⟨rest, hrest⟩ := hpoint
    have hrest' : (s ++ t).dropWhile Char.isDigit = '.' :: (rest ++ t) := by rw [hbehind, hrest, List.cons_append]
    rw [base?_of_point hrest] at h
    rw [base?_of_point hrest', hwhole, takeWhile_append_of_head ht.isDigit, dropWhile_append_of_head ht.isDigit]
    split at h
    · cases h
    next hrefuses =>
    split at h
    · cases h
    next hplaces =>
    rw [if_neg hrefuses, if_neg hplaces]
    cases h
    rfl
  · have hpoint' : ∀ rest, (s ++ t).dropWhile Char.isDigit ≠ '.' :: rest := by
      intro rest hrest
      rcases List.append_eq_cons_iff.1 (hbehind.symm.trans hrest) with ⟨-, rfl⟩ | ⟨rest', hrest', -⟩
      · exact (ht '.' rfl).2.1 rfl
      · exact hpoint ⟨rest', hrest'⟩
    rw [base?_of_not_point (not_exists.1 hpoint)] at h
    rw [base?_of_not_point hpoint', hwhole, hbehind]
    split at h
    · cases h
    next hrefuses =>
    rw [if_neg hrefuses]
    cases h
    rfl

/-- A power of ten behind its sign, and what follows. -/
def unsignedPower? (sign : Int) (s : List Char) : Option (Int × List Char) :=
  if (s.takeWhile Char.isDigit).isEmpty then none
  else some (sign * Nat.ofDigitChars 10 (s.takeWhile Char.isDigit) 0, s.dropWhile Char.isDigit)

theorem unsignedPower?_append (ht : Ends t) (sign : Int) {e : Int} (h : unsignedPower? sign s = some (e, r)) :
    unsignedPower? sign (s ++ t) = some (e, r ++ t) := by
  unfold unsignedPower? at h ⊢
  rw [takeWhile_append_of_head ht.isDigit, dropWhile_append_of_head ht.isDigit]
  split at h
  · cases h
  next hne =>
  rw [if_neg hne]
  cases h
  rfl

theorem power?_of_unsigned {c : Char} (hminus : c ≠ '-') (hplus : c ≠ '+') (s : List Char) :
    power? (c :: s) = unsignedPower? 1 (c :: s) := by
  unfold power?
  split
  next sign s' heq =>
  split at heq
  · next h => exact absurd (List.cons.inj h).1 hminus
  · next h => exact absurd (List.cons.inj h).1 hplus
  · cases heq
    rfl

theorem power?_append (ht : Ends t) {e : Int} (h : power? s = some (e, r)) :
    power? (s ++ t) = some (e, r ++ t) := by
  cases s with
  | nil => cases h
  | cons c s =>
    by_cases hminus : c = '-'
    · subst hminus
      exact unsignedPower?_append ht (-1) h
    by_cases hplus : c = '+'
    · subst hplus
      exact unsignedPower?_append ht 1 h
    rw [power?_of_unsigned hminus hplus] at h
    rw [List.cons_append, power?_of_unsigned hminus hplus, ← List.cons_append]
    exact unsignedPower?_append ht 1 h

/-- A number with a power of ten, and what follows. -/
def scaled? (negative : Bool) (d : Digits) (s : List Char) : Option (JsonNumber × List Char) :=
  (power? s).bind fun (e, s) =>
    (Digits.double? negative { d with exponent := d.exponent + e }).map fun x => (x, s)

theorem scaled?_append (ht : Ends t) {negative : Bool} {d : Digits} {x : JsonNumber}
    (h : scaled? negative d s = some (x, r)) : scaled? negative d (s ++ t) = some (x, r ++ t) := by
  unfold scaled? at h ⊢
  obtain ⟨⟨e, s'⟩, hpower, h⟩ := Option.bind_eq_some_iff.1 h
  obtain ⟨x', hx, h⟩ := Option.map_eq_some_iff.1 h
  cases h
  rw [power?_append ht hpower, Option.bind_some]
  dsimp only
  rw [hx]
  rfl

/-- A number with the digits `whole` and `places`, and what follows: `s` may be a power of ten. -/
def withBase? (negative : Bool) (whole : List Char) (places : Option (List Char)) (s : List Char) :
    Option (JsonNumber × List Char) :=
  let d := (Digits.whole ⟨0, 0⟩ whole).fraction (places.getD [])
  match s with
  | 'e' :: s | 'E' :: s => scaled? negative d s
  | s => (if places.isSome then d.double? negative else ofDigits? negative whole).map fun x => (x, s)

theorem unsigned?_eq_bind (negative : Bool) (s : List Char) :
    unsigned? negative s = (base? s).bind fun (whole, places, s) => withBase? negative whole places s := by
  unfold unsigned?
  refine congrArg (base? s).bind (funext fun parts => ?_)
  obtain ⟨whole, places, s'⟩ := parts
  unfold withBase? scaled?
  dsimp only
  split
  · simp only [Option.map_eq_bind, Option.bind_eq_bind]
    rfl
  · simp only [Option.map_eq_bind, Option.bind_eq_bind]
    rfl
  · split <;> simp only [Option.map_eq_bind, Option.bind_eq_bind] <;> rfl

theorem withBase?_of_plain {negative : Bool} {whole : List Char} {places : Option (List Char)}
    (h : ∀ c ∈ s.head?, c ≠ 'e' ∧ c ≠ 'E') :
    withBase? negative whole places s =
      (if places.isSome then ((Digits.whole ⟨0, 0⟩ whole).fraction (places.getD [])).double? negative
        else ofDigits? negative whole).map fun x => (x, s) := by
  unfold withBase?
  dsimp only
  split
  · exact absurd rfl (h 'e' rfl).1
  · exact absurd rfl (h 'E' rfl).2
  · rfl

theorem withBase?_append (ht : Ends t) {negative : Bool} {whole : List Char} {places : Option (List Char)}
    {x : JsonNumber} (h : withBase? negative whole places s = some (x, r)) :
    withBase? negative whole places (s ++ t) = some (x, r ++ t) := by
  have hplain : (∀ c ∈ s.head?, c ≠ 'e' ∧ c ≠ 'E') →
      withBase? negative whole places (s ++ t) = some (x, r ++ t) := by
    intro hs
    have hst : ∀ c ∈ (s ++ t).head?, c ≠ 'e' ∧ c ≠ 'E' := by
      cases s with
      | nil => exact fun c hc => (ht c hc).2.2
      | cons c s => exact hs
    rw [withBase?_of_plain hs] at h
    rw [withBase?_of_plain hst]
    obtain ⟨x', hx, h⟩ := Option.map_eq_some_iff.1 h
    cases h
    rw [hx]
    rfl
  cases s with
  | nil => exact hplain nofun
  | cons c s =>
    by_cases hlower : c = 'e'
    · subst hlower
      exact scaled?_append (s := s) ht h
    by_cases hupper : c = 'E'
    · subst hupper
      exact scaled?_append (s := s) ht h
    refine hplain fun c' hc' => ?_
    cases hc'
    exact ⟨hlower, hupper⟩

theorem unsigned?_append (ht : Ends t) {negative : Bool} {x : JsonNumber}
    (h : unsigned? negative s = some (x, r)) : unsigned? negative (s ++ t) = some (x, r ++ t) := by
  rw [unsigned?_eq_bind] at h ⊢
  obtain ⟨⟨whole, places, s'⟩, hbase, h⟩ := Option.bind_eq_some_iff.1 h
  rw [base?_append ht hbase]
  exact withBase?_append ht h

theorem read?_of_unsigned {c : Char} (h : c ≠ '-') (s : List Char) :
    read? (c :: s) = unsigned? false (c :: s) := by
  unfold read?
  split
  · next heq => exact absurd (List.cons.inj heq).1 h
  · rfl

theorem read?_append (ht : Ends t) {x : JsonNumber} (h : read? s = some (x, r)) :
    read? (s ++ t) = some (x, r ++ t) := by
  cases s with
  | nil => cases h
  | cons c s =>
    by_cases hminus : c = '-'
    · subst hminus
      exact unsigned?_append (s := s) ht h
    · rw [read?_of_unsigned hminus] at h
      rw [List.cons_append, read?_of_unsigned hminus, ← List.cons_append]
      exact unsigned?_append ht h

theorem exists_cons_of_read? {x : JsonNumber} (h : read? s = some (x, r)) :
    ∃ c s', s = c :: s' ∧ (c.isDigit = true ∨ c = '-') := by
  cases s with
  | nil => cases h
  | cons c s =>
    refine ⟨c, s, rfl, ?_⟩
    by_cases hminus : c = '-'
    · exact .inr hminus
    refine .inl ?_
    rw [read?_of_unsigned hminus, unsigned?_eq_bind] at h
    obtain ⟨base, hbase, -⟩ := Option.bind_eq_some_iff.1 h
    cases hc : c.isDigit with
    | true => rfl
    | false => simp [base?, hc] at hbase

end JsonNumber
end OracleIntake

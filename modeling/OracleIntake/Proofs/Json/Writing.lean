import Mathlib.Data.List.DropRight
import OracleIntake.Json.Writer
import OracleIntake.Proofs.Json.Following

/-!
# Reading what was written

Strings and numbers are read back as they were written, and an array or an object that is put together from texts
is read as the values that the texts are read as. `ReadAs` says how a text is read wherever it stands, or that it
is refused there.

* `readAs_string`, `readAs_natural`: what is written is read back.
* `readAs_of_parse?`: a text that is a value by itself is read as it within other texts, unless it nests too deep.
* `readAs_array`, `readAs_object`: arrays and objects of such texts.
-/
namespace OracleIntake
open JsonNumber (Ends)

/-! ## Numbers -/

/-- A numeral of more than one digit does not start with a zero. -/
theorem head?_toDigits_ne {n : Nat} (h : 10 ≤ n) : (Nat.toDigits 10 n).head? ≠ some '0' := by
  induction n using Nat.strongRecOn with
  | _ n ih =>
    obtain ⟨c, cs, hcs⟩ := List.exists_cons_of_ne_nil (Nat.toDigits_ne_nil (b := 10) (n := n / 10))
    rw [Nat.toDigits_of_base_le (by decide) h, hcs]
    by_cases hn : 10 ≤ n / 10
    · have hhead := ih (n / 10) (by omega) hn
      rwa [hcs] at hhead
    · have hdigit : ∀ d : Fin 10, d.val ≠ 0 → Nat.digitChar d ≠ '0' := by decide
      rw [Nat.toDigits_of_lt_base (by omega)] at hcs
      obtain ⟨rfl, -⟩ := List.cons.inj hcs
      simpa using hdigit ⟨n / 10, by omega⟩ (by dsimp only; omega)

namespace JsonNumber

theorem not_refusesWhole_toDigits (n : Nat) : refusesWhole (Nat.toDigits 10 n) = false := by
  have hne : (Nat.toDigits 10 n).isEmpty = false := by simp
  by_cases hn : 10 ≤ n
  · simp [refusesWhole, head?_toDigits_ne hn]
  · simp [refusesWhole, Nat.toDigits_of_lt_base (Nat.not_le.1 hn)]

theorem read?_toDigits {n : Nat} (h : n ≤ max64) : read? (Nat.toDigits 10 n) = some (.integer n, []) := by
  have hdigits : ∀ c ∈ Nat.toDigits 10 n, c.isDigit = true := fun c hc =>
    Nat.isDigit_of_mem_toDigits (by decide) (by decide) hc
  have hwhole : (Nat.toDigits 10 n).takeWhile Char.isDigit = Nat.toDigits 10 n :=
    List.takeWhile_eq_self_iff.2 hdigits
  have hrest : (Nat.toDigits 10 n).dropWhile Char.isDigit = [] := List.dropWhile_eq_nil_iff.2 hdigits
  have hbase : base? (Nat.toDigits 10 n) = some (Nat.toDigits 10 n, none, []) := by
    rw [base?_of_not_point (by simp [hrest]), hwhole, hrest, not_refusesWhole_toDigits]
    rfl
  obtain ⟨c, cs, hcs⟩ := List.exists_cons_of_ne_nil (Nat.toDigits_ne_nil (b := 10) (n := n))
  have hminus : c ≠ '-' := by
    rintro rfl
    exact absurd (hdigits '-' (by simp [hcs])) (by decide)
  rw [hcs, read?_of_unsigned hminus, ← hcs, unsigned?_eq_bind, hbase, Option.bind_some]
  dsimp only
  rw [withBase?_of_plain (by simp)]
  simp [ofDigits?, Nat.ofDigitChars_toDigits, h]

end JsonNumber

namespace Json
variable {d : Nat} {s t r text : List Char}

/-! ## Strings -/

theorem unicodeEscape?_control {c : Char} (h : c.toNat < 0x20) (s : List Char) :
    unicodeEscape? (List.replicate (4 - (Nat.toDigits 16 c.toNat).length) '0' ++ Nat.toDigits 16 c.toNat ++ s) =
      some (c, s) := by
  have hall : ∀ n : Fin 32,
      unicodeEscape? (List.replicate (4 - (Nat.toDigits 16 n).length) '0' ++ Nat.toDigits 16 n) =
        some (Char.ofNat n, []) := by decide +kernel
  have hc := unicodeEscape?_append (t := s) (hall ⟨c.toNat, h⟩)
  simpa using hc

theorem stringRest?_writeChar (c : Char) (fuel : Nat) (read s : List Char) :
    stringRest? (fuel + 1) read (writeChar c ++ s) = stringRest? fuel (c :: read) s := by
  unfold writeChar
  split
  case h_8 hquote hbackslash _ _ _ _ _ =>
    split
    next hcontrol =>
      have hescape : escape? ('u' ::
          (List.replicate (4 - (Nat.toDigits 16 c.toNat).length) '0' ++ Nat.toDigits 16 c.toNat ++ s)) =
            some (c, s) := unicodeEscape?_control hcontrol s
      simp only [List.cons_append, List.nil_append]
      simp only [stringRest?, hescape]
      rfl
    next hcontrol =>
      have hquote : c ≠ '"' := hquote
      have hbackslash : c ≠ '\\' := hbackslash
      simp [stringRest?, hquote, hbackslash, hcontrol]
  all_goals rfl

theorem writeChar_ne_nil (c : Char) : writeChar c ≠ [] := by
  unfold writeChar
  split
  case h_8 => split <;> simp
  all_goals simp

theorem length_le_written (cs : List Char) : cs.length ≤ (cs.flatMap writeChar).length := by
  induction cs with
  | nil => exact Nat.zero_le _
  | cons c cs ih =>
    have hpos := List.length_pos_iff.2 (writeChar_ne_nil c)
    rw [List.flatMap_cons, List.length_append, List.length_cons]
    omega

theorem stringRest?_written (cs : List Char) {fuel : Nat} (hfuel : cs.length < fuel) (read s : List Char) :
    stringRest? fuel read (cs.flatMap writeChar ++ '"' :: s) = some (read.reverse ++ cs, s) := by
  induction cs generalizing fuel read with
  | nil =>
    obtain ⟨fuel, rfl⟩ := Nat.exists_eq_succ_of_ne_zero (Nat.ne_of_gt hfuel)
    simp [stringRest?]
  | cons c cs ih =>
    obtain ⟨fuel, rfl⟩ := Nat.exists_eq_succ_of_ne_zero (Nat.ne_of_gt (Nat.zero_lt_of_lt hfuel))
    rw [List.flatMap_cons, List.append_assoc, stringRest?_writeChar, ih (Nat.lt_of_succ_lt_succ hfuel)]
    simp

/-- **Strings.** A string is read back as it was written. -/
theorem stringBody?_written (x : String) (s : List Char) :
    stringBody? (x.toList.flatMap writeChar ++ '"' :: s) = some (x, s) := by
  have hlength := length_le_written x.toList
  rw [stringBody?, stringRest?_written x.toList (by rw [List.length_append]; omega)]
  simp

/-! ## Texts within texts -/

/-- Wherever the text stands with a number not going on behind it, it is read as `x` with space behind it, or
refused if `x` is none. -/
def ReadAs (d : Nat) (text : List Char) (x : Option Json) : Prop :=
  ∀ t, Ends t →
    (value? d (skipSpace (text ++ t))).map (Prod.map id skipSpace) = x.map (·, skipSpace t)

theorem ReadAs.of_some {x : Json} (h : ReadAs d text (some x)) (ht : Ends t) :
    ∃ r, value? d (skipSpace (text ++ t)) = some (x, r) ∧ skipSpace r = skipSpace t := by
  obtain ⟨⟨y, r⟩, hy, heq⟩ := Option.map_eq_some_iff.1 ((h t ht).trans (Option.map_some ..))
  obtain ⟨rfl, hr⟩ := Prod.mk.inj heq
  exact ⟨r, hy, hr⟩

theorem ReadAs.of_none (h : ReadAs d text none) (ht : Ends t) : value? d (skipSpace (text ++ t)) = none :=
  Option.map_eq_none_iff.1 (h t ht)

theorem skipSpace_cons {c : Char} (h : isSpace c = false) (s : List Char) : skipSpace (c :: s) = c :: s :=
  List.dropWhile_cons_of_neg (by simp [h])

theorem skipSpace_skipSpace (s : List Char) : skipSpace (skipSpace s) = skipSpace s :=
  List.dropWhile_idempotent ..

theorem readAs_string (x : String) : ReadAs d (writeString x).toList (some (.string x)) := by
  intro t _
  have htext : (writeString x).toList ++ t = '"' :: (x.toList.flatMap writeChar ++ '"' :: t) := by
    simp [writeString]
  have hscalar : scalar? ('"' :: (x.toList.flatMap writeChar ++ '"' :: t)) = some (.string x, t) := by
    rw [scalar?, stringBody?_written]
    rfl
  rw [htext, skipSpace_cons rfl, value?_of_scalar hscalar d]
  rfl

theorem isSpace_of_number {c : Char} (hc : c.isDigit = true ∨ c = '-') : isSpace c = false := by
  cases hspace : isSpace c with
  | false => rfl
  | true =>
    simp only [isSpace, Bool.or_eq_true, beq_iff_eq] at hspace
    rcases hspace with ((rfl | rfl) | rfl) | rfl <;> revert hc <;> decide

theorem readAs_natural {n : Nat} (h : n ≤ max64) : ReadAs d (toString n).toList (some (.number (.integer n))) := by
  intro t ht
  have hread := JsonNumber.read?_append ht (JsonNumber.read?_toDigits h)
  obtain ⟨c, s, hcs, hc⟩ := JsonNumber.exists_cons_of_read? hread
  have hscalar : scalar? (Nat.toDigits 10 n ++ t) = some (.number (.integer n), t) := by
    rw [hcs, scalar?_of_number hc, ← hcs, hread]
    rfl
  rw [Nat.toString_eq_repr, Nat.toList_repr, hcs, skipSpace_cons (isSpace_of_number hc), ← hcs,
    value?_of_scalar hscalar d]
  rfl

theorem parse?_eq_some {text : String} {x : Json} :
    parse? text = some x ↔ ∃ r, value? 127 (skipSpace text.toList) = some (x, r) ∧ skipSpace r = [] := by
  unfold parse?
  constructor
  · intro h
    split at h
    · next y r hy =>
      split at h
      · next hr =>
        cases h
        exact ⟨r, hy, List.isEmpty_iff.1 hr⟩
      · cases h
    · cases h
  · rintro ⟨r, hx, hr⟩
    simp [hx, hr]

theorem skipSpace_append_of_nil (h : skipSpace s = []) (t : List Char) : skipSpace (s ++ t) = skipSpace t := by
  unfold skipSpace at h ⊢
  rw [List.dropWhile_append, h]
  rfl

/-- A text that is a value by itself is read as that value, or refused where the value nests too deep. -/
theorem readAs_of_parse? {text : String} {x : Json} (h : parse? text = some x) (d : Nat) :
    ReadAs d text.toList (if x.depth ≤ d then some x else none) := by
  intro t ht
  obtain ⟨r, hx, hr⟩ := parse?_eq_some.1 h
  rw [skipSpace_append (ne_nil_of_some (value?_nil 127) hx)]
  split
  next hd =>
    rw [value?_append ht hx hd, Option.map_some, Option.map_some, ← skipSpace_append_of_nil hr t]
    rfl
  next hd =>
    rw [value?_append_of_deep ht hx (Nat.not_le.1 hd)]
    rfl

/-- A text that is a value by itself does not begin with a bracket that closes an array. -/
theorem ne_close_of_parse? {text : String} {x : Json} (h : parse? text = some x) (t r : List Char) :
    skipSpace (text.toList ++ t) ≠ ']' :: r := by
  obtain ⟨r', hx, -⟩ := parse?_eq_some.1 h
  refine skipSpace_append_ne (ne_nil_of_some (value?_nil 127) hx) (fun s h => ?_) t r
  rw [h] at hx
  cases hx

theorem readAs_array {text : String} {x : Option Json} (h : ReadAs d text.toList x)
    (hne : ∀ t r, skipSpace (text.toList ++ t) ≠ ']' :: r) :
    ReadAs (d + 1) ("[" ++ text ++ "]").toList (x.map fun x => .array [x]) := by
  intro t _
  have hclose : Ends (']' :: t) := JsonNumber.ends_cons (by decide) t
  have htext : ("[" ++ text ++ "]").toList ++ t = '[' :: (text.toList ++ ']' :: t) := by simp
  rw [htext, skipSpace_cons rfl, value?_array (hne _), listRest?, skipSpace_skipSpace]
  cases x with
  | none =>
    rw [h.of_none hclose]
    rfl
  | some x =>
    obtain ⟨r, hx, hr⟩ := h.of_some hclose
    rw [hx, Option.bind_some]
    simp [hr, skipSpace_cons (c := ']') rfl]

/-! ## Objects -/

/-- The members of an object, each with the text of its value. -/
def membersText (members : List (String × String)) : String :=
  ",".intercalate (members.map fun (key, text) => writeString key ++ ":" ++ text)

/-- An object of such members. -/
def objectText (members : List (String × String)) : String := "\x7b" ++ membersText members ++ "\x7d"

/-- The texts of the values are read as these, or one of them is refused. -/
inductive MembersReadAs (d : Nat) : List (String × String) → Option (List (String × Json)) → Prop where
  | nil : MembersReadAs d [] (some [])
  | cons (key : String) {text : String} {x : Option Json} {ms : List (String × String)}
    {ys : Option (List (String × Json))} :
    ReadAs d text.toList x → MembersReadAs d ms ys →
    MembersReadAs d ((key, text) :: ms) (x.bind fun x => ys.map ((key, x) :: ·))

theorem MembersReadAs.append {ms ms' : List (String × String)} {ys ys' : Option (List (String × Json))}
    (h : MembersReadAs d ms ys) (h' : MembersReadAs d ms' ys') :
    MembersReadAs d (ms ++ ms') (ys.bind fun ys => ys'.map (ys ++ ·)) := by
  induction h with
  | nil => simpa using h'
  | @cons key text x ms ys hx _ ih =>
    have hcons := MembersReadAs.cons key hx ih
    cases x <;> cases ys <;> cases ys' <;> exact hcons

theorem membersText_singleton (key text : String) :
    (membersText [(key, text)]).toList = (writeString key).toList ++ ':' :: text.toList := by
  simp [membersText]

theorem membersText_cons (key text : String) {ms : List (String × String)} (hne : ms ≠ []) :
    (membersText ((key, text) :: ms)).toList =
      (writeString key).toList ++ ':' :: (text.toList ++ ',' :: (membersText ms).toList) := by
  obtain ⟨m, ms, rfl⟩ := List.exists_cons_of_ne_nil hne
  simp [membersText]

theorem readMember?_written (item : List Char → Option (Json × List Char)) (key : String) (s : List Char) :
    readMember? item ((writeString key).toList ++ ':' :: s) =
      (item (skipSpace s)).map fun (x, s) => ((key, x), s) := by
  have htext : (writeString key).toList ++ ':' :: s = '"' :: (key.toList.flatMap writeChar ++ '"' :: ':' :: s) := by
    simp [writeString]
  rw [htext, readMember?, behind?_eq_some.2 (skipSpace_cons rfl _), Option.bind_some, stringBody?_written,
    Option.bind_some]
  dsimp only
  rw [behind?_eq_some.2 (skipSpace_cons rfl _), Option.bind_some]

theorem listRest?_members {ms : List (String × String)} {ys : Option (List (String × Json))}
    (h : MembersReadAs d ms ys) (hne : ms ≠ []) {fuel : Nat} (hfuel : ms.length ≤ fuel)
    (read : List (String × Json)) (t : List Char) :
    listRest? '\x7d' (readMember? (value? d)) fuel read ((membersText ms).toList ++ '\x7d' :: t) =
      ys.map fun ys => (read.reverse ++ ys, t) := by
  induction h generalizing fuel read with
  | nil => exact absurd rfl hne
  | @cons key text x ms ys hx hms ih =>
    obtain ⟨fuel, rfl⟩ : ∃ k, fuel = k + 1 := ⟨fuel - 1, by rw [List.length_cons] at hfuel; omega⟩
    rw [listRest?]
    by_cases hlast : ms = []
    · subst hlast
      cases hms
      have hclose : Ends ('\x7d' :: t) := JsonNumber.ends_cons (by decide) t
      rw [membersText_singleton, List.append_assoc, List.cons_append, readMember?_written]
      cases x with
      | none =>
        rw [hx.of_none hclose]
        rfl
      | some x =>
        obtain ⟨r, hr, hspace⟩ := hx.of_some hclose
        simp [hr, hspace, skipSpace_cons (c := '\x7d') rfl]
    · have hcomma : Ends (',' :: ((membersText ms).toList ++ '\x7d' :: t)) := JsonNumber.ends_cons (by decide) _
      rw [membersText_cons key text hlast, List.append_assoc, List.cons_append, List.append_assoc, List.cons_append,
        readMember?_written]
      cases x with
      | none =>
        rw [hx.of_none hcomma]
        rfl
      | some x =>
        obtain ⟨r, hr, hspace⟩ := hx.of_some hcomma
        have hrest := ih hlast (Nat.le_of_succ_le_succ hfuel) ((key, x) :: read)
        simp only [hr, Option.map_some, Option.bind_some, hspace, skipSpace_cons (c := ',') rfl, if_true, hrest]
        cases ys <;> simp

theorem exists_membersText {ms : List (String × String)} (hne : ms ≠ []) :
    ∃ s, (membersText ms).toList = '"' :: s := by
  obtain ⟨⟨key, text⟩, ms, rfl⟩ := List.exists_cons_of_ne_nil hne
  by_cases hlast : ms = []
  · subst hlast
    rw [membersText_singleton, writeString, String.toList_ofList]
    exact ⟨_, rfl⟩
  · rw [membersText_cons key text hlast, writeString, String.toList_ofList]
    exact ⟨_, rfl⟩

theorem length_le_membersText (ms : List (String × String)) : ms.length ≤ (membersText ms).toList.length := by
  induction ms with
  | nil => exact Nat.zero_le _
  | cons m ms ih =>
    obtain ⟨key, text⟩ := m
    by_cases hlast : ms = []
    · subst hlast
      rw [membersText_singleton]
      simp only [List.length_append, List.length_cons, List.length_nil]
      omega
    · rw [membersText_cons key text hlast]
      simp only [List.length_append, List.length_cons] at ih ⊢
      omega

/-- **Objects.** An object that is put together from texts is read as the values of the texts. -/
theorem readAs_object {ms : List (String × String)} {ys : Option (List (String × Json))}
    (h : MembersReadAs d ms ys) : ReadAs (d + 1) (objectText ms).toList (ys.map .object) := by
  intro t _
  by_cases hne : ms = []
  · subst hne
    cases h
    have htext : (objectText []).toList ++ t = '\x7b' :: '\x7d' :: t := by simp [objectText, membersText]
    rw [htext, skipSpace_cons rfl, value?_object_nil (skipSpace_cons rfl t)]
    rfl
  · have htext : (objectText ms).toList ++ t = '\x7b' :: ((membersText ms).toList ++ '\x7d' :: t) := by
      simp [objectText]
    obtain ⟨s, hs⟩ := exists_membersText hne
    have hspace : skipSpace ((membersText ms).toList ++ '\x7d' :: t) = (membersText ms).toList ++ '\x7d' :: t := by
      rw [hs]
      exact skipSpace_cons rfl _
    rw [htext, skipSpace_cons rfl, value?_object (by rw [hspace, hs]; nofun), hspace,
      listRest?_members h hne (by have := length_le_membersText ms; rw [List.length_append]; omega)]
    cases ys <;> rfl

theorem parse?_of_readAs {text : String} {x : Option Json} (h : ReadAs 127 text.toList x) : parse? text = x := by
  cases x with
  | none =>
    have hnone := h.of_none JsonNumber.ends_nil
    rw [List.append_nil] at hnone
    rw [parse?, hnone]
  | some x =>
    obtain ⟨r, hx, hr⟩ := h.of_some JsonNumber.ends_nil
    rw [List.append_nil] at hx
    exact parse?_eq_some.2 ⟨r, hx, hr⟩

end Json
end OracleIntake

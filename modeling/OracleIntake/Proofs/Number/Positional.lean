import Mathlib.Data.List.TakeWhile
import OracleIntake.Number.Scientific
import OracleIntake.Proofs.Number.Shortest

/-!
# Doubles and their texts

A double is written in positional notation with its shortest digits. The text consists of digits with at most one
point, it is read as the number that those digits name, and the double nearest to that number is the one written.

* `isPlain_positional`: the characters of the text.
* `read?_positional`: the number that the text is read as.
* `nearest?_positional`: writing and reading give the same double.
-/
namespace OracleIntake

/-! ## Reading digits and a point -/

namespace Scientific
variable {n : Scientific} {s t : List Char}

/-- The number without its sign, as a fraction. -/
def size (n : Scientific) : ℚ := n.coefficient * 10 ^ n.exponent

theorem read?_of_isDigit {c : Char} (hc : c.isDigit = true) (s : List Char) :
    read? (c :: s) = unsigned? false (c :: s) := by
  unfold read?
  split
  · next heq =>
    cases heq
    cases hc
  · next heq =>
    cases heq
    cases hc
  · rfl

theorem unsigned?_digits (negative : Bool) (hs : ∀ c ∈ s, c.isDigit = true) (hne : s ≠ []) :
    unsigned? negative s = some ⟨negative, Nat.ofDigitChars 10 s 0, 0⟩ := by
  have hwhole : s.takeWhile Char.isDigit = s := List.takeWhile_eq_self_iff.2 hs
  have hrest : s.dropWhile Char.isDigit = [] := List.dropWhile_eq_nil_iff.2 hs
  simp [unsigned?, hwhole, hrest, hne, power?]

theorem unsigned?_point (negative : Bool) (hs : ∀ c ∈ s, c.isDigit = true) (hne : s ≠ [])
    (ht : ∀ c ∈ t, c.isDigit = true) :
    unsigned? negative (s ++ '.' :: t) = some ⟨negative, Nat.ofDigitChars 10 (s ++ t) 0, -(t.length : Int)⟩ := by
  have hwhole : (s ++ '.' :: t).takeWhile Char.isDigit = s := by
    rw [List.takeWhile_append_of_pos hs, List.takeWhile_cons_of_neg (by decide), List.append_nil]
  have hrest : (s ++ '.' :: t).dropWhile Char.isDigit = '.' :: t := by
    rw [List.dropWhile_append_of_pos hs, List.dropWhile_cons_of_neg (by decide)]
  have hplaces : t.takeWhile Char.isDigit = t := List.takeWhile_eq_self_iff.2 ht
  have hend : t.dropWhile Char.isDigit = [] := List.dropWhile_eq_nil_iff.2 ht
  simp [unsigned?, hwhole, hrest, hplaces, hend, hne, power?]

theorem read?_digits (hs : ∀ c ∈ s, c.isDigit = true) (hne : s ≠ []) :
    read? s = some ⟨false, Nat.ofDigitChars 10 s 0, 0⟩ := by
  cases s with
  | nil => exact absurd rfl hne
  | cons c s => rw [read?_of_isDigit (hs c List.mem_cons_self), unsigned?_digits false hs hne]

theorem read?_point (hs : ∀ c ∈ s, c.isDigit = true) (hne : s ≠ []) (ht : ∀ c ∈ t, c.isDigit = true) :
    read? (s ++ '.' :: t) = some ⟨false, Nat.ofDigitChars 10 (s ++ t) 0, -(t.length : Int)⟩ := by
  cases s with
  | nil => exact absurd rfl hne
  | cons c s =>
    rw [List.cons_append, read?_of_isDigit (hs c List.mem_cons_self), ← List.cons_append,
      unsigned?_point false hs hne ht]

/-! ## The power of ten that a number reaches -/

theorem size_lt (n : Scientific) :
    n.size < 10 ^ (n.exponent + ((Nat.toDigits 10 n.coefficient).length : Int)) := by
  have hlength : (n.coefficient : ℚ) < 10 ^ (Nat.toDigits 10 n.coefficient).length := by
    exact_mod_cast lt_tenPow_length n.coefficient
  rw [zpow_add₀ (by norm_num), mul_comm, zpow_natCast]
  exact mul_lt_mul_of_pos_right hlength (by positivity)

theorem le_size (n : Scientific) (hpos : 0 < n.coefficient) :
    (10 : ℚ) ^ (n.exponent + ((Nat.toDigits 10 n.coefficient).length : Int) - 1) ≤ n.size := by
  rw [add_sub_assoc, zpow_add₀ (by norm_num), mul_comm]
  exact mul_le_mul_of_nonneg_right (tenZpow_length_le hpos) (by positivity)

/-- No double other than zero is nearest to a number below the least power of ten that counts. -/
theorem reach_ge (n : Scientific) (h : (2 : ℚ) ^ (-1075 : Int) ≤ n.size) :
    -324 ≤ n.exponent + ((Nat.toDigits 10 n.coefficient).length : Int) := by
  have hpow : (10 : ℚ) ^ (-325 : Int) ≤ 2 ^ (-1075 : Int) := by
    rw [zpow_neg, zpow_neg]
    apply inv_anti₀ (by positivity)
    exact_mod_cast (by decide +kernel : 2 ^ 1075 ≤ 10 ^ 325)
  have hlt := hpow.trans_lt (h.trans_lt n.size_lt)
  rw [zpow_lt_zpow_iff_right₀ (by norm_num)] at hlt
  omega

/-- No finite double is nearest to a number beyond the greatest power of ten that counts. -/
theorem reach_le (n : Scientific) (hpos : 0 < n.coefficient) (h : n.size < 2 ^ (1024 : Int)) :
    n.exponent + ((Nat.toDigits 10 n.coefficient).length : Int) ≤ 309 := by
  have hpow : (2 : ℚ) ^ (1024 : Int) ≤ 10 ^ (309 : Int) := by
    exact_mod_cast (by decide +kernel : 2 ^ 1024 ≤ 10 ^ 309)
  have hlt := ((n.le_size hpos).trans_lt h).trans_le hpow
  rw [zpow_lt_zpow_iff_right₀ (by norm_num)] at hlt
  omega

end Scientific

/-! ## The text of a double -/

namespace Magnitude
variable {x : Magnitude}

theorem isDigit_of_mem_toDigits {c : Char} {n : Nat} (h : c ∈ Nat.toDigits 10 n) : c.isDigit = true :=
  Nat.isDigit_of_mem_toDigits (by decide) (by decide) h

theorem isDigit_of_mem_padded {c : Char} {m n : Nat} (h : c ∈ List.replicate m '0' ++ Nat.toDigits 10 n) :
    c.isDigit = true := by
  rcases List.mem_append.1 h with h | h
  · rw [List.eq_of_mem_replicate h]
    rfl
  · exact isDigit_of_mem_toDigits h

theorem isDigit_of_mem_extended {c : Char} {m n : Nat} (h : c ∈ Nat.toDigits 10 n ++ List.replicate m '0') :
    c.isDigit = true :=
  isDigit_of_mem_padded (List.mem_append.2 (List.mem_append.1 h).symm)

theorem isPlain_positional (x : Magnitude) : ∀ c ∈ x.positional, c.isDigit = true ∨ c = '.' := by
  intro c hc
  unfold positional at hc
  simp only at hc
  split at hc
  · left
    split at hc
    · exact isDigit_of_mem_toDigits hc
    · exact isDigit_of_mem_extended hc
  · rcases List.mem_append.1 hc with h | h
    · exact .inl (isDigit_of_mem_padded (List.mem_of_mem_take h))
    · rcases List.mem_cons.1 h with h | h
      · exact .inr h
      · exact .inl (isDigit_of_mem_padded (List.mem_of_mem_drop h))

theorem ofDigitChars_padded (m n : Nat) :
    Nat.ofDigitChars 10 (List.replicate m '0' ++ Nat.toDigits 10 n) 0 = n := by
  rw [Nat.ofDigitChars_append, Nat.ofDigitChars_replicate_zero, Nat.mul_zero,
    Nat.ofDigitChars_toDigits (by decide) (by decide)]

theorem ofDigitChars_extended (m n : Nat) :
    Nat.ofDigitChars 10 (Nat.toDigits 10 n ++ List.replicate m '0') 0 = n * 10 ^ m := by
  rw [Nat.ofDigitChars_append, Nat.ofDigitChars_toDigits (by decide) (by decide),
    Nat.ofDigitChars_replicate_zero, Nat.mul_comm]

theorem read?_positional (x : Magnitude) :
    ∃ n, Scientific.read? x.positional = some n ∧ n.negative = false ∧
      n.size = x.shortest.1 * 10 ^ x.shortest.2 := by
  unfold positional
  obtain ⟨c, k⟩ := x.shortest
  simp only
  by_cases hk : 0 ≤ k
  · rw [if_pos hk]
    by_cases hc : c = 0
    · rw [if_pos hc]
      refine ⟨_, Scientific.read?_digits (fun _ => isDigit_of_mem_toDigits) Nat.toDigits_ne_nil, rfl, ?_⟩
      rw [Scientific.size, Nat.ofDigitChars_toDigits (by decide) (by decide), hc]
      simp
    · rw [if_neg hc]
      refine ⟨_, Scientific.read?_digits (fun _ => isDigit_of_mem_extended) ?_, rfl, ?_⟩
      · exact List.append_ne_nil_of_left_ne_nil Nat.toDigits_ne_nil _
      · obtain ⟨m, rfl⟩ := Int.eq_ofNat_of_zero_le hk
        simp [Scientific.size, ofDigitChars_extended]
  · rw [if_neg hk]
    -- the point stands before the last places, and zeros in front make room for it
    generalize hplaces : (-k).toNat = places
    generalize hpadding : places + 1 - (Nat.toDigits 10 c).length = padding
    have hlength : places < (List.replicate padding '0' ++ Nat.toDigits 10 c).length := by
      rw [List.length_append, List.length_replicate]
      omega
    have hvalue := ofDigitChars_padded padding c
    have hdigits : ∀ d ∈ List.replicate padding '0' ++ Nat.toDigits 10 c, d.isDigit = true :=
      fun _ => isDigit_of_mem_padded
    generalize List.replicate padding '0' ++ Nat.toDigits 10 c = ds at hlength hvalue hdigits ⊢
    refine ⟨_, Scientific.read?_point (fun d hd => hdigits d (List.mem_of_mem_take hd)) ?_
      fun d hd => hdigits d (List.mem_of_mem_drop hd), rfl, ?_⟩
    · rw [ne_eq, List.take_eq_nil_iff, not_or]
      exact ⟨by omega, fun h => by simp [h] at hlength⟩
    · have hexponent : -((ds.drop (ds.length - places)).length : Int) = k := by
        rw [List.length_drop]
        omega
      simp only [Scientific.size, List.take_append_drop, hvalue, hexponent]

theorem positional_ne_nil (x : Magnitude) : x.positional ≠ [] := fun hnil => by
  obtain ⟨n, hread, -, -⟩ := read?_positional x
  rw [hnil] at hread
  cases hread

/-- A number that is rounded to a double other than zero is no smaller than half the smallest of them. -/
theorem Takes.le (hx : x.IsDouble) (hpos : 0 < x.significand) {a : ℚ} (h : x.Takes a) :
    (2 : ℚ) ^ (-1075 : Int) ≤ a := by
  have hm : (2 : ℚ) ≤ x.lowerMidpoint := by
    have hs : (1 : ℚ) ≤ x.significand := by exact_mod_cast hpos
    linarith [le_lowerMidpoint x hpos]
  have hleast := hx.least
  calc (2 : ℚ) ^ (-1075 : Int) = 2 * 2 ^ (-1076 : Int) := by
        rw [← zpow_one_add₀ (by norm_num)]
        norm_num
    _ ≤ x.lowerMidpoint * 2 ^ (x.exponent - 2) := by
        gcongr
        · norm_num
        · omega
    _ ≤ a := h.low

/-- A number that is rounded to a finite double is within the reach of `nearest?`. -/
theorem nearest?_of_takes {n : Scientific} (hx : x.IsDouble) (hpos : 0 < x.significand)
    (hfinite : x.isFinite = true) (h : x.Takes n.size) : n.nearest? = some x := by
  have hexp : x.exponent ≤ 971 := by simpa [isFinite] using hfinite
  have hcoefficient : n.coefficient ≠ 0 := fun hzero => by
    have hsize := h.pos hpos
    simp [Scientific.size, hzero] at hsize
  have hgreatest : n.size < 2 ^ (1024 : Int) :=
    (h.lt hx).trans_le (zpow_le_zpow_right₀ (by norm_num) (by omega))
  have hreach := n.reach_ge (h.le hx hpos)
  have hreach' := n.reach_le (Nat.pos_of_ne_zero hcoefficient) hgreatest
  have hfraction : ((n.coefficient * tenTo n.exponent.toNat : Nat) : ℚ) / (tenTo (-n.exponent).toNat : Nat) =
      n.size := by
    rw [Nat.cast_mul, mul_div_assoc, tenTo_div_tenTo, Scientific.size]
  have hnearest : nearest (n.coefficient * tenTo n.exponent.toNat) (tenTo (-n.exponent).toNat) = x :=
    nearest_of_takes hx hpos (tenTo_pos _) (hfraction ▸ h)
  unfold Scientific.nearest?
  simp only
  rw [if_neg (by omega), if_neg (by omega), hnearest, Option.filter_some, if_pos hfinite]

/-- **Writing and reading a double.** -/
theorem nearest?_positional (hx : x.IsDouble) (hfinite : x.isFinite = true) :
    ∃ n, Scientific.read? x.positional = some n ∧ n.negative = false ∧ n.nearest? = some x := by
  obtain ⟨n, hread, hsign, hsize⟩ := read?_positional x
  refine ⟨n, hread, hsign, ?_⟩
  rcases Nat.eq_zero_or_pos x.significand with hzero | hpos
  · have hn : n.coefficient = 0 := by
      have hten : (10 : ℚ) ^ n.exponent ≠ 0 := by positivity
      rw [shortest, if_pos hzero, Scientific.size] at hsize
      simpa [hten] using hsize
    have hexp : x.exponent = -1074 := hx.normal.resolve_left (by omega)
    obtain ⟨significand, exponent⟩ := x
    simp only at hzero hexp
    simp [Scientific.nearest?, hn, zero, hzero, hexp]
  · exact nearest?_of_takes hx hpos hfinite (hsize ▸ takes_shortest hx hpos)

end Magnitude
end OracleIntake

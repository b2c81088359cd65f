import OracleIntake.Number.Shortest
import OracleIntake.Proofs.Number.Rounding

/-!
# The shortest digits read back

A fraction between the midpoints to the neighbouring doubles is rounded to the double between them, and `readsBack`
tests for just these fractions. On the grid with seventeen digits one of the two neighbours of the double is always
such a fraction, so the search for the shortest digits never fails.

* `nearest_of_takes`: the fractions that are rounded to a double.
* `takes_shortest`: the shortest digits are digits of such a fraction.
-/
namespace OracleIntake

/-! ## The length of a numeral -/

theorem lt_tenPow_length (n : Nat) : n < 10 ^ (Nat.toDigits 10 n).length :=
  (Nat.length_toDigits_le_iff (by decide) Nat.length_toDigits_pos).1 (le_refl _)

theorem tenPow_length_le {n : Nat} (hn : 0 < n) : 10 ^ ((Nat.toDigits 10 n).length - 1) ≤ n := by
  rcases Nat.eq_zero_or_pos ((Nat.toDigits 10 n).length - 1) with h | h
  · rw [h]
    exact hn
  · have hlength := Nat.length_toDigits_le_iff (n := n) (by decide : 1 < 10) h
    by_contra hlt
    have := hlength.2 (Nat.lt_of_not_le hlt)
    omega

theorem tenZpow_length_le {n : Nat} (hn : 0 < n) : (10 : ℚ) ^ (((Nat.toDigits 10 n).length : Int) - 1) ≤ n := by
  have hpos : 0 < (Nat.toDigits 10 n).length := Nat.length_toDigits_pos
  have hcast : ((Nat.toDigits 10 n).length : Int) - 1 = ((Nat.toDigits 10 n).length - 1 : Nat) := by omega
  rw [hcast, zpow_natCast]
  exact_mod_cast tenPow_length_le hn

namespace Magnitude
variable {x : Magnitude} {a : ℚ} {k : Int} {c : Nat}

/-! ## What is rounded to a double -/

/-- The fraction lies between the midpoints to the neighbouring doubles, on one of them only if the significand is
even. -/
structure Takes (x : Magnitude) (a : ℚ) : Prop where
  low : x.lowerMidpoint * 2 ^ (x.exponent - 2) ≤ a
  high : a ≤ x.upperMidpoint * 2 ^ (x.exponent - 2)
  odd : x.significand % 2 = 1 →
    x.lowerMidpoint * 2 ^ (x.exponent - 2) < a ∧ a < x.upperMidpoint * 2 ^ (x.exponent - 2)

theorem four_quarters (e : Int) : (2 : ℚ) ^ e = 4 * 2 ^ (e - 2) := by
  rw [zpow_sub₀ (by norm_num)]
  norm_num
  ring

theorem value_eq_quarters (x : Magnitude) : x.value = 4 * x.significand * 2 ^ (x.exponent - 2) := by
  rw [value, four_quarters]
  ring

/-- The double is a power of two above the smallest: the doubles below it are twice as dense. -/
def IsEdge (x : Magnitude) : Prop := x.significand = 4503599627370496 ∧ -1074 < x.exponent

/-- The midpoint below is half a unit away, at an edge a quarter. -/
theorem lowerMidpoint_cases (x : Magnitude) (hpos : 0 < x.significand) :
    ¬ x.IsEdge ∧ (x.lowerMidpoint : ℚ) = 4 * x.significand - 2 ∨
      x.IsEdge ∧ (x.lowerMidpoint : ℚ) = 4 * x.significand - 1 := by
  unfold lowerMidpoint IsEdge
  split
  · next h =>
    refine .inr ⟨h, ?_⟩
    rw [Nat.cast_sub (by omega)]
    push_cast
    ring
  · next h =>
    refine .inl ⟨h, ?_⟩
    rw [Nat.cast_sub (by omega)]
    push_cast
    ring

theorem le_lowerMidpoint (x : Magnitude) (hpos : 0 < x.significand) :
    (4 * x.significand : ℚ) - 2 ≤ x.lowerMidpoint := by
  rcases lowerMidpoint_cases x hpos with ⟨-, h⟩ | ⟨-, h⟩
  · rw [h]
  · rw [h]
    linarith

theorem cast_upperMidpoint (x : Magnitude) : (x.upperMidpoint : ℚ) = 4 * x.significand + 2 := by
  simp [upperMidpoint]

theorem Takes.pos (h : x.Takes a) (hpos : 0 < x.significand) : 0 < a := by
  have hs : (1 : ℚ) ≤ x.significand := by exact_mod_cast hpos
  have hm : (0 : ℚ) < x.lowerMidpoint := by linarith [le_lowerMidpoint x hpos]
  exact (by positivity : (0 : ℚ) < x.lowerMidpoint * 2 ^ (x.exponent - 2)).trans_le h.low

theorem Takes.lt (h : x.Takes a) (hx : x.IsDouble) : a < 2 ^ (x.exponent + 53) := by
  have hs : (x.significand : ℚ) + 1 ≤ 9007199254740992 := by exact_mod_cast hx.small
  have hexp : (2 : ℚ) ^ (x.exponent + 53) = 2 ^ 55 * 2 ^ (x.exponent - 2) := by
    rw [← zpow_natCast, ← zpow_add₀ (by norm_num)]
    congr 1
    push_cast
    ring
  calc a ≤ x.upperMidpoint * 2 ^ (x.exponent - 2) := h.high
    _ < 2 ^ 55 * 2 ^ (x.exponent - 2) := by
      rw [cast_upperMidpoint]
      gcongr
      linarith
    _ = 2 ^ (x.exponent + 53) := hexp.symm

/-- In units of the last place of the double, the nearest number is its significand. -/
theorem roundEven_of_takes {num den : Nat} (hpos : 0 < x.significand) (hd : 0 < den)
    (h : x.Takes (num / den)) :
    roundEven (num * twoTo (-x.exponent).toNat) (den * twoTo x.exponent.toNat) = x.significand := by
  have hunit : (0 : ℚ) < 2 ^ x.exponent := by positivity
  have hquarter : (0 : ℚ) < 2 ^ (x.exponent - 2) := by positivity
  have hlow : ((x.significand : ℚ) - 1 / 2) * 2 ^ x.exponent ≤ x.lowerMidpoint * 2 ^ (x.exponent - 2) := by
    rw [four_quarters]
    linarith [mul_le_mul_of_nonneg_right (le_lowerMidpoint x hpos) hquarter.le]
  have hhigh : (x.upperMidpoint : ℚ) * 2 ^ (x.exponent - 2) = (x.significand + 1 / 2) * 2 ^ x.exponent := by
    rw [cast_upperMidpoint, four_quarters x.exponent]
    ring
  apply roundEven_eq (Nat.mul_pos hd (twoTo_pos _))
  · rw [units_eq, le_div_iff₀ hunit]
    exact hlow.trans h.low
  · rw [units_eq, div_le_iff₀ hunit, ← hhigh]
    exact h.high
  · intro hodd
    rw [units_eq, lt_div_iff₀ hunit, div_lt_iff₀ hunit, ← hhigh]
    exact ⟨hlow.trans_lt (h.odd hodd).1, (h.odd hodd).2⟩

theorem pow_exponent_add (x : Magnitude) :
    (2 : ℚ) ^ (x.exponent + 52) = 18014398509481984 * 2 ^ (x.exponent - 2) := by
  rw [show x.exponent + 52 = 54 + (x.exponent - 2) by ring, zpow_add₀ (by norm_num)]
  norm_num

/-- Only at an edge does a midpoint lie below the power of two. -/
theorem isEdge_of_takes_below (hx : x.IsDouble) (hpos : 0 < x.significand) (h : x.Takes a)
    (hbelow : a < 2 ^ (x.exponent + 52)) (hleast : -1074 < x.exponent) : x.IsEdge := by
  have hquarter : (0 : ℚ) < 2 ^ (x.exponent - 2) := by positivity
  have hnormal := hx.normal.resolve_right (by omega)
  rcases lowerMidpoint_cases x hpos with ⟨-, hm⟩ | ⟨hedge, -⟩
  · have hlt : (x.lowerMidpoint : ℚ) < 18014398509481984 := by
      rw [pow_exponent_add] at hbelow
      exact lt_of_mul_lt_mul_right (h.low.trans_lt hbelow) hquarter.le
    have hs : (x.significand : ℚ) < (4503599627370497 : Nat) := by
      push_cast
      linarith
    have hs' : x.significand < 4503599627370497 := by exact_mod_cast hs
    exact ⟨by omega, hleast⟩
  · exact hedge

/-- Just below a power of two a fraction has the smaller unit and is rounded up to the power. -/
theorem nearest_of_takes_below {num den : Nat} (hx : x.IsDouble) (hn : 0 < num) (hd : 0 < den)
    (hpos : 0 < x.significand) (h : x.Takes (num / den)) (hbelow : (num : ℚ) / den < 2 ^ (x.exponent + 52))
    (hleast : -1074 < x.exponent) : nearest num den = x := by
  have hedge := isEdge_of_takes_below hx hpos h hbelow hleast
  have hs : x.significand = 4503599627370496 := hedge.1
  have hm : (x.lowerMidpoint : ℚ) = 4 * x.significand - 1 :=
    (lowerMidpoint_cases x hpos).elim (fun hcase => absurd hedge hcase.1) And.right
  have hlow : (18014398509481983 : ℚ) * 2 ^ (x.exponent - 2) ≤ num / den := by
    have := h.low
    rw [hm, hs] at this
    norm_num at this
    exact this
  have hhalf : (2 : ℚ) ^ (x.exponent - 1) = 2 * 2 ^ (x.exponent - 2) := by
    rw [show x.exponent - 1 = 1 + (x.exponent - 2) by ring, zpow_add₀ (by norm_num), zpow_one]
  have hunit : (0 : ℚ) < 2 ^ (x.exponent - 1) := by positivity
  have hplace : LastPlace (num / den) (x.exponent - 1) := by
    refine ⟨by omega, ?_, .inl ?_⟩
    · rwa [show x.exponent - 1 + 53 = x.exponent + 52 by ring]
    · rw [show x.exponent - 1 + 52 = 53 + (x.exponent - 2) by ring, zpow_add₀ (by norm_num)]
      refine le_trans ?_ hlow
      gcongr
      norm_num
  have hround : roundEven (num * twoTo (-(x.exponent - 1)).toNat) (den * twoTo (x.exponent - 1).toNat) =
      9007199254740992 := by
    rw [pow_exponent_add] at hbelow
    apply roundEven_eq (Nat.mul_pos hd (twoTo_pos _))
    · rw [units_eq, le_div_iff₀ hunit, hhalf]
      push_cast
      linarith
    · rw [units_eq, div_le_iff₀ hunit, hhalf]
      push_cast
      linarith
    · intro hodd
      cases hodd
  rw [nearest_of_lastPlace hn hd hplace, hround, if_pos rfl, ← hs, sub_add_cancel]

/-- **What is rounded to a double.** -/
theorem nearest_of_takes {num den : Nat} (hx : x.IsDouble) (hpos : 0 < x.significand) (hd : 0 < den)
    (h : x.Takes (num / den)) : nearest num den = x := by
  have hn : 0 < num := by
    rcases Nat.eq_zero_or_pos num with rfl | hn
    · simpa using h.pos hpos
    · exact hn
  by_cases hplace : 2 ^ (x.exponent + 52) ≤ (num : ℚ) / den ∨ x.exponent = -1074
  · have hsmall : x.significand ≠ 9007199254740992 := hx.small.ne
    rw [nearest_of_lastPlace hn hd ⟨hx.least, h.lt hx, hplace⟩, roundEven_of_takes hpos hd h, if_neg hsmall]
  · rw [not_or, not_le] at hplace
    have hleast := hx.least
    exact nearest_of_takes_below hx hn hd hpos h hplace.1 (by omega)

theorem takes_of_near (hpos : 0 < x.significand)
    (h : |a - x.value| < (4 * x.significand - x.lowerMidpoint) * 2 ^ (x.exponent - 2)) : x.Takes a := by
  have hquarter : (0 : ℚ) < 2 ^ (x.exponent - 2) := by positivity
  have hupper := mul_le_mul_of_nonneg_right (le_lowerMidpoint x hpos) hquarter.le
  rw [value_eq_quarters, abs_lt] at h
  have hlow : (x.lowerMidpoint : ℚ) * 2 ^ (x.exponent - 2) < a := by linarith
  have hhigh : a < x.upperMidpoint * 2 ^ (x.exponent - 2) := by
    rw [cast_upperMidpoint]
    linarith
  exact ⟨hlow.le, hhigh.le, fun _ => ⟨hlow, hhigh⟩⟩

theorem takes_value (hpos : 0 < x.significand) : x.Takes x.value := by
  apply takes_of_near hpos
  have hlt : (x.lowerMidpoint : ℚ) < 4 * x.significand := by
    rcases lowerMidpoint_cases x hpos with ⟨-, h⟩ | ⟨-, h⟩ <;> linarith
  rw [sub_self, abs_zero]
  have : (0 : ℚ) < 4 * x.significand - x.lowerMidpoint := by linarith
  positivity

theorem nearest_value {num den : Nat} (hx : x.IsDouble) (hd : 0 < den) (h : (num : ℚ) / den = x.value) :
    nearest num den = x := by
  rcases Nat.eq_zero_or_pos x.significand with hzero | hpos
  · have hden : (den : ℚ) ≠ 0 := by exact_mod_cast hd.ne'
    have hnum : num = 0 := by
      rw [value, hzero, Nat.cast_zero, zero_mul, div_eq_zero_iff] at h
      exact_mod_cast h.resolve_right hden
    have hexp : x.exponent = -1074 := hx.normal.resolve_left (by omega)
    obtain ⟨significand, exponent⟩ := x
    simp only at hzero hexp
    rw [hnum, nearest_zero, hzero, hexp, zero]
  · exact nearest_of_takes hx hpos hd (h ▸ takes_value hpos)

theorem value_nearest_natural {n : Nat} (hn : n < 9007199254740992) : (nearest n 1).value = n := by
  obtain ⟨x, hx, hvalue⟩ : ∃ x : Magnitude, x.IsDouble ∧ x.value = n := by
    rcases Nat.eq_zero_or_pos n with rfl | hpos
    · exact ⟨zero, isDouble_zero, by simp [value, zero]⟩
    · have hlow : 2 ^ n.log2 ≤ n := Nat.log2_self_le hpos.ne'
      have hhigh : n < 2 ^ (n.log2 + 1) := Nat.lt_log2_self
      have hlog : n.log2 ≤ 52 := by
        have := (Nat.pow_lt_pow_iff_right (by decide : 1 < 2)).1 (hlow.trans_lt (hn.trans_eq rfl : n < 2 ^ 53))
        omega
      obtain ⟨j, hj⟩ : ∃ j, n.log2 + j = 52 := ⟨52 - n.log2, by omega⟩
      refine ⟨⟨n * 2 ^ j, -j⟩, ⟨?_, by simp only; omega, .inl ?_⟩, ?_⟩
      · calc n * 2 ^ j < 2 ^ (n.log2 + 1) * 2 ^ j := Nat.mul_lt_mul_of_pos_right hhigh (by positivity)
          _ = 2 ^ (n.log2 + j + 1) := by rw [← Nat.pow_add, Nat.add_right_comm]
          _ = 9007199254740992 := by rw [hj]; rfl
      · calc 4503599627370496 = 2 ^ (n.log2 + j) := by rw [hj]
          _ = 2 ^ n.log2 * 2 ^ j := Nat.pow_add _ _ _
          _ ≤ n * 2 ^ j := Nat.mul_le_mul_right _ hlow
      · rw [value, zpow_neg, zpow_natCast]
        push_cast
        field_simp
  rw [nearest_value hx one_pos (by rw [hvalue, Nat.cast_one, div_one]), hvalue]

/-! ## Reading back -/

theorem scaled_le_iff (m c : Nat) (u k : Int) :
    m * (twoTo u.toNat * tenTo (-k).toNat) ≤ c * tenTo k.toNat * twoTo (-u).toNat ↔
      (m : ℚ) * 2 ^ u ≤ c * 10 ^ k := by
  have htwo : (0 : ℚ) < twoTo (-u).toNat := by exact_mod_cast twoTo_pos _
  have hten : (0 : ℚ) < tenTo (-k).toNat := by exact_mod_cast tenTo_pos _
  rw [← twoTo_div_twoTo, ← tenTo_div_tenTo, ← mul_div_assoc, ← mul_div_assoc, div_le_div_iff₀ htwo hten,
    ← mul_assoc m]
  norm_cast

theorem le_scaled_iff (m c : Nat) (u k : Int) :
    c * tenTo k.toNat * twoTo (-u).toNat ≤ m * (twoTo u.toNat * tenTo (-k).toNat) ↔
      (c : ℚ) * 10 ^ k ≤ m * 2 ^ u := by
  have htwo : (0 : ℚ) < twoTo (-u).toNat := by exact_mod_cast twoTo_pos _
  have hten : (0 : ℚ) < tenTo (-k).toNat := by exact_mod_cast tenTo_pos _
  rw [← twoTo_div_twoTo, ← tenTo_div_tenTo, ← mul_div_assoc, ← mul_div_assoc, div_le_div_iff₀ hten htwo,
    ← mul_assoc m]
  norm_cast

theorem readsBack_iff : x.readsBack c k = true ↔ x.Takes (c * 10 ^ k) := by
  unfold readsBack
  simp only
  split
  · next heven =>
    rw [Bool.and_eq_true, decide_eq_true_iff, decide_eq_true_iff, scaled_le_iff, le_scaled_iff]
    exact ⟨fun h => ⟨h.1, h.2, fun hodd => by omega⟩, fun h => ⟨h.low, h.high⟩⟩
  · next hodd =>
    rw [Bool.and_eq_true, decide_eq_true_iff, decide_eq_true_iff, ← not_le, ← not_le, le_scaled_iff,
      scaled_le_iff, not_le, not_le]
    exact ⟨fun h => ⟨h.1.le, h.2.le, fun _ => h⟩, fun h => h.odd (by omega)⟩

theorem takes_of_onGrid? (h : x.onGrid? k = some c) : x.Takes (c * 10 ^ k) := by
  unfold onGrid? at h
  simp only at h
  split at h
  · next hlow hhigh =>
    cases h
    split
    · exact readsBack_iff.1 hlow
    · exact readsBack_iff.1 hhigh
  · next hlow _ =>
    cases h
    exact readsBack_iff.1 hlow
  · next _ hhigh =>
    cases h
    exact readsBack_iff.1 hhigh
  · cases h

/-- The neighbours of the double on the grid of step `10 ^ k`. -/
theorem between_grid (x : Magnitude) (k : Int) :
    ∃ c : Nat, c = x.num * tenTo (-k).toNat / (x.den * tenTo k.toNat) ∧
      (c : ℚ) * 10 ^ k ≤ x.value ∧ x.value < (c + 1) * 10 ^ k := by
  have hstep : (0 : ℚ) < 10 ^ k := by positivity
  have hden : 0 < x.den * tenTo k.toNat := Nat.mul_pos x.den_pos (tenTo_pos _)
  have hden' : (0 : ℚ) < (x.den * tenTo k.toNat : Nat) := by exact_mod_cast hden
  have hquotient : ((x.num * tenTo (-k).toNat : Nat) : ℚ) / (x.den * tenTo k.toNat : Nat) = x.value / 10 ^ k := by
    rw [← num_div_den, ← tenTo_div_tenTo, Nat.cast_mul, Nat.cast_mul, div_div_eq_mul_div, div_mul_eq_mul_div,
      div_div]
  refine ⟨_, rfl, ?_, ?_⟩
  · rw [← le_div_iff₀ hstep, ← hquotient, le_div_iff₀ hden']
    exact_mod_cast Nat.div_mul_le_self _ _
  · rw [← div_lt_iff₀ hstep, ← hquotient, div_lt_iff₀ hden']
    exact_mod_cast Nat.lt_mul_of_div_lt (Nat.lt_succ_self _) hden

/-- One of two neighbours on a grid is half a step away at most. -/
theorem isSome_onGrid? (hpos : 0 < x.significand)
    (hstep : (10 : ℚ) ^ k / 2 < (4 * x.significand - x.lowerMidpoint) * 2 ^ (x.exponent - 2)) :
    (x.onGrid? k).isSome := by
  obtain ⟨c, hc, hlow, hhigh⟩ := between_grid x k
  have hnext : (((c + 1 : Nat) : ℚ)) * 10 ^ k = c * 10 ^ k + 10 ^ k := by
    push_cast
    ring
  have hhit : x.readsBack c k = true ∨ x.readsBack (c + 1) k = true := by
    rcases le_total (x.value - c * 10 ^ k) (10 ^ k / 2) with h | h
    · left
      refine readsBack_iff.2 (takes_of_near hpos ((abs_le.2 ⟨?_, ?_⟩).trans_lt hstep)) <;> linarith
    · right
      refine readsBack_iff.2 (takes_of_near hpos ((abs_le.2 ⟨?_, ?_⟩).trans_lt hstep)) <;> linarith
  unfold onGrid?
  simp only [← hc]
  split
  · rfl
  · rfl
  · rfl
  · next h h' => simp [h, h'] at hhit

/-! ## The search -/

/-- Seventeen digits are enough. -/
theorem half_step_lt (hx : x.IsDouble) (hpos : 0 < x.significand) (hk : (10 : ℚ) ^ k * 10 ^ 16 ≤ x.value) :
    (10 : ℚ) ^ k / 2 < (4 * x.significand - x.lowerMidpoint) * 2 ^ (x.exponent - 2) := by
  have hquarter : (0 : ℚ) < 2 ^ (x.exponent - 2) := by positivity
  rw [value_eq_quarters] at hk
  rcases lowerMidpoint_cases x hpos with ⟨-, hm⟩ | ⟨hedge, hm⟩
  · have hsmall : (x.significand : ℚ) ≤ 9007199254740992 := by exact_mod_cast hx.small.le
    have := mul_le_mul_of_nonneg_right hsmall hquarter.le
    rw [hm]
    linarith
  · rw [hm]
    rw [hedge.1] at hk ⊢
    push_cast at hk ⊢
    linarith

theorem tenPow_floorLog10_le (hpos : 0 < x.significand) : (10 : ℚ) ^ x.floorLog10 ≤ x.value := by
  have hnum : 0 < x.num := Nat.mul_pos hpos (twoTo_pos _)
  have hden : (0 : ℚ) < x.den := by exact_mod_cast x.den_pos
  rw [← num_div_den]
  unfold floorLog10
  split
  · next hle =>
    have hquotient : ((x.num / x.den : Nat) : ℚ) ≤ x.num / x.den := Nat.cast_div_le
    exact (tenZpow_length_le (Nat.div_pos hle x.den_pos)).trans hquotient
  · have hlt := Nat.lt_mul_of_div_lt (lt_tenPow_length ((x.den - 1) / x.num)) hnum
    generalize (Nat.toDigits 10 ((x.den - 1) / x.num)).length = l at hlt ⊢
    have hle : (x.den : ℚ) ≤ 10 ^ l * x.num := by exact_mod_cast (by omega : x.den ≤ 10 ^ l * x.num)
    rw [zpow_neg, zpow_natCast, le_div_iff₀ hden, inv_mul_le_iff₀ (by positivity)]
    exact hle

theorem dropZeros_eq (fuel c : Nat) (k : Int) :
    ((dropZeros fuel c k).1 : ℚ) * 10 ^ (dropZeros fuel c k).2 = c * 10 ^ k := by
  induction fuel generalizing c k with
  | zero => rfl
  | succ fuel ih =>
    unfold dropZeros
    split
    · next hzero =>
      have hc : (c : ℚ) = (c / 10 : Nat) * 10 := by exact_mod_cast (by omega : c = c / 10 * 10)
      rw [ih, zpow_add_one₀ (by norm_num), hc]
      ring
    · rfl

/-- **The shortest digits read back.** -/
theorem takes_shortest (hx : x.IsDouble) (hpos : 0 < x.significand) :
    x.Takes (x.shortest.1 * 10 ^ x.shortest.2) := by
  have hfound : (((List.range 17).map fun (i : Nat) => x.floorLog10 - (i : Int)).findSome? fun k =>
      (x.onGrid? k).map fun c => (c, k)).isSome := by
    rw [List.findSome?_isSome_iff]
    refine ⟨x.floorLog10 - 16, List.mem_map.2 ⟨16, by decide, rfl⟩, ?_⟩
    rw [Option.isSome_map]
    apply isSome_onGrid? hpos (half_step_lt hx hpos _)
    calc (10 : ℚ) ^ (x.floorLog10 - 16) * 10 ^ 16 = 10 ^ x.floorLog10 := by
          rw [← zpow_natCast, ← zpow_add₀ (by norm_num)]
          norm_num
      _ ≤ x.value := tenPow_floorLog10_le hpos
  obtain ⟨⟨c, k⟩, hck⟩ := Option.isSome_iff_exists.1 hfound
  obtain ⟨k', -, hgrid⟩ := List.exists_of_findSome?_eq_some hck
  obtain ⟨c', hc, heq⟩ := Option.map_eq_some_iff.1 hgrid
  cases heq
  unfold shortest
  rw [if_neg hpos.ne']
  simp only [hck, dropZeros_eq]
  exact takes_of_onGrid? hc

end Magnitude
end OracleIntake

import Mathlib.Tactic
import OracleIntake.Number.Binary64

/-!
# Rounding to doubles

The value of a double is a fraction, and `nearest` rounds a fraction to a double. The unit in the last place next
to a fraction (`LastPlace`) is told by two inequalities, and only one exponent meets them; everything that is said
about `nearest` follows from that.

* `roundEven_eq`, `abs_roundEven_sub_le`: the nearest natural number, with ties to the even one.
* `isDouble_nearest`, `exponent_nearest_le`: what is rounded is a double, and how great it may be.
* `abs_value_nearest_sub_le`: rounding goes wrong by half a unit in the last place at most.
-/
namespace OracleIntake

/-! ## Powers -/

theorem pow_toNat_div (b : ℚ) (z : Int) : b ^ z.toNat / b ^ (-z).toNat = b ^ z := by
  obtain ⟨n, rfl | rfl⟩ := z.eq_nat_or_neg <;> simp

theorem cast_twoTo (n : Nat) : (twoTo n : ℚ) = 2 ^ n := by simp [twoTo]

theorem cast_tenTo (n : Nat) : (tenTo n : ℚ) = 10 ^ n := by simp [tenTo]

theorem twoTo_div_twoTo (z : Int) : (twoTo z.toNat : ℚ) / twoTo (-z).toNat = 2 ^ z := by
  rw [cast_twoTo, cast_twoTo, pow_toNat_div]

theorem tenTo_div_tenTo (z : Int) : (tenTo z.toNat : ℚ) / tenTo (-z).toNat = 10 ^ z := by
  rw [cast_tenTo, cast_tenTo, pow_toNat_div]

/-! ## The nearest natural number -/

theorem abs_roundEven_sub_le (num : Nat) {den : Nat} (hd : 0 < den) :
    |(roundEven num den : ℚ) - num / den| ≤ 1 / 2 := by
  have hden : (0 : ℚ) < den := by exact_mod_cast hd
  have hlow : (2 * num : ℚ) ≤ 2 * (roundEven num den * den) + den := by exact_mod_cast le_roundEven num hd
  have hhigh : (2 * (roundEven num den * den) : ℚ) ≤ 2 * num + den := by exact_mod_cast roundEven_le num den
  have hle : (num : ℚ) / den ≤ roundEven num den + 1 / 2 := by
    rw [div_le_iff₀ hden]
    linarith
  have hge : (roundEven num den : ℚ) - 1 / 2 ≤ num / den := by
    rw [le_div_iff₀ hden]
    linarith
  rw [abs_le]
  constructor <;> linarith

/-- A number within half a unit of the fraction is what the fraction is rounded to, at exactly half a unit if it is
even. -/
theorem roundEven_eq {num den m : Nat} (hd : 0 < den) (hlow : (m : ℚ) - 1 / 2 ≤ num / den)
    (hhigh : (num : ℚ) / den ≤ m + 1 / 2)
    (hodd : m % 2 = 1 → (m : ℚ) - 1 / 2 < num / den ∧ (num : ℚ) / den < m + 1 / 2) :
    roundEven num den = m := by
  have hden : (0 : ℚ) < den := by exact_mod_cast hd
  have hlow' : 2 * (m * den) ≤ 2 * num + den := by
    rw [le_div_iff₀ hden] at hlow
    have : (2 * (m * den) : ℚ) ≤ 2 * num + den := by linarith
    exact_mod_cast this
  have hhigh' : 2 * num ≤ 2 * (m * den) + den := by
    rw [div_le_iff₀ hden] at hhigh
    have : (2 * num : ℚ) ≤ 2 * (m * den) + den := by linarith
    exact_mod_cast this
  have hodd' : m % 2 = 1 → 2 * (m * den) < 2 * num + den ∧ 2 * num < 2 * (m * den) + den := fun hm => by
    obtain ⟨h, h'⟩ := hodd hm
    rw [lt_div_iff₀ hden] at h
    rw [div_lt_iff₀ hden] at h'
    have hl : (2 * (m * den) : ℚ) < 2 * num + den := by linarith
    have hh : (2 * num : ℚ) < 2 * (m * den) + den := by linarith
    exact ⟨by exact_mod_cast hl, by exact_mod_cast hh⟩
  have hdiv : num / den * den + num % den = num := Nat.div_add_mod' num den
  have hmod := Nat.mod_lt num hd
  -- the quotient or its successor: two units away is too far
  have hm : m = num / den ∨ m = num / den + 1 := by
    by_contra hne
    rcases Nat.lt_or_ge m (num / den) with h | h
    · have := Nat.mul_le_mul_right den (Nat.succ_le_of_lt h)
      rw [Nat.succ_mul] at this
      omega
    · have := Nat.mul_le_mul_right den (show num / den + 2 ≤ m by omega)
      rw [Nat.add_mul] at this
      omega
  unfold roundEven
  simp only
  rcases hm with hm | hm
  · rw [hm] at hlow' hhigh' hodd'
    rw [if_neg (by omega), hm]
  · rw [hm, Nat.succ_mul (num / den)] at hlow' hhigh' hodd'
    rw [if_pos (by omega), hm]

namespace Magnitude
variable {x : Magnitude} {num den : Nat} {a : ℚ} {e : Int}

/-- The double as a fraction. -/
def value (x : Magnitude) : ℚ := x.significand * 2 ^ x.exponent

theorem den_pos (x : Magnitude) : 0 < x.den := twoTo_pos _

theorem num_div_den (x : Magnitude) : (x.num : ℚ) / x.den = x.value := by
  rw [num, den, value, Nat.cast_mul, mul_div_assoc, twoTo_div_twoTo]

/-- A significand of 53 bits, and of fewer only with the least exponent. -/
structure IsDouble (x : Magnitude) : Prop where
  small : x.significand < 9007199254740992
  least : -1074 ≤ x.exponent
  normal : 4503599627370496 ≤ x.significand ∨ x.exponent = -1074

theorem isDouble_zero : zero.IsDouble := ⟨by decide, by decide, .inr rfl⟩

/-! ## The unit in the last place -/

/-- The doubles next to `a` have the unit `2 ^ e` in the last place. -/
structure LastPlace (a : ℚ) (e : Int) : Prop where
  least : -1074 ≤ e
  above : a < 2 ^ (e + 53)
  below : 2 ^ (e + 52) ≤ a ∨ e = -1074

theorem LastPlace.le {e' : Int} (h : LastPlace a e) (h' : LastPlace a e') : e ≤ e' := by
  rcases h.below with hbelow | hleast
  · have : (2 : ℚ) ^ (e + 52) < 2 ^ (e' + 53) := hbelow.trans_lt h'.above
    rw [zpow_lt_zpow_iff_right₀ (by norm_num)] at this
    omega
  · exact hleast ▸ h'.least

theorem LastPlace.unique {e' : Int} (h : LastPlace a e) (h' : LastPlace a e') : e = e' :=
  le_antisymm (h.le h') (h'.le h)

/-- A small fraction has a small unit. -/
theorem LastPlace.le_of_lt {t : Int} (h : LastPlace a e) (ha : a < 2 ^ t) (ht : -1021 ≤ t) : e ≤ t - 53 := by
  rcases h.below with hbelow | hleast
  · have : (2 : ℚ) ^ (e + 52) < 2 ^ t := hbelow.trans_lt ha
    rw [zpow_lt_zpow_iff_right₀ (by norm_num)] at this
    omega
  · omega

theorem zpow_mul_pow {i : Int} {n m : Nat} (h : i + n = m) : (2 : ℚ) ^ i * 2 ^ n = 2 ^ m := by
  rw [← zpow_natCast, ← zpow_natCast, ← zpow_add₀ (by norm_num), h]

theorem floorLog2_spec (hn : 0 < num) (hd : 0 < den) :
    (2 : ℚ) ^ floorLog2 num den ≤ num / den ∧ (num : ℚ) / den < 2 ^ (floorLog2 num den + 1) := by
  have hden : (0 : ℚ) < den := by exact_mod_cast hd
  have hnum : (2 : ℚ) ^ num.log2 ≤ num := by exact_mod_cast Nat.log2_self_le hn.ne'
  have hnum' : (num : ℚ) < 2 ^ (num.log2 + 1) := by exact_mod_cast Nat.lt_log2_self (n := num)
  have hden₁ : (2 : ℚ) ^ den.log2 ≤ den := by exact_mod_cast Nat.log2_self_le hd.ne'
  have hden₂ : (den : ℚ) < 2 ^ (den.log2 + 1) := by exact_mod_cast Nat.lt_log2_self (n := den)
  unfold floorLog2
  simp only
  generalize hl : (num.log2 : Int) - den.log2 = l
  -- the difference of the logarithms is at most one too great
  have hhigh : (num : ℚ) / den < 2 ^ (l + 1) := by
    rw [div_lt_iff₀ hden]
    calc (num : ℚ) < 2 ^ (num.log2 + 1) := hnum'
      _ = 2 ^ (l + 1) * 2 ^ den.log2 := (zpow_mul_pow (by push_cast; omega)).symm
      _ ≤ 2 ^ (l + 1) * den := by gcongr
  have hlow : (2 : ℚ) ^ (l - 1) ≤ num / den := by
    rw [le_div_iff₀ hden]
    calc (2 : ℚ) ^ (l - 1) * den ≤ 2 ^ (l - 1) * 2 ^ (den.log2 + 1) := by gcongr
      _ = 2 ^ num.log2 := zpow_mul_pow (by push_cast; omega)
      _ ≤ num := hnum
  have htest : den * twoTo l.toNat ≤ num * twoTo (-l).toNat ↔ (2 : ℚ) ^ l ≤ num / den := by
    have hpos : (0 : ℚ) < twoTo (-l).toNat := by exact_mod_cast twoTo_pos _
    rw [← twoTo_div_twoTo, div_le_div_iff₀ hpos hden, mul_comm (twoTo l.toNat : ℚ)]
    norm_cast
  split
  · next h => exact ⟨htest.1 h, hhigh⟩
  · next h =>
    rw [htest, not_le] at h
    exact ⟨hlow, by simpa using h⟩

theorem lastPlace_floorLog2 (hn : 0 < num) (hd : 0 < den) :
    LastPlace (num / den) (max (floorLog2 num den - 52) (-1074)) := by
  obtain ⟨hlow, hhigh⟩ := floorLog2_spec hn hd
  refine ⟨le_max_right _ _, hhigh.trans_le ?_, ?_⟩
  · exact zpow_le_zpow_right₀ (by norm_num) (by omega)
  · rcases le_or_gt (-1074) (floorLog2 num den - 52) with h | h
    · left
      rwa [max_eq_left h, sub_add_cancel]
    · exact .inr (max_eq_right h.le)

/-! ## The nearest double -/

theorem nearest_zero (den : Nat) : nearest 0 den = zero := rfl

/-- The nearest double, told by the nearest number of units in the last place. -/
theorem nearest_of_lastPlace (hn : 0 < num) (hd : 0 < den) (he : LastPlace (num / den) e) :
    nearest num den =
      if roundEven (num * twoTo (-e).toNat) (den * twoTo e.toNat) = 9007199254740992 then
        ⟨4503599627370496, e + 1⟩
      else ⟨roundEven (num * twoTo (-e).toNat) (den * twoTo e.toNat), e⟩ := by
  rw [nearest, if_neg hn.ne', (lastPlace_floorLog2 hn hd).unique he]

theorem units_eq (num den : Nat) (e : Int) :
    ((num * twoTo (-e).toNat : Nat) : ℚ) / (den * twoTo e.toNat : Nat) = num / den / 2 ^ e := by
  rw [← twoTo_div_twoTo, Nat.cast_mul, Nat.cast_mul, div_div_eq_mul_div, div_mul_eq_mul_div, div_div]

/-- The number of units that is rounded to: within half a unit, and of 53 bits or the first number beyond. -/
theorem nearest_spec (hn : 0 < num) (hd : 0 < den) (he : LastPlace (num / den) e) :
    ∃ q : Nat, |(q : ℚ) - num / den / 2 ^ e| ≤ 1 / 2 ∧ q ≤ 9007199254740992 ∧
      (4503599627370496 ≤ q ∨ e = -1074) ∧
      nearest num den = if q = 9007199254740992 then ⟨4503599627370496, e + 1⟩ else ⟨q, e⟩ := by
  have hnear := abs_roundEven_sub_le (num * twoTo (-e).toNat) (Nat.mul_pos hd (twoTo_pos e.toNat))
  rw [units_eq] at hnear
  refine ⟨_, hnear, ?_, ?_, nearest_of_lastPlace hn hd he⟩
  · have habove : (num : ℚ) / den / 2 ^ e < 2 ^ (53 : Int) := by
      rw [div_lt_iff₀ (by positivity), ← zpow_add₀ (by norm_num), add_comm]
      exact he.above
    have hlt := (abs_le.1 hnear).2
    generalize roundEven (num * twoTo (-e).toNat) (den * twoTo e.toNat) = q at hlt ⊢
    by_contra hq
    have hbeyond : ((9007199254740992 + 1 : Nat) : ℚ) ≤ q := by exact_mod_cast Nat.lt_of_not_le hq
    rw [show (2 : ℚ) ^ (53 : Int) = 9007199254740992 by norm_num] at habove
    push_cast at hbeyond
    linarith
  · refine he.below.imp_left fun hbelow => ?_
    have hbelow' : (2 : ℚ) ^ (52 : Int) ≤ num / den / 2 ^ e := by
      rw [le_div_iff₀ (by positivity), ← zpow_add₀ (by norm_num), add_comm]
      exact hbelow
    have hlt := (abs_le.1 hnear).1
    generalize roundEven (num * twoTo (-e).toNat) (den * twoTo e.toNat) = q at hlt ⊢
    by_contra hq
    have hshort : ((q + 1 : Nat) : ℚ) ≤ (4503599627370496 : Nat) := by exact_mod_cast Nat.lt_of_not_le hq
    rw [show (2 : ℚ) ^ (52 : Int) = 4503599627370496 by norm_num] at hbelow'
    push_cast at hshort
    linarith

theorem isDouble_nearest (num : Nat) (hd : 0 < den) : (nearest num den).IsDouble := by
  rcases Nat.eq_zero_or_pos num with rfl | hn
  · exact isDouble_zero
  · have he := lastPlace_floorLog2 hn hd
    obtain ⟨q, -, hq, hnormal, heq⟩ := nearest_spec hn hd he
    rw [heq]
    split
    · next hround =>
      have hleast := he.least
      exact ⟨by simp only; omega, by simp only; omega, .inl (le_refl _)⟩
    · next hround => exact ⟨by simp only; omega, he.least, hnormal⟩

theorem value_of_units {q : Nat} :
    value (if q = 9007199254740992 then ⟨4503599627370496, e + 1⟩ else ⟨q, e⟩) = q * 2 ^ e := by
  split
  · next hq =>
    rw [hq, value, zpow_add_one₀ (by norm_num)]
    push_cast
    ring
  · rfl

theorem abs_value_nearest_sub_le_of_lastPlace (hn : 0 < num) (hd : 0 < den) (he : LastPlace (num / den) e) :
    |(nearest num den).value - num / den| ≤ 2 ^ (e - 1) := by
  obtain ⟨q, hnear, -, -, heq⟩ := nearest_spec hn hd he
  have hunit : (0 : ℚ) < 2 ^ e := by positivity
  have hscale : (q : ℚ) * 2 ^ e - num / den = (q - num / den / 2 ^ e) * 2 ^ e := by
    field_simp
  rw [heq, value_of_units, hscale, abs_mul, abs_of_pos hunit, zpow_sub_one₀ (by norm_num)]
  linarith [mul_le_mul_of_nonneg_right hnear hunit.le]

/-- **Error of rounding.** Below `2 ^ t` it is at most half the unit in the last place there. -/
theorem abs_value_nearest_sub_le (hd : 0 < den) {t : Int} (ha : (num : ℚ) / den < 2 ^ t) (ht : -1021 ≤ t) :
    |(nearest num den).value - num / den| ≤ 2 ^ (t - 54) := by
  rcases Nat.eq_zero_or_pos num with rfl | hn
  · rw [nearest_zero]
    simp only [value, zero, Nat.cast_zero, zero_mul, zero_div, sub_zero, abs_zero]
    positivity
  · have he := lastPlace_floorLog2 hn hd
    have hle := he.le_of_lt ha ht
    exact (abs_value_nearest_sub_le_of_lastPlace hn hd he).trans
      (zpow_le_zpow_right₀ (by norm_num) (by omega))

theorem exponent_nearest_le (hd : 0 < den) {t : Int} (ha : (num : ℚ) / den < 2 ^ t) (ht : -1021 ≤ t) :
    (nearest num den).exponent ≤ t - 52 := by
  rcases Nat.eq_zero_or_pos num with rfl | hn
  · simp only [nearest_zero, zero]
    omega
  · have he := lastPlace_floorLog2 hn hd
    have hle := he.le_of_lt ha ht
    obtain ⟨q, -, -, -, heq⟩ := nearest_spec hn hd he
    rw [heq]
    split <;> simp only <;> omega

end Magnitude
end OracleIntake

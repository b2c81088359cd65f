import OracleIntake.Duration
import OracleIntake.Proofs.Number.Positional

/-!
# Durations and their texts in seconds

A duration goes through a double when it is written in seconds and again when it is read. The text always reads
back to the double that was written, so what is lost is lost by the double. Its error is far below a nanosecond
for durations below `2 ^ 23` seconds, and there is none for a number of whole seconds of 53 bits: such durations
are read as they were. The longest duration is written as a text that is refused.

* `readSeconds?_secondsText`: reading the text is going through the double.
* `readSeconds?_of_short`, `readSeconds?_of_whole`: durations that are read as they were.
* `readSeconds?_longest`: one that is not.
-/
namespace OracleIntake

namespace Magnitude
variable {x y : Magnitude} {t : Int}

/-! ## Errors of sums and quotients -/

theorem fraction_add (x y : Magnitude) :
    ((x.num * y.den + y.num * x.den : Nat) : ℚ) / (x.den * y.den : Nat) = x.value + y.value := by
  have hx : (x.den : ℚ) ≠ 0 := by exact_mod_cast x.den_pos.ne'
  have hy : (y.den : ℚ) ≠ 0 := by exact_mod_cast y.den_pos.ne'
  rw [← num_div_den, ← num_div_den]
  push_cast
  field_simp

theorem fraction_div (x y : Magnitude) :
    ((x.num * y.den : Nat) : ℚ) / (x.den * y.num : Nat) = x.value / y.value := by
  rw [← num_div_den, ← num_div_den, div_div_div_eq]
  push_cast
  rfl

theorem den_mul_pos (x y : Magnitude) : 0 < x.den * y.den := Nat.mul_pos x.den_pos y.den_pos

theorem isDouble_add (x y : Magnitude) : (x.add y).IsDouble := isDouble_nearest _ (den_mul_pos x y)

theorem exponent_add_le (h : x.value + y.value < 2 ^ t) (ht : -1021 ≤ t) : (x.add y).exponent ≤ t - 52 := by
  rw [← fraction_add] at h
  exact exponent_nearest_le (den_mul_pos x y) h ht

theorem abs_value_add_sub_le (h : x.value + y.value < 2 ^ t) (ht : -1021 ≤ t) :
    |(x.add y).value - (x.value + y.value)| ≤ 2 ^ (t - 54) := by
  rw [← fraction_add] at h ⊢
  exact abs_value_nearest_sub_le (den_mul_pos x y) h ht

theorem abs_value_div_sub_le (hy : 0 < y.value) (h : x.value / y.value < 2 ^ t) (ht : -1021 ≤ t) :
    |(x.div y).value - x.value / y.value| ≤ 2 ^ (t - 54) := by
  have hnum : 0 < y.num := by
    rcases Nat.eq_zero_or_pos y.num with hzero | hpos
    · rw [← num_div_den, hzero] at hy
      simp at hy
    · exact hpos
  rw [← fraction_div] at h ⊢
  exact abs_value_nearest_sub_le (Nat.mul_pos x.den_pos hnum) h ht

theorem add_eq_left (hx : x.IsDouble) (hy : y.value = 0) : x.add y = x := by
  apply nearest_value hx (den_mul_pos x y)
  rw [fraction_add, hy, add_zero]

end Magnitude

namespace Duration
variable {d : Duration} {m : Magnitude}

/-! ## The double of a duration -/

/-- The whole seconds as a double. -/
def wholeDouble (d : Duration) : Magnitude := .nearest d.seconds 1

/-- The nanoseconds beyond the whole seconds, in seconds, as a double. -/
def fractionDouble (d : Duration) : Magnitude :=
  (Magnitude.nearest d.subseconds 1).div (Magnitude.nearest 1000000000 1)

theorem toDouble_eq (d : Duration) : d.toDouble = d.wholeDouble.add d.fractionDouble := rfl

theorem subseconds_lt (d : Duration) : d.subseconds < 1000000000 := Nat.mod_lt _ (by decide)

theorem seconds_lt (d : Duration) : d.seconds < 18446744073709551616 := by
  have := d.fits
  rw [seconds]
  omega

theorem nanos_div_eq (d : Duration) : (d.nanos : ℚ) / 1000000000 = d.seconds + d.subseconds / 1000000000 := by
  have hnanos : d.nanos = d.seconds * 1000000000 + d.subseconds := by
    rw [seconds, subseconds, Nat.div_add_mod']
  rw [hnanos]
  push_cast
  ring

theorem value_wholeDouble (h : d.seconds < 9007199254740992) : d.wholeDouble.value = d.seconds :=
  Magnitude.value_nearest_natural h

theorem abs_fractionDouble_sub_le (d : Duration) :
    |d.fractionDouble.value - d.subseconds / 1000000000| ≤ 1 / 18014398509481984 := by
  have hsub := d.subseconds_lt
  have hnum : (Magnitude.nearest d.subseconds 1).value = d.subseconds :=
    Magnitude.value_nearest_natural (by omega)
  have hden : (Magnitude.nearest 1000000000 1).value = 1000000000 :=
    mod_cast Magnitude.value_nearest_natural (n := 1000000000) (by decide)
  have hlt : (Magnitude.nearest d.subseconds 1).value / (Magnitude.nearest 1000000000 1).value < 2 ^ (0 : Int) := by
    rw [hnum, hden, zpow_zero, div_lt_one (by norm_num)]
    exact_mod_cast hsub
  have herror := Magnitude.abs_value_div_sub_le (by rw [hden]; norm_num) hlt (by decide)
  rw [hnum, hden] at herror
  exact herror.trans_eq (by norm_num)

theorem fractionDouble_lt_one (d : Duration) : d.fractionDouble.value < 1 := by
  have herror := (abs_le.1 d.abs_fractionDouble_sub_le).2
  have hsub : (d.subseconds : ℚ) ≤ 999999999 := by exact_mod_cast Nat.le_of_lt_succ d.subseconds_lt
  linarith

theorem isDouble_toDouble (d : Duration) : d.toDouble.IsDouble := Magnitude.isDouble_add _ _

theorem isFinite_toDouble (d : Duration) : d.toDouble.isFinite = true := by
  have hseconds : (d.seconds : ℚ) < 18446744073709551616 := by exact_mod_cast d.seconds_lt
  have hlt : (d.seconds : ℚ) / (1 : Nat) < 2 ^ (64 : Int) := by
    rw [Nat.cast_one, div_one]
    exact hseconds.trans_eq (by norm_num)
  have herror : d.wholeDouble.value - d.seconds / (1 : Nat) ≤ 1024 :=
    ((abs_le.1 (Magnitude.abs_value_nearest_sub_le one_pos hlt (by decide))).2).trans_eq (by norm_num)
  have hsum : d.wholeDouble.value + d.fractionDouble.value < 2 ^ (66 : Int) := by
    have hfraction := d.fractionDouble_lt_one
    rw [Nat.cast_one, div_one] at herror
    norm_num
    linarith
  have hexponent := Magnitude.exponent_add_le hsum (by decide)
  rw [toDouble_eq, Magnitude.isFinite, decide_eq_true_iff]
  exact hexponent.trans (by decide)

/-! ## Going through the double -/

theorem readSeconds?_positional (hm : m.IsDouble) (hfinite : m.isFinite = true) :
    readSeconds? (String.ofList m.positional) = ofDouble? m := by
  obtain ⟨n, hread, hsign, hnearest⟩ := Magnitude.nearest?_positional hm hfinite
  rw [readSeconds?, String.toList_ofList, hread]
  simp [hnearest, hsign]

theorem readSeconds?_secondsText (d : Duration) : readSeconds? d.secondsText = ofDouble? d.toDouble :=
  readSeconds?_positional d.isDouble_toDouble d.isFinite_toDouble

theorem isEmpty_secondsText (d : Duration) : d.secondsText.isEmpty = false := by
  rw [Bool.eq_false_iff]
  intro hempty
  exact Magnitude.positional_ne_nil _ (String.ofList_injective (String.isEmpty_iff.1 hempty))

/-- A double within half a nanosecond is read as the duration. -/
theorem ofDouble?_of_near (hnear : |m.value - d.nanos / 1000000000| < 1 / 2000000000)
    (hlt : m.value < 18446744073709551616) : ofDouble? m = some d := by
  have hden : (0 : ℚ) < m.den := by exact_mod_cast m.den_pos
  have hshort : m.num < 18446744073709551616 * m.den := by
    rw [← Magnitude.num_div_den, div_lt_iff₀ hden] at hlt
    exact_mod_cast hlt
  have hscaled : ((m.num * 1000000000 : Nat) : ℚ) / m.den = m.value * 1000000000 := by
    rw [← Magnitude.num_div_den]
    push_cast
    ring
  obtain ⟨hlow, hhigh⟩ := abs_lt.1 hnear
  have hround : roundEven (m.num * 1000000000) m.den = d.nanos := by
    apply roundEven_eq m.den_pos
    · rw [hscaled]
      linarith
    · rw [hscaled]
      linarith
    · rw [hscaled]
      exact fun _ => ⟨by linarith, by linarith⟩
  rw [ofDouble?, if_pos hshort, hround, ofNanos?, dif_pos d.fits]

/-- **Short durations.** They are read as they were written, to the nanosecond. -/
theorem readSeconds?_of_short (h : d.nanos < 8388608 * 1000000000) : readSeconds? d.secondsText = some d := by
  have hseconds : d.seconds < 8388608 := Nat.div_lt_of_lt_mul (by omega)
  have hwhole := value_wholeDouble (d := d) (by omega)
  have hsum : d.wholeDouble.value + d.fractionDouble.value < 2 ^ (23 : Int) := by
    have hle : (d.seconds : ℚ) ≤ 8388607 := by exact_mod_cast Nat.le_of_lt_succ hseconds
    have hfraction := d.fractionDouble_lt_one
    norm_num
    linarith
  have herror : |d.toDouble.value - (d.wholeDouble.value + d.fractionDouble.value)| ≤ 1 / 2147483648 :=
    (Magnitude.abs_value_add_sub_le hsum (by decide)).trans_eq (by norm_num)
  obtain ⟨hlow, hhigh⟩ := abs_le.1 herror
  obtain ⟨hlow', hhigh'⟩ := abs_le.1 d.abs_fractionDouble_sub_le
  have hnanos := d.nanos_div_eq
  norm_num at hsum
  rw [readSeconds?_secondsText]
  generalize d.toDouble = m at hlow hhigh ⊢
  -- the two errors together stay below half a nanosecond
  apply ofDouble?_of_near
  · rw [abs_lt, hnanos]
    constructor <;> linarith
  · linarith

/-- **Whole seconds.** Up to 53 bits they are read as they were written. -/
theorem readSeconds?_of_whole (h : d.subseconds = 0) (h' : d.seconds < 9007199254740992) :
    readSeconds? d.secondsText = some d := by
  have hwhole := value_wholeDouble h'
  have hfraction : d.fractionDouble.value = 0 := by
    rw [fractionDouble, h, Magnitude.nearest_zero, Magnitude.div]
    simp [Magnitude.zero, Magnitude.num, Magnitude.nearest_zero, Magnitude.value]
  have hdouble : d.toDouble = d.wholeDouble :=
    Magnitude.add_eq_left (Magnitude.isDouble_nearest _ one_pos) hfraction
  have hnanos : (d.nanos : ℚ) / 1000000000 = d.seconds := by rw [nanos_div_eq, h, Nat.cast_zero, zero_div, add_zero]
  have hlt : (d.seconds : ℚ) < 18446744073709551616 := by exact_mod_cast d.seconds_lt
  rw [readSeconds?_secondsText, hdouble]
  apply ofDouble?_of_near
  · rw [hwhole, hnanos, sub_self, abs_zero]
    norm_num
  · rwa [hwhole]

/-- The double nearest to the longest duration is a nanosecond too long. -/
theorem readSeconds?_longest :
    longest.secondsText = "18446744073709552000" ∧ readSeconds? longest.secondsText = none := by
  decide +kernel

end Duration
end OracleIntake

import AnalyzerBench.Proofs.Decimal.Shortest

/-!
# Reading a number of the rounding interval

A number of the rounding interval of a double is read as the double (`ofScaled_eq`).  The binary order of the number is
that of the double, or one less if the double is a power of two and the number lies below it; the significand of the
number then rounds up to `2 ^ 53` and carries into the exponent.
-/

namespace AnalyzerBench.Binary64

open Decimal (Interval unit unit_pos reach two_pow_lt_ten_pow ten_pow_le_two_pow)

variable {x : Binary64} {r : ℚ} {num den : Nat}

private theorem pow_lt_pow_iff {a b : Int} : (2 : ℚ) ^ a < 2 ^ b ↔ a < b := zpow_lt_zpow_iff_right₀ (by norm_num)

private theorem unit_mul_pow (x : Binary64) (k : Int) : unit x * 2 ^ k = 2 ^ ((x.magnitude.2 : Int) - 1074 + k) := by
  rw [unit, ← zpow_add₀ (by norm_num)]

/-- What rounds to a double lies below `2 ^ 53` of its units. -/
private theorem lt_of_contains (hzero : x.isZero = false) (h : (Interval.ofBinary64 x).Contains r) :
    r < 2 ^ ((x.magnitude.2 : Int) - 1074 + 53) := by
  have hupper := (abs_le.1 (h.isNearest hzero).2.abs_sub_le).2
  have hsignificand : (x.magnitude.1 : ℚ) + 1 ≤ 2 ^ (53 : Int) := by exact_mod_cast x.magnitude_fst_lt
  rw [← unit_mul_pow, mul_comm, ← div_lt_iff₀ (unit_pos x)]
  linarith

/-- What rounds to a double but lies below `2 ^ 52` of its units lies just under a power of two, which is the double. -/
private theorem power_of_below (hzero : x.isZero = false) (h : (Interval.ofBinary64 x).Contains r)
    (hq : x.magnitude.2 ≠ 0) (hbelow : r / unit x < 2 ^ (52 : Int)) :
    x.magnitude.1 = 2 ^ 52 ∧ 2 ^ (52 : Int) - 1 / 4 ≤ r / unit x := by
  obtain ⟨hreach, hnearest⟩ := h.isNearest hzero
  have hm : x.magnitude.1 = 2 ^ 52 := by
    have hle := le_magnitude_fst hq
    have hlow := (abs_le.1 hnearest.abs_sub_le).1
    have hlt : (x.magnitude.1 : ℚ) < (2 ^ 52 + 1 : Nat) := by
      push_cast
      linarith
    have hlt' : x.magnitude.1 < 2 ^ 52 + 1 := by exact_mod_cast hlt
    omega
  have hquarter : reach x = 1 / 4 := if_pos ⟨hm, Nat.pos_of_ne_zero hq⟩
  rw [hquarter, hm] at hreach
  push_cast at hreach
  exact ⟨hm, hreach⟩

/-- The exponent of what rounds to a double is that of the double, or one less under a power of two. -/
private theorem order_cases (hzero : x.isZero = false) (h : (Interval.ofBinary64 x).Contains r) {b : Int}
    (hlower : (2 : ℚ) ^ b ≤ r) (hupper : r < 2 ^ (b + 1)) :
    max (b - 52) (-1074) = (x.magnitude.2 : Int) - 1074 ∨
      x.magnitude.1 = 2 ^ 52 ∧ max (b - 52) (-1074) = (x.magnitude.2 : Int) - 1075 ∧
        IsNearest (r / unit x * 2) (2 ^ 53) := by
  have hunit := unit_pos x
  have hb : b < (x.magnitude.2 : Int) - 1074 + 53 := pow_lt_pow_iff.1 (hlower.trans_lt (lt_of_contains hzero h))
  by_cases hsame : max (b - 52) (-1074) = (x.magnitude.2 : Int) - 1074
  · exact .inl hsame
  -- The exponent cannot go below that of a subnormal double, so the double is normal.
  have hq : x.magnitude.2 ≠ 0 := by
    intro hq
    rw [hq] at hsame hb
    omega
  have hbelow : r / unit x < 2 ^ (52 : Int) := by
    rw [div_lt_iff₀ hunit, mul_comm, unit_mul_pow]
    exact hupper.trans_le (zpow_le_zpow_right₀ (by norm_num) (by omega))
  obtain ⟨hm, hquarter⟩ := power_of_below hzero h hq hbelow
  refine .inr ⟨hm, ?_, ?_⟩
  · have hlow : (2 : ℚ) ^ ((x.magnitude.2 : Int) - 1074 + 51) < 2 ^ (b + 1) := by
      refine lt_of_le_of_lt ?_ hupper
      rw [← unit_mul_pow, mul_comm, ← le_div_iff₀ hunit]
      linarith
    have hb' := pow_lt_pow_iff.1 hlow
    omega
  · constructor
    · push_cast
      refine abs_le.2 ⟨?_, ?_⟩ <;> linarith
    · intro
      decide

/-- A number of the rounding interval of a double is rounded to the double without its sign. -/
theorem ofQuotient_eq (hfinite : x.isFinite = true) (hzero : x.isZero = false) (hnum : 0 < num) (hden : 0 < den)
    (h : (Interval.ofBinary64 x).Contains (num / den : ℚ)) : ofQuotient num den = x.negateIf x.isNegative := by
  have hround : ∀ (e : Int) (n : Nat), IsNearest ((num / den : ℚ) / 2 ^ e) n →
      roundQuotient (num * Power.den 2 e) (den * Power.num 2 e) = n := by
    intro e n hn
    refine roundQuotient_eq (Nat.mul_pos hden (Power.num_pos (by decide) e)) ?_
    rw [Power.mul_den_div_mul_num (by decide)]
    exact hn
  have hpattern : ((max (binaryOrder num den - 52) (-1074) + 1074).toNat * 0x10000000000000 +
      roundQuotient (num * Power.den 2 (max (binaryOrder num den - 52) (-1074)))
        (den * Power.num 2 (max (binaryOrder num den - 52) (-1074)))) = x.magnitude.2 * 2 ^ 52 + x.magnitude.1 := by
    obtain ⟨hlower, hupper⟩ := binaryOrder_spec hnum hden
    rcases order_cases hzero h hlower hupper with he | ⟨hm, he, hcarry⟩
    · rw [he, hround _ x.magnitude.1 (h.isNearest hzero).2]
      omega
    · have hq : x.magnitude.2 ≠ 0 := by
        intro hq
        rw [hq] at he
        omega
      have hhalf : (2 : ℚ) ^ ((x.magnitude.2 : Int) - 1075) = unit x / 2 := by
        rw [eq_div_iff (by norm_num), ← zpow_add_one₀ (by norm_num), unit]
        congr 1
        omega
      rw [he, hround _ (2 ^ 53) (by rw [hhalf, ← div_mul]; exact hcarry), hm]
      omega
  have hlt : x.magnitude.2 * 2 ^ 52 + x.magnitude.1 < 0x7FF0000000000000 := by
    have hsignificand := x.magnitude_fst_lt
    have hexponent := magnitude_snd_lt hfinite
    omega
  unfold ofQuotient
  dsimp only
  rw [hpattern, if_pos hlt, ofNat_magnitude]

private theorem le_of_contains (hzero : x.isZero = false) (h : (Interval.ofBinary64 x).Contains r) :
    (2 : ℚ) ^ (-1075 : Int) ≤ r := by
  have hunit := unit_pos x
  have hlow := (abs_le.1 (h.isNearest hzero).2.abs_sub_le).1
  have hsignificand : (1 : ℚ) ≤ x.magnitude.1 := by exact_mod_cast magnitude_fst_pos hzero
  have hhalf : 1 / 2 * unit x ≤ r := by
    rw [← le_div_iff₀ hunit]
    linarith
  have hsmallest : (2 : ℚ) ^ (-1075 : Int) * 2 ≤ unit x := by
    rw [← zpow_add_one₀ (by norm_num)]
    exact zpow_le_zpow_right₀ (by norm_num) (by omega)
  linarith

/-- Digits that stand for a number of the rounding interval are read as the double without its sign. -/
theorem ofScaled_eq {digits count : Nat} {exponent : Int} (hfinite : x.isFinite = true) (hzero : x.isZero = false)
    (hcount : digits < 10 ^ count) (h : (Interval.ofBinary64 x).Contains (digits * 10 ^ exponent)) :
    ofScaled digits count exponent = x.negateIf x.isNegative := by
  have hpow : (0 : ℚ) < 10 ^ exponent := zpow_pos (by norm_num) _
  have hsmall := ten_pow_le_two_pow.trans (le_of_contains hzero h)
  have hlarge : (digits * 10 ^ exponent : ℚ) < 10 ^ (309 : Int) := by
    have hexponent := magnitude_snd_lt hfinite
    calc (digits * 10 ^ exponent : ℚ) < 2 ^ ((x.magnitude.2 : Int) - 1074 + 53) := lt_of_contains hzero h
      _ ≤ 2 ^ (1024 : Int) := zpow_le_zpow_right₀ (by norm_num) (by omega)
      _ < 10 ^ (309 : Int) := two_pow_lt_ten_pow
  have hdigits : digits ≠ 0 := by
    rintro rfl
    have : (0 : ℚ) < 10 ^ (-331 : Int) := zpow_pos (by norm_num) _
    rw [Nat.cast_zero, zero_mul] at hsmall
    linarith
  have hupper : ¬ exponent > 310 := by
    intro hgt
    have hone : (1 : ℚ) ≤ digits := by exact_mod_cast Nat.pos_of_ne_zero hdigits
    have hle : (10 : ℚ) ^ exponent ≤ digits * 10 ^ exponent := le_mul_of_one_le_left hpow.le hone
    have hlt := (zpow_lt_zpow_iff_right₀ (by norm_num)).1 (hle.trans_lt hlarge)
    omega
  have hlower : ¬ exponent + count < -330 := by
    intro hlt
    have hcount' : (digits : ℚ) < 10 ^ count := by exact_mod_cast hcount
    have hlt' : (digits * 10 ^ exponent : ℚ) < 10 ^ (exponent + count) := by
      rw [zpow_add₀ (by norm_num), mul_comm, zpow_natCast]
      exact mul_lt_mul_of_pos_left hcount' hpow
    have hlt := (zpow_lt_zpow_iff_right₀ (by norm_num)).1 (hsmall.trans_lt hlt')
    omega
  rw [ofScaled, if_neg hdigits, if_neg hupper, if_neg hlower]
  refine ofQuotient_eq hfinite hzero (Nat.mul_pos (Nat.pos_of_ne_zero hdigits) (Power.num_pos (by decide) _))
    (Power.den_pos (by decide) _) ?_
  rw [Power.mul_num_div_den (by decide)]
  exact h

end AnalyzerBench.Binary64

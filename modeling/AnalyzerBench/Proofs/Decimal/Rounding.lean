import AnalyzerBench.Decimal.Reading
import Mathlib.Algebra.Order.Field.Basic
import Mathlib.Algebra.Order.Field.Power
import Mathlib.Tactic.Linarith
import Mathlib.Tactic.NormNum
import Mathlib.Tactic.Positivity
import Mathlib.Tactic.Ring

/-!
# Rounding fractions

The nearest natural number to a fraction, a tie going to the even one, is unique (`IsNearest.unique`), and
`roundQuotient` finds it.  The binary order of a fraction brackets it by two powers of two.
-/

namespace AnalyzerBench

/-! ### Powers -/

namespace Power

variable {base : Nat}

theorem num_pos (h : 0 < base) (k : Int) : 0 < num base k := Nat.pow_pos h

theorem den_pos (h : 0 < base) (k : Int) : 0 < den base k := Nat.pow_pos h

/-- The two parts of a power make up the power. -/
theorem num_div_den (h : 0 < base) (k : Int) : (num base k : ℚ) / den base k = (base : ℚ) ^ k := by
  have hbase : (base : ℚ) ≠ 0 := by
    have := h.ne'
    exact_mod_cast this
  have hnum : (num base k : ℚ) = (base : ℚ) ^ ((k.toNat : Nat) : Int) := by
    rw [zpow_natCast, num]
    exact Nat.cast_pow base _
  have hden : (den base k : ℚ) = (base : ℚ) ^ (((-k).toNat : Nat) : Int) := by
    rw [zpow_natCast, den]
    exact Nat.cast_pow base _
  rw [hnum, hden, ← zpow_sub₀ hbase]
  congr 1
  omega

theorem den_ne_zero (h : 0 < base) (k : Int) : (den base k : ℚ) ≠ 0 := by
  have := (den_pos h k).ne'
  exact_mod_cast this

theorem num_eq (h : 0 < base) (k : Int) : (num base k : ℚ) = (base : ℚ) ^ k * den base k := by
  rw [← num_div_den h k, div_mul_cancel₀ _ (den_ne_zero h k)]

/-- A number of steps of a grid. -/
theorem mul_num_div_den (h : 0 < base) (n : Nat) (k : Int) :
    ((n * num base k : Nat) : ℚ) / den base k = n * (base : ℚ) ^ k := by
  rw [Nat.cast_mul, mul_div_assoc, num_div_den h]

/-- A fraction in steps of a grid. -/
theorem mul_den_div_mul_num (h : 0 < base) (a b : Nat) (k : Int) :
    ((a * den base k : Nat) : ℚ) / (b * num base k : Nat) = a / b / (base : ℚ) ^ k := by
  rw [Nat.cast_mul, Nat.cast_mul, num_eq h k, ← mul_assoc, mul_div_mul_right _ _ (den_ne_zero h k), div_div]

/-- A fraction is compared with a power. -/
theorem pow_le_div_iff (h : 0 < base) {b : Nat} (hb : 0 < b) (a : Nat) (k : Int) :
    (base : ℚ) ^ k ≤ a / b ↔ b * num base k ≤ a * den base k := by
  have hb' : (0 : ℚ) < b := by exact_mod_cast hb
  have hden : (0 : ℚ) < den base k := by exact_mod_cast den_pos h k
  have hcast : b * num base k ≤ a * den base k ↔ (b : ℚ) * num base k ≤ a * den base k := by exact_mod_cast Iff.rfl
  rw [hcast, num_eq h k, le_div_iff₀ hb', ← mul_assoc, mul_le_mul_iff_left₀ hden, mul_comm]

theorem num_of_nonneg {k : Int} (hk : 0 ≤ k) : (num base k : ℚ) = (base : ℚ) ^ k := by
  obtain ⟨n, rfl⟩ := Int.eq_ofNat_of_zero_le hk
  rw [zpow_natCast, num, Int.toNat_natCast]
  exact Nat.cast_pow base n

end Power

namespace Binary64

/-! ### Nearest natural numbers -/

/-- No natural number is nearer to `r` than `n`, and if another one is as near, then `n` is even. -/
structure IsNearest (r : ℚ) (n : Nat) : Prop where
  abs_sub_le : |r - n| ≤ 1 / 2
  even_of_tie : |r - n| = 1 / 2 → n % 2 = 0

variable {num den n n' : Nat} {r : ℚ}

theorem IsNearest.unique (h : IsNearest r n) (h' : IsNearest r n') : n = n' := by
  wlog hlt : n < n' generalizing n n'
  · rcases lt_trichotomy n n' with hn | hn | hn
    · exact this h h' hn
    · exact hn
    · exact (this h' h hn).symm
  have hgap : (n : ℚ) + 1 ≤ n' := by exact_mod_cast hlt
  obtain ⟨-, hupper⟩ := abs_le.1 h.abs_sub_le
  obtain ⟨hlower, -⟩ := abs_le.1 h'.abs_sub_le
  -- Two nearest numbers are neighbours, with `r` half way between them, so both would be even.
  have hr : r = n + 1 / 2 := by linarith
  have hn' : (n' : ℚ) = n + 1 := by linarith
  have heven := h.even_of_tie (by rw [hr]; norm_num)
  have heven' := h'.even_of_tie (by rw [hr, hn']; norm_num)
  have hsucc : n' = n + 1 := by exact_mod_cast hn'
  omega

private theorem roundQuotient_cases (num den : Nat) :
    (roundQuotient num den = num / den ∧
      (2 * (num % den) < den ∨ 2 * (num % den) = den ∧ num / den % 2 = 0)) ∨
    (roundQuotient num den = num / den + 1 ∧
      (den < 2 * (num % den) ∨ 2 * (num % den) = den ∧ (num / den + 1) % 2 = 0)) := by
  unfold roundQuotient
  simp only [Bool.or_eq_true, decide_eq_true_eq, Bool.and_eq_true, beq_iff_eq]
  split
  · next h => exact .inl ⟨rfl, h⟩
  · next h =>
    refine .inr ⟨rfl, ?_⟩
    omega

private theorem le_half_iff (h : 0 < den) : (n / den : ℚ) ≤ 1 / 2 ↔ 2 * n ≤ den := by
  have hden : (0 : ℚ) < den := by exact_mod_cast h
  rw [div_le_div_iff₀ hden (by norm_num), one_mul, mul_comm]
  exact_mod_cast Iff.rfl

private theorem half_le_iff (h : 0 < den) : 1 / 2 ≤ (n / den : ℚ) ↔ den ≤ 2 * n := by
  have hden : (0 : ℚ) < den := by exact_mod_cast h
  rw [div_le_div_iff₀ (by norm_num) hden, one_mul, mul_comm (n : ℚ)]
  exact_mod_cast Iff.rfl

/-- A fraction is its quotient and a fraction below one. -/
private theorem div_eq_quotient_add (h : 0 < den) :
    (num / den : ℚ) = (num / den : Nat) + ((num % den : Nat) / den : ℚ) := by
  have hden : (den : ℚ) ≠ 0 := by
    have := h.ne'
    exact_mod_cast this
  rw [eq_comm, ← mul_left_inj' hden, add_mul, div_mul_cancel₀ _ hden, div_mul_cancel₀ _ hden]
  exact_mod_cast Nat.div_add_mod' num den

theorem isNearest_roundQuotient (num : Nat) (h : 0 < den) : IsNearest (num / den : ℚ) (roundQuotient num den) := by
  have hden : (0 : ℚ) < den := by exact_mod_cast h
  have hpos : (0 : ℚ) ≤ (num % den : Nat) / den := by positivity
  have hlt : ((num % den : Nat) / den : ℚ) < 1 := (div_lt_one hden).2 (by exact_mod_cast Nat.mod_lt num h)
  rcases roundQuotient_cases num den with ⟨hq, hcases⟩ | ⟨hq, hcases⟩
  · have hle : ((num % den : Nat) / den : ℚ) ≤ 1 / 2 := (le_half_iff h).2 (by omega)
    rw [hq, div_eq_quotient_add h]
    constructor
    · rw [add_sub_cancel_left, abs_of_nonneg hpos]
      exact hle
    · intro htie
      rw [add_sub_cancel_left, abs_of_nonneg hpos] at htie
      have := (half_le_iff h).1 htie.ge
      omega
  · have hle : 1 / 2 ≤ ((num % den : Nat) / den : ℚ) := (half_le_iff h).2 (by omega)
    have habs : |(num / den : ℚ) - ((num / den + 1 : Nat) : ℚ)| = 1 - (num % den : Nat) / den := by
      rw [div_eq_quotient_add h, abs_sub_comm, abs_of_nonneg] <;> push_cast <;> linarith
    rw [hq]
    constructor
    · rw [habs]
      linarith
    · intro htie
      have := (le_half_iff h).1 (by linarith : ((num % den : Nat) / den : ℚ) ≤ 1 / 2)
      omega

theorem roundQuotient_eq (h : 0 < den) (hn : IsNearest (num / den : ℚ) n) : roundQuotient num den = n :=
  (isNearest_roundQuotient num h).unique hn

/-! ### The binary order -/

private theorem log2_spec (h : 0 < n) : (2 : ℚ) ^ (n.log2 : Int) ≤ n ∧ (n : ℚ) < 2 ^ ((n.log2 : Int) + 1) := by
  have hlow : 2 ^ n.log2 ≤ n := Nat.log2_self_le h.ne'
  have hhigh : n < 2 ^ (n.log2 + 1) := Nat.lt_log2_self
  constructor
  · rw [zpow_natCast]
    exact_mod_cast hlow
  · exact_mod_cast hhigh

private theorem le_div_of_log2 (hnum : 0 < num) (hden : 0 < den) :
    (2 : ℚ) ^ ((num.log2 : Int) - den.log2 - 1) ≤ num / den := by
  have hden' : (0 : ℚ) < den := by exact_mod_cast hden
  rw [le_div_iff₀ hden']
  calc (2 : ℚ) ^ ((num.log2 : Int) - den.log2 - 1) * den
      ≤ 2 ^ ((num.log2 : Int) - den.log2 - 1) * 2 ^ ((den.log2 : Int) + 1) := by
        have := (log2_spec hden).2
        gcongr
    _ = 2 ^ (num.log2 : Int) := by
      rw [← zpow_add₀ (by norm_num)]
      congr 1
      omega
    _ ≤ num := (log2_spec hnum).1

private theorem div_lt_of_log2 (hnum : 0 < num) (hden : 0 < den) :
    (num / den : ℚ) < 2 ^ ((num.log2 : Int) - den.log2 + 1) := by
  have hden' : (0 : ℚ) < den := by exact_mod_cast hden
  rw [div_lt_iff₀ hden']
  calc (num : ℚ) < 2 ^ ((num.log2 : Int) + 1) := (log2_spec hnum).2
    _ = 2 ^ ((num.log2 : Int) - den.log2 + 1) * 2 ^ (den.log2 : Int) := by
      rw [← zpow_add₀ (by norm_num)]
      congr 1
      omega
    _ ≤ 2 ^ ((num.log2 : Int) - den.log2 + 1) * den := by
      have := (log2_spec hden).1
      gcongr

theorem binaryOrder_spec (hnum : 0 < num) (hden : 0 < den) :
    (2 : ℚ) ^ binaryOrder num den ≤ num / den ∧ (num / den : ℚ) < 2 ^ (binaryOrder num den + 1) := by
  have htest := Power.pow_le_div_iff (by decide : 0 < 2) hden num
  unfold binaryOrder
  dsimp only
  split
  · next h => exact ⟨(htest _).2 h, div_lt_of_log2 hnum hden⟩
  · next h =>
    rw [← htest, not_le] at h
    refine ⟨le_div_of_log2 hnum hden, ?_⟩
    rw [sub_add_cancel]
    exact h

end Binary64

end AnalyzerBench

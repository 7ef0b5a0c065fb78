import AnalyzerBench.Decimal.Shortest
import AnalyzerBench.Proofs.Binary64
import AnalyzerBench.Proofs.Decimal.Rounding

/-!
# Shortest digits lie in the rounding interval

The digits of a positive finite double stand for a number of its rounding interval (`contains_shortest`).  The search
among the decimal grids cannot fail: the double is at least `10 ^ 16` steps of the grid with seventeen digits, while its
significand is below `2 ^ 53`, so a step of that grid is narrower than the interval.
-/

namespace AnalyzerBench.Decimal

open Binary64 (IsNearest)

variable {x : Binary64} {i : Interval} {r : ℚ}

/-! ### The interval -/

namespace Interval

/-- Whether a number lies in the interval. -/
structure Contains (i : Interval) (r : ℚ) : Prop where
  lower_le : (i.lower : ℚ) ≤ r * i.scale
  le_upper : r * i.scale ≤ i.upper
  strict : i.closed = false → (i.lower : ℚ) < r * i.scale ∧ r * i.scale < i.upper

theorem contains_of_lt (hlower : (i.lower : ℚ) < r * i.scale) (hupper : r * i.scale < i.upper) : i.Contains r :=
  ⟨hlower.le, hupper.le, fun _ => ⟨hlower, hupper⟩⟩

theorem holds_iff {num den : Nat} (hden : 0 < den) : i.holds num den = true ↔ i.Contains (num / den : ℚ) := by
  have hden' : (0 : ℚ) < den := by exact_mod_cast hden
  have hle : ∀ a : Nat, (a : ℚ) ≤ num / den * i.scale ↔ a * den ≤ num * i.scale := by
    intro a
    rw [div_mul_eq_mul_div, le_div_iff₀ hden']
    exact_mod_cast Iff.rfl
  have hlt : ∀ a : Nat, (a : ℚ) < num / den * i.scale ↔ a * den < num * i.scale := by
    intro a
    rw [div_mul_eq_mul_div, lt_div_iff₀ hden']
    exact_mod_cast Iff.rfl
  have hle' : ∀ a : Nat, (num / den * i.scale : ℚ) ≤ a ↔ num * i.scale ≤ a * den := by
    intro a
    rw [← not_lt, hlt, not_lt]
  have hlt' : ∀ a : Nat, (num / den * i.scale : ℚ) < a ↔ num * i.scale < a * den := by
    intro a
    rw [← not_le, hle, not_le]
  unfold holds
  dsimp only
  split
  · next hclosed =>
    rw [Bool.and_eq_true, decide_eq_true_eq, decide_eq_true_eq, ← hle, ← hle']
    exact ⟨fun h => ⟨h.1, h.2, by simp [hclosed]⟩, fun h => ⟨h.lower_le, h.le_upper⟩⟩
  · next hclosed =>
    rw [Bool.and_eq_true, decide_eq_true_eq, decide_eq_true_eq, ← hlt, ← hlt']
    exact ⟨fun h => contains_of_lt h.1 h.2, fun h => h.strict (Bool.eq_false_iff.2 hclosed)⟩

end Interval

/-! ### Units in the last place -/

/-- The unit in the last place. -/
def unit (x : Binary64) : ℚ := 2 ^ ((x.magnitude.2 : Int) - 1074)

/-- How far the interval reaches down, in units in the last place. -/
def reach (x : Binary64) : ℚ := if x.magnitude.1 = 2 ^ 52 ∧ 0 < x.magnitude.2 then 1 / 4 else 1 / 2

theorem unit_pos (x : Binary64) : 0 < unit x := zpow_pos (by norm_num) _

private theorem scale_eq (x : Binary64) : (Interval.ofBinary64 x).scale = Power.num 2 1076 := by
  rw [Interval.ofBinary64]

private theorem scale_pos (x : Binary64) : 0 < (Interval.ofBinary64 x).scale := by
  rw [scale_eq]
  exact Power.num_pos (by decide) 1076

private theorem unit_mul_scale (x : Binary64) : unit x * (Interval.ofBinary64 x).scale = 4 * 2 ^ x.magnitude.2 := by
  have hexponent : (x.magnitude.2 : Int) - 1074 + 1076 = 2 + x.magnitude.2 := by omega
  rw [scale_eq, Power.num_of_nonneg (by decide), unit, Nat.cast_ofNat, ← zpow_add₀ (by norm_num), hexponent,
    zpow_add₀ (by norm_num), zpow_natCast]
  norm_num

private theorem value_eq (x : Binary64) :
    ((Interval.ofBinary64 x).value : ℚ) = x.magnitude.1 * (unit x * (Interval.ofBinary64 x).scale) := by
  have hvalue : (Interval.ofBinary64 x).value = 4 * x.magnitude.1 * 2 ^ x.magnitude.2 := rfl
  rw [unit_mul_scale, hvalue]
  push_cast
  ring

private theorem upper_eq (x : Binary64) :
    ((Interval.ofBinary64 x).upper : ℚ) = (x.magnitude.1 + 1 / 2) * (unit x * (Interval.ofBinary64 x).scale) := by
  have hupper : (Interval.ofBinary64 x).upper = 4 * x.magnitude.1 * 2 ^ x.magnitude.2 + 2 * 2 ^ x.magnitude.2 := rfl
  rw [unit_mul_scale, hupper]
  push_cast
  ring

private theorem lower_eq (h : x.isZero = false) :
    ((Interval.ofBinary64 x).lower : ℚ) = (x.magnitude.1 - reach x) * (unit x * (Interval.ofBinary64 x).scale) := by
  have hlower : (Interval.ofBinary64 x).lower = 4 * x.magnitude.1 * 2 ^ x.magnitude.2 -
      if x.magnitude.1 = 2 ^ 52 ∧ 0 < x.magnitude.2 then 2 ^ x.magnitude.2 else 2 * 2 ^ x.magnitude.2 := by
    simp only [Interval.ofBinary64, Bool.and_eq_true, decide_eq_true_eq, gt_iff_lt]
    rfl
  have hquarters : 4 * 2 ^ x.magnitude.2 ≤ 4 * x.magnitude.1 * 2 ^ x.magnitude.2 := by
    have hpos := Binary64.magnitude_fst_pos h
    exact Nat.mul_le_mul_right _ (by omega)
  rw [unit_mul_scale, hlower, reach]
  split
  · rw [Nat.cast_sub (by omega)]
    push_cast
    ring
  · rw [Nat.cast_sub (by omega)]
    push_cast
    ring

private theorem unit_mul_scale_pos (x : Binary64) : 0 < unit x * ((Interval.ofBinary64 x).scale : ℚ) := by
  rw [unit_mul_scale]
  positivity

private theorem mul_scale (x : Binary64) (r : ℚ) :
    r * (Interval.ofBinary64 x).scale = r / unit x * (unit x * (Interval.ofBinary64 x).scale) := by
  rw [← mul_assoc, div_mul_cancel₀ _ (unit_pos x).ne']

/-- A number that lies near enough to a double rounds to it. -/
theorem contains_of_near (h : x.isZero = false) (hlower : x.magnitude.1 - reach x < r / unit x)
    (hupper : r / unit x < x.magnitude.1 + 1 / 2) : (Interval.ofBinary64 x).Contains r := by
  refine Interval.contains_of_lt ?_ ?_
  · rw [mul_scale, lower_eq h]
    exact mul_lt_mul_of_pos_right hlower (unit_mul_scale_pos x)
  · rw [mul_scale, upper_eq]
    exact mul_lt_mul_of_pos_right hupper (unit_mul_scale_pos x)

theorem reach_le (x : Binary64) : reach x ≤ 1 / 2 := by
  unfold reach
  split <;> norm_num

/-- The significand of a double is the nearest number to what rounds to the double, in units in the last place. -/
theorem Interval.Contains.isNearest (h : (Interval.ofBinary64 x).Contains r) (hz : x.isZero = false) :
    x.magnitude.1 - reach x ≤ r / unit x ∧ IsNearest (r / unit x) x.magnitude.1 := by
  have hpos := unit_mul_scale_pos x
  have hreach := reach_le x
  have hlower := h.lower_le
  have hupper := h.le_upper
  rw [mul_scale, lower_eq hz, mul_le_mul_iff_left₀ hpos] at hlower
  rw [mul_scale, upper_eq, mul_le_mul_iff_left₀ hpos] at hupper
  refine ⟨hlower, abs_le.2 ⟨by linarith, by linarith⟩, fun htie => ?_⟩
  by_contra hodd
  have hopen : (Interval.ofBinary64 x).closed = false := by
    simpa [Interval.ofBinary64] using hodd
  obtain ⟨hlower', hupper'⟩ := h.strict hopen
  rw [mul_scale, lower_eq hz, mul_lt_mul_iff_left₀ hpos] at hlower'
  rw [mul_scale, upper_eq, mul_lt_mul_iff_left₀ hpos] at hupper'
  have hstrict : |r / unit x - x.magnitude.1| < 1 / 2 := abs_lt.2 ⟨by linarith, by linarith⟩
  exact hstrict.ne htie

/-! ### Grids -/

/-- Of the two neighbours of a value on the grid, the nearer one is tried first. -/
private theorem gridPoint?_eq (i : Interval) (k : Int) :
    ∃ other, i.gridPoint? k =
      let nearer := Binary64.roundQuotient (i.value * Power.den 10 k) (i.scale * Power.num 10 k)
      if nearer > 0 && i.holds (nearer * Power.num 10 k) (Power.den 10 k) then some nearer
      else if other > 0 && i.holds (other * Power.num 10 k) (Power.den 10 k) then some other
      else none :=
  ⟨_, rfl⟩

private theorem holds_step {n : Nat} {k : Int} :
    i.holds (n * Power.num 10 k) (Power.den 10 k) = true ↔ i.Contains (n * 10 ^ k) := by
  rw [Interval.holds_iff (Power.den_pos (by decide) k), Power.mul_num_div_den (by decide), Nat.cast_ofNat]

theorem Interval.contains_of_gridPoint? {k : Int} {n : Nat} (h : i.gridPoint? k = some n) :
    i.Contains (n * 10 ^ k) := by
  obtain ⟨other, hgrid⟩ := gridPoint?_eq i k
  rw [hgrid] at h
  dsimp only at h
  split at h
  · next hnear =>
    obtain rfl := Option.some.inj h
    rw [Bool.and_eq_true, holds_step] at hnear
    exact hnear.2
  · split at h
    · next hother =>
      obtain rfl := Option.some.inj h
      rw [Bool.and_eq_true, holds_step] at hother
      exact hother.2
    · cases h

/-- A grid that is finer than the interval has a point in it. -/
theorem Interval.isSome_gridPoint? {k : Int} (hscale : 0 < i.scale) (hcoarse : (10 : ℚ) ^ k ≤ i.value / i.scale)
    (hfine : ∀ r : ℚ, |r - i.value / i.scale| ≤ 10 ^ k / 2 → i.Contains r) : (i.gridPoint? k).isSome = true := by
  have hstep : (0 : ℚ) < 10 ^ k := zpow_pos (by norm_num) k
  have hden := Nat.mul_pos hscale (Power.num_pos (by decide : 0 < 10) k)
  have hnearest := Binary64.isNearest_roundQuotient (i.value * Power.den 10 k) hden
  obtain ⟨other, hgrid⟩ := gridPoint?_eq i k
  rw [Power.mul_den_div_mul_num (by decide), Nat.cast_ofNat] at hnearest
  generalize Binary64.roundQuotient _ _ = nearer at hnearest hgrid
  have hone : 1 ≤ i.value / i.scale / (10 : ℚ) ^ k := (one_le_div hstep).2 hcoarse
  have hnear := hnearest.abs_sub_le
  have hpos : 0 < nearer := by
    have hle := (abs_le.1 hnear).2
    have : (0 : ℚ) < nearer := by linarith
    exact_mod_cast this
  have hcontains : i.Contains (nearer * 10 ^ k) := by
    refine hfine _ ?_
    have hdist : nearer * 10 ^ k - i.value / i.scale = -((i.value / i.scale / (10 : ℚ) ^ k - nearer) * 10 ^ k) := by
      rw [sub_mul, div_mul_cancel₀ _ hstep.ne']
      ring
    rw [hdist, abs_neg, abs_mul, abs_of_pos hstep, ← one_div_mul_eq_div 2]
    exact mul_le_mul_of_nonneg_right hnear hstep.le
  rw [hgrid, if_pos (by rw [Bool.and_eq_true, decide_eq_true_eq, holds_step]; exact ⟨hpos, hcontains⟩)]
  rfl

/-! ### The search -/

/-- A search that reaches a grid with a point of the interval finds a point of the interval. -/
theorem Interval.contains_search {order : Int} {count steps last : Nat} (hfirst : count ≤ last)
    (hlast : last < count + steps) (h : (i.gridPoint? (order - last)).isSome = true) :
    i.Contains ((i.search order count steps).1 * 10 ^ (i.search order count steps).2) := by
  induction steps generalizing count with
  | zero => omega
  | succ steps ih =>
    unfold search
    dsimp only
    split
    · next n hn => exact Interval.contains_of_gridPoint? hn
    · next hnone =>
      have hne : count ≠ last := by
        rintro rfl
        rw [hnone] at h
        cases h
      exact ih (by omega) (by omega)

theorem decimalOrder_spec {num den : Nat} {bound : Int} (steps : Nat) (hden : 0 < den)
    (h : (num / den : ℚ) < 10 ^ bound) :
    (num / den : ℚ) < 10 ^ decimalOrder num den bound steps ∧
      ((10 : ℚ) ^ (decimalOrder num den bound steps - 1) ≤ num / den ∨
        decimalOrder num den bound steps = bound - steps) := by
  have htest : ∀ k : Int, num * Power.den 10 k < den * Power.num 10 k ↔ (num / den : ℚ) < 10 ^ k := by
    intro k
    rw [← not_le, ← Power.pow_le_div_iff (by decide) hden, not_le, Nat.cast_ofNat]
  induction steps generalizing bound with
  | zero => exact ⟨h, .inr (by rw [decimalOrder]; omega)⟩
  | succ steps ih =>
    unfold decimalOrder
    dsimp only
    split
    · next hlt =>
      obtain ⟨hupper, hlower⟩ := ih ((htest _).1 hlt)
      refine ⟨hupper, hlower.imp_right fun heq => ?_⟩
      rw [heq]
      omega
    · next hge =>
      rw [htest, not_lt] at hge
      exact ⟨h, .inl hge⟩

theorem dropZeros_spec (n : Nat) (k : Int) (steps : Nat) :
    ((dropZeros n k steps).1 : ℚ) * 10 ^ (dropZeros n k steps).2 = n * 10 ^ k := by
  induction steps generalizing n k with
  | zero => rfl
  | succ steps ih =>
    unfold dropZeros
    split
    · next hzero =>
      have hten : (n : ℚ) = (n / 10 : Nat) * 10 := by
        have : n = n / 10 * 10 := by omega
        exact_mod_cast this
      rw [ih, zpow_add_one₀ (by norm_num), hten]
      ring
    · rfl

/-! ### The digits of a double -/

private theorem value_div_scale (x : Binary64) :
    ((Interval.ofBinary64 x).value : ℚ) / (Interval.ofBinary64 x).scale = x.magnitude.1 * unit x := by
  have hne := right_ne_zero_of_mul (unit_mul_scale_pos x).ne'
  rw [value_eq, ← mul_assoc, mul_div_cancel_right₀ _ hne]

theorem two_pow_lt_ten_pow : (2 : ℚ) ^ (1024 : Int) < 10 ^ (309 : Int) := by
  have hnat : 2 ^ 1024 < 10 ^ 309 := by decide +kernel
  exact_mod_cast hnat

theorem ten_pow_le_two_pow : (10 : ℚ) ^ (-331 : Int) ≤ 2 ^ (-1075 : Int) := by
  have hnat : 2 ^ 1075 ≤ 10 ^ 331 := by decide +kernel
  rw [zpow_neg, zpow_neg]
  exact inv_anti₀ (by positivity) (by exact_mod_cast hnat)

private theorem magnitude_lt (h : x.isFinite = true) : x.magnitude.1 * unit x < 10 ^ (309 : Int) := by
  have hsignificand : (x.magnitude.1 : ℚ) < 2 ^ (53 : Int) := by exact_mod_cast x.magnitude_fst_lt
  have hunit : unit x ≤ 2 ^ (971 : Int) := by
    have := Binary64.magnitude_snd_lt h
    exact zpow_le_zpow_right₀ (by norm_num) (by omega)
  calc x.magnitude.1 * unit x < 2 ^ (53 : Int) * 2 ^ (971 : Int) :=
        mul_lt_mul hsignificand hunit (unit_pos x) (by positivity)
    _ = 2 ^ (1024 : Int) := by rw [← zpow_add₀ (by norm_num)]; rfl
    _ < 10 ^ (309 : Int) := two_pow_lt_ten_pow

private theorem le_magnitude (h : x.isZero = false) : (10 : ℚ) ^ (-331 : Int) ≤ x.magnitude.1 * unit x := by
  have hsignificand : (1 : ℚ) ≤ x.magnitude.1 := by exact_mod_cast Binary64.magnitude_fst_pos h
  have hunit : (2 : ℚ) ^ (-1075 : Int) ≤ unit x := zpow_le_zpow_right₀ (by norm_num) (by omega)
  calc (10 : ℚ) ^ (-331 : Int) ≤ 2 ^ (-1075 : Int) := ten_pow_le_two_pow
    _ ≤ 1 * unit x := by rw [one_mul]; exact hunit
    _ ≤ x.magnitude.1 * unit x := mul_le_mul_of_nonneg_right hsignificand (unit_pos x).le

/-- Half a step of the grid with seventeen digits does not lead out of the interval. -/
private theorem half_step_lt_reach {step : ℚ} (hstep : step * 10 ^ 16 ≤ x.magnitude.1 * unit x) :
    step / 2 < reach x * unit x := by
  have hunit := unit_pos x
  unfold reach
  split
  · next hpower =>
    rw [hpower.1] at hstep
    push_cast at hstep
    linarith
  · have hsignificand : (x.magnitude.1 : ℚ) < 2 ^ 53 := by exact_mod_cast x.magnitude_fst_lt
    have hlt : x.magnitude.1 * unit x < 2 ^ 53 * unit x := mul_lt_mul_of_pos_right hsignificand hunit
    linarith

/-- The grid with seventeen digits has a point that rounds to the double. -/
private theorem isSome_gridPoint?_seventeen (h : x.isZero = false) {order : Int}
    (horder : (10 : ℚ) ^ (order - 1) ≤ x.magnitude.1 * unit x) :
    ((Interval.ofBinary64 x).gridPoint? (order - 17)).isSome = true := by
  have hunit := unit_pos x
  have hstep : (10 : ℚ) ^ (order - 17) * 10 ^ 16 ≤ x.magnitude.1 * unit x := by
    have hexponent : order - 17 + (16 : Nat) = order - 1 := by omega
    rw [← zpow_natCast, ← zpow_add₀ (by norm_num), hexponent]
    exact horder
  have hreach := half_step_lt_reach hstep
  have hpos : (0 : ℚ) < 10 ^ (order - 17) := zpow_pos (by norm_num) _
  refine Interval.isSome_gridPoint? (scale_pos x) ?_ fun r hr => ?_
  · rw [value_div_scale]
    linarith
  · rw [value_div_scale] at hr
    obtain ⟨hlower, hupper⟩ := abs_le.1 hr
    refine contains_of_near h ?_ ?_
    · rw [lt_div_iff₀ hunit, sub_mul]
      linarith
    · have hhalf := mul_le_mul_of_nonneg_right (reach_le x) hunit.le
      rw [div_lt_iff₀ hunit, add_mul]
      linarith

/-- The shortest digits of a double stand for a number that rounds to the double. -/
theorem contains_shortest (hfinite : x.isFinite = true) (hzero : x.isZero = false) :
    (shortest x).count = (Nat.toDigits 10 (shortest x).digits).length ∧
      (Interval.ofBinary64 x).Contains
        ((shortest x).digits * 10 ^ ((shortest x).point - (shortest x).count)) := by
  have hbound := magnitude_lt hfinite
  rw [← value_div_scale] at hbound
  obtain ⟨-, horder⟩ := decimalOrder_spec 640 (scale_pos x) hbound
  have hleast : (10 : ℚ) ^ (decimalOrder (Interval.ofBinary64 x).value (Interval.ofBinary64 x).scale 309 640 - 1) ≤
      x.magnitude.1 * unit x := by
    rcases horder with hle | hlast
    · rwa [value_div_scale] at hle
    · -- An order that was not found in 640 steps is below that of every positive double.
      have hle := le_magnitude hzero
      rw [hlast]
      exact le_trans (zpow_le_zpow_right₀ (by norm_num) (by decide)) hle
  -- The search ends at the grid with seventeen digits at the latest.
  have hcontains := Interval.contains_search (by decide : 1 ≤ 17) (by decide : 17 < 1 + 17)
    (isSome_gridPoint?_seventeen hzero hleast)
  unfold shortest
  dsimp only
  generalize (Interval.ofBinary64 x).search _ 1 17 = found at hcontains
  obtain ⟨n, k⟩ := found
  have hvalue := dropZeros_spec n k 17
  generalize dropZeros n k 17 = dropped at hvalue
  obtain ⟨n', k'⟩ := dropped
  refine ⟨rfl, ?_⟩
  dsimp only
  rw [add_sub_cancel_right, hvalue]
  exact hcontains

end AnalyzerBench.Decimal

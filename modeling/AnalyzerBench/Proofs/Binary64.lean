import AnalyzerBench.Binary64
import Mathlib.Algebra.Group.Nat.Defs

/-!
# The fields of a bit pattern

The sign, the exponent and the significand of a double are the digits of its bit pattern in mixed base
(`toNat_bits`), so they determine it (`ext_fields`).  A change of sign leaves the other two fields alone, and the
magnitude holds them both (`magnitude_eq`).
-/

namespace AnalyzerBench.Binary64

variable {x y : Binary64}

/-! ### Fields -/

theorem toNat_isNegative (x : Binary64) : x.isNegative.toNat = x.bits.toNat / 2 ^ 63 := by
  have hlt : x.bits.toNat / 2 ^ 63 < 2 := by
    have := x.bits.toNat_lt
    omega
  have hshift : (x.bits >>> 63).toNat = x.bits.toNat / 2 ^ 63 := by
    simp [UInt64.toNat_shiftRight, Nat.shiftRight_eq_div_pow]
  have hone : x.isNegative = true ↔ x.bits.toNat / 2 ^ 63 = 1 := by
    rw [isNegative, beq_iff_eq, ← UInt64.toNat_inj, hshift]
    rfl
  cases h : x.isNegative with
  | false =>
    have hne : ¬ x.bits.toNat / 2 ^ 63 = 1 := by
      rw [← hone, h]
      simp
    simp only [Bool.toNat_false]
    omega
  | true => exact (hone.1 h).symm

theorem exponentField_eq (x : Binary64) : x.exponentField = x.bits.toNat / 2 ^ 52 % 2 ^ 11 := by
  have hmask : (0x7FF : UInt64).toNat = 2 ^ 11 - 1 := rfl
  rw [exponentField, UInt64.toNat_and, hmask, Nat.and_two_pow_sub_one_eq_mod, UInt64.toNat_shiftRight,
    Nat.shiftRight_eq_div_pow]
  rfl

theorem significandField_eq (x : Binary64) : x.significandField = x.bits.toNat % 2 ^ 52 := by
  have hmask : (0xFFFFFFFFFFFFF : UInt64).toNat = 2 ^ 52 - 1 := rfl
  rw [significandField, UInt64.toNat_and, hmask, Nat.and_two_pow_sub_one_eq_mod]

theorem exponentField_lt (x : Binary64) : x.exponentField < 2 ^ 11 := by
  rw [exponentField_eq]
  exact Nat.mod_lt _ (by decide)

theorem significandField_lt (x : Binary64) : x.significandField < 2 ^ 52 := by
  rw [significandField_eq]
  exact Nat.mod_lt _ (by decide)

theorem toNat_bits (x : Binary64) :
    x.bits.toNat = x.isNegative.toNat * 2 ^ 63 + x.exponentField * 2 ^ 52 + x.significandField := by
  rw [toNat_isNegative, exponentField_eq, significandField_eq]
  omega

/-- A bit pattern is determined by its fields. -/
theorem ext_fields (hsign : x.isNegative = y.isNegative) (hexponent : x.exponentField = y.exponentField)
    (hsignificand : x.significandField = y.significandField) : x = y := by
  obtain ⟨a⟩ := x
  obtain ⟨b⟩ := y
  have ha := toNat_bits ⟨a⟩
  have hb := toNat_bits ⟨b⟩
  rw [hsign, hexponent, hsignificand] at ha
  have hab : a.toNat = b.toNat := ha.trans hb.symm
  rw [UInt64.toNat_inj.1 hab]

/-! ### Changing the sign -/

private theorem toNat_negated (x : Binary64) : (x.negateIf true).bits.toNat = x.bits.toNat ^^^ 2 ^ 63 := by
  rw [negateIf, if_pos rfl, UInt64.toNat_xor]
  rfl

theorem exponentField_negateIf (negative : Bool) (x : Binary64) :
    (x.negateIf negative).exponentField = x.exponentField := by
  cases negative with
  | false => rfl
  | true =>
    rw [exponentField_eq, exponentField_eq, toNat_negated, ← Nat.shiftRight_eq_div_pow, ← Nat.shiftRight_eq_div_pow,
      Nat.shiftRight_xor_distrib, Nat.xor_mod_two_pow]
    exact Nat.xor_zero _

theorem significandField_negateIf (negative : Bool) (x : Binary64) :
    (x.negateIf negative).significandField = x.significandField := by
  cases negative with
  | false => rfl
  | true =>
    rw [significandField_eq, significandField_eq, toNat_negated, Nat.xor_mod_two_pow]
    exact Nat.xor_zero _

theorem isNegative_negateIf (negative : Bool) (x : Binary64) :
    (x.negateIf negative).isNegative = (negative ^^ x.isNegative) := by
  cases negative with
  | false => rw [Bool.false_xor]; rfl
  | true =>
    have hshift : (x.negateIf true).isNegative.toNat = x.isNegative.toNat ^^^ 1 := by
      rw [toNat_isNegative, toNat_isNegative, toNat_negated, ← Nat.shiftRight_eq_div_pow,
        ← Nat.shiftRight_eq_div_pow, Nat.shiftRight_xor_distrib]
      rfl
    cases h : x.isNegative <;> cases h' : (x.negateIf true).isNegative <;> simp [h, h'] at hshift ⊢

theorem negateIf_negateIf (negative : Bool) (x : Binary64) : (x.negateIf negative).negateIf negative = x := by
  refine ext_fields ?_ ?_ ?_
  · rw [isNegative_negateIf, isNegative_negateIf, ← Bool.xor_assoc, Bool.xor_self, Bool.false_xor]
  · rw [exponentField_negateIf, exponentField_negateIf]
  · rw [significandField_negateIf, significandField_negateIf]

/-! ### Magnitudes -/

theorem magnitude_eq (x : Binary64) :
    x.magnitude.2 * 2 ^ 52 + x.magnitude.1 = x.exponentField * 2 ^ 52 + x.significandField := by
  unfold magnitude
  split
  · next h => simp [h]
  · next h =>
    dsimp only
    omega

theorem magnitude_fst_lt (x : Binary64) : x.magnitude.1 < 2 ^ 53 := by
  have hlt := x.significandField_lt
  unfold magnitude
  split
  · exact Nat.lt_trans hlt (by decide)
  · dsimp only
    omega

theorem le_magnitude_fst (h : x.magnitude.2 ≠ 0) : 2 ^ 52 ≤ x.magnitude.1 := by
  unfold magnitude at h ⊢
  split
  · next hzero => simp [hzero] at h
  · dsimp only
    omega

theorem magnitude_fst_pos (h : x.isZero = false) : 0 < x.magnitude.1 := by
  unfold magnitude
  split
  · next hzero =>
    refine Nat.pos_of_ne_zero fun hsignificand : x.significandField = 0 => ?_
    simp [isZero, hzero, hsignificand] at h
  · dsimp only
    omega

theorem magnitude_snd_lt (h : x.isFinite = true) : x.magnitude.2 < 2046 := by
  have hne : x.exponentField ≠ 0x7FF := bne_iff_ne.1 h
  have hlt := x.exponentField_lt
  unfold magnitude
  split
  · exact Nat.zero_lt_succ _
  · dsimp only
    omega

/-- The bit pattern of a magnitude is that of the value without its sign. -/
theorem ofNat_magnitude (x : Binary64) :
    (⟨UInt64.ofNat (x.magnitude.2 * 2 ^ 52 + x.magnitude.1)⟩ : Binary64) = x.negateIf x.isNegative := by
  have hbits := toNat_bits (x.negateIf x.isNegative)
  rw [isNegative_negateIf, Bool.xor_self, exponentField_negateIf, significandField_negateIf, Bool.toNat_false,
    Nat.zero_mul, Nat.zero_add] at hbits
  rw [magnitude_eq, ← hbits, UInt64.ofNat_toNat]

end AnalyzerBench.Binary64

import AnalyzerBench.Text.Digits
import Mathlib.Algebra.Group.Nat.Defs

/-!
# Reading digits back

Digits of a fixed count are read back to the number they were written for (`readDigits?_fixedDigits`), in every base up
to sixteen.  Leading zeros do not count, so the digits of a code point determine the character; decimal digits determine
the number (`decimal_inj`).
-/

namespace AnalyzerBench.Text

theorem toNat_of_isDigit {c : Char} (h : c.isDigit = true) : 48 ≤ c.toNat ∧ c.toNat ≤ 57 := by
  simp only [Char.isDigit, Bool.and_eq_true, decide_eq_true_eq, ge_iff_le, UInt32.le_iff_toNat_le] at h
  exact h

theorem ne_of_isDigit {c d : Char} (h : c.isDigit = true) (hd : d.isDigit = false) : c ≠ d := by
  rintro rfl
  rw [h] at hd
  cases hd

/-- A run of characters ends where other characters begin. -/
theorem takeWhile_append_of_head {p : Char → Bool} {cs rest : List Char} (hcs : ∀ c ∈ cs, p c = true)
    (hrest : ∀ c ∈ rest.head?, p c = false) :
    (cs ++ rest).takeWhile p = cs ∧ (cs ++ rest).dropWhile p = rest := by
  rw [List.takeWhile_append_of_pos hcs, List.dropWhile_append_of_pos hcs]
  cases rest with
  | nil => simp
  | cons c _ =>
    have hc : p c = false := hrest c rfl
    simp [hc]

theorem digitValue?_digitChar {d : Nat} (h : d < 16) : digitValue? (Nat.digitChar d) = some d := by
  have hall : ∀ d < 16, digitValue? (Nat.digitChar d) = some d := by decide
  exact hall d h

theorem digitIn?_digitChar {base d : Nat} (hb : base ≤ 16) (h : d < base) :
    digitIn? base (Nat.digitChar d) = some d := by
  simp [digitIn?, digitValue?_digitChar (Nat.lt_of_lt_of_le h hb), h]

theorem readDigits?_append (base start : Nat) (cs ds : List Char) :
    readDigits? base start (cs ++ ds) = (readDigits? base start cs).bind fun n => readDigits? base n ds := by
  induction cs generalizing start with
  | nil => rfl
  | cons c cs ih =>
    simp only [List.cons_append, readDigits?]
    cases digitIn? base c with
    | none => rfl
    | some d => exact ih _

/-- Digits of a fixed count are read back. -/
theorem readDigits?_fixedDigits {base : Nat} (hb : base ≤ 16) {width n : Nat} (h : n < base ^ width) (start : Nat) :
    readDigits? base start (fixedDigits base width n) = some (start * base ^ width + n) := by
  induction width generalizing n with
  | zero =>
    have : n = 0 := by simpa using h
    simp [fixedDigits, readDigits?, this]
  | succ width ih =>
    have hpos : 0 < base := by
      rcases Nat.eq_zero_or_pos base with rfl | hpos
      · simp at h
      · exact hpos
    have hdiv : n / base < base ^ width := by
      rw [Nat.div_lt_iff_lt_mul hpos, ← Nat.pow_succ]
      exact h
    have hn : base * (n / base) + n % base = n := Nat.div_add_mod n base
    simp only [fixedDigits, readDigits?_append, ih hdiv, Option.bind_some, readDigits?,
      digitIn?_digitChar hb (Nat.mod_lt n hpos), Nat.pow_succ, Option.some.injEq]
    calc (start * base ^ width + n / base) * base + n % base
        = start * (base ^ width * base) + (base * (n / base) + n % base) := by
          rw [Nat.add_mul, Nat.mul_assoc, Nat.mul_comm (n / base) base, Nat.add_assoc]
      _ = start * (base ^ width * base) + n := by rw [hn]

theorem length_fixedDigits (base width n : Nat) : (fixedDigits base width n).length = width := by
  induction width generalizing n with
  | zero => rfl
  | succ width ih => simp [fixedDigits, ih]

theorem number?_fixedDigits {base width n : Nat} (hb : base ≤ 16) (hw : 0 < width) (h : n < base ^ width) :
    number? base (fixedDigits base width n) = some n := by
  have hread := readDigits?_fixedDigits hb h 0
  have hne : fixedDigits base width n ≠ [] := by
    rw [ne_eq, ← List.length_eq_zero_iff, length_fixedDigits]
    omega
  rw [number?, if_neg (by simpa using hne), hread]
  simp

/-- The digits of a number are read back. -/
theorem readDigits?_toDigits (start n : Nat) :
    readDigits? 10 start (Nat.toDigits 10 n) = some (start * 10 ^ (Nat.toDigits 10 n).length + n) := by
  induction n using Nat.strongRecOn with
  | ind n ih =>
    by_cases hn : n < 10
    · simp [Nat.toDigits_of_lt_base hn, readDigits?, digitIn?_digitChar (by decide : 10 ≤ 16) hn]
    · have hmod : n % 10 < 10 := Nat.mod_lt n (by decide)
      have hdiv : n / 10 * 10 + n % 10 = n := Nat.div_add_mod' n 10
      rw [Nat.toDigits_of_base_le (by decide) (by omega), readDigits?_append, ih (n / 10) (by omega), Option.bind_some]
      simp only [readDigits?, digitIn?_digitChar (by decide : 10 ≤ 16) hmod, List.length_append, List.length_singleton,
        Nat.pow_succ, Option.some.injEq]
      rw [Nat.add_mul, Nat.add_assoc, hdiv, Nat.mul_assoc]

theorem number?_toDigits (n : Nat) : number? 10 (Nat.toDigits 10 n) = some n := by
  rw [number?, if_neg (by simp), readDigits?_toDigits, Nat.zero_mul, Nat.zero_add]

theorem decimal_inj {m n : Nat} (h : decimal m = decimal n) : m = n := by
  have hdigits : Nat.toDigits 10 m = Nat.toDigits 10 n := String.ofList_injective h
  have hread := number?_toDigits m
  rw [hdigits, number?_toDigits] at hread
  exact (Option.some.inj hread).symm

theorem readDigits?_zeros (start count : Nat) :
    readDigits? 10 start (List.replicate count '0') = some (start * 10 ^ count) := by
  induction count generalizing start with
  | zero => simp [readDigits?]
  | succ count ih =>
    have hzero : digitIn? 10 '0' = some 0 := by decide
    rw [List.replicate_succ, readDigits?, hzero]
    dsimp only
    rw [ih, Nat.add_zero, Nat.mul_assoc, Nat.pow_succ']

/-- Digits stand for a number with no more digits. -/
theorem lt_of_readDigits? {base start n : Nat} {cs : List Char} (h : readDigits? base start cs = some n) :
    n < (start + 1) * base ^ cs.length := by
  induction cs generalizing start with
  | nil =>
    obtain rfl := Option.some.inj h
    simp
  | cons c cs ih =>
    simp only [readDigits?] at h
    split at h
    · next d hd =>
      have hlt : d < base := by
        unfold digitIn? at hd
        split at hd
        · split at hd
          · next hlt =>
            obtain rfl := Option.some.inj hd
            exact hlt
          · cases hd
        · cases hd
      have hstep : start * base + d + 1 ≤ (start + 1) * base := by
        rw [Nat.succ_mul]
        omega
      calc n < (start * base + d + 1) * base ^ cs.length := ih h
        _ ≤ (start + 1) * base * base ^ cs.length := Nat.mul_le_mul_right _ hstep
        _ = (start + 1) * base ^ (c :: cs).length := by rw [List.length_cons, Nat.pow_succ', Nat.mul_assoc]
    · cases h

theorem lt_of_number? {base n : Nat} {cs : List Char} (h : number? base cs = some n) : n < base ^ cs.length := by
  unfold number? at h
  split at h
  · cases h
  · simpa using lt_of_readDigits? h

/-- Every digit is the digit of some number below the base. -/
theorem mem_fixedDigits {base width n : Nat} (hb : 0 < base) {c : Char} (h : c ∈ fixedDigits base width n) :
    ∃ d < base, c = Nat.digitChar d := by
  induction width generalizing n with
  | zero => simp [fixedDigits] at h
  | succ width ih =>
    simp only [fixedDigits, List.mem_append, List.mem_singleton] at h
    rcases h with h | rfl
    · exact ih h
    · exact ⟨n % base, Nat.mod_lt n hb, rfl⟩

private theorem readDigits?_dropZeros (cs : List Char) :
    readDigits? 16 0 (cs.dropWhile (· = '0')) = readDigits? 16 0 cs := by
  induction cs with
  | nil => rfl
  | cons c cs ih =>
    by_cases hc : c = '0'
    · subst hc
      simpa [readDigits?, show digitIn? 16 '0' = some 0 by decide] using ih
    · simp [hc]

private theorem codePointDigits_eq (c : Char) :
    codePointDigits c = ['0'] ∧ (fixedDigits 16 6 c.toNat).dropWhile (· = '0') = [] ∨
      codePointDigits c = (fixedDigits 16 6 c.toNat).dropWhile (· = '0') := by
  unfold codePointDigits
  split
  · next h => exact .inl ⟨rfl, h⟩
  · exact .inr rfl

theorem codePointDigits_ne_nil (c : Char) : codePointDigits c ≠ [] := by
  unfold codePointDigits
  split
  · simp
  · next h => exact h

/-- The digits of a code point are read back. -/
theorem number?_codePointDigits (c : Char) : number? 16 (codePointDigits c) = some c.toNat := by
  have hlt : c.toNat < 16 ^ 6 := by
    have := c.valid
    simp only [UInt32.isValidChar, Nat.isValidChar] at this
    show c.val.toNat < 16 ^ 6
    omega
  have hread := readDigits?_fixedDigits (Nat.le_refl 16) hlt 0
  rw [Nat.zero_mul, Nat.zero_add, ← readDigits?_dropZeros] at hread
  rw [number?, if_neg (by simpa using codePointDigits_ne_nil c), ← hread]
  rcases codePointDigits_eq c with ⟨h, hnil⟩ | h
  · rw [h, hnil]
    decide
  · rw [h]

theorem mem_codePointDigits {c x : Char} (h : x ∈ codePointDigits c) : ∃ d < 16, x = Nat.digitChar d := by
  rcases codePointDigits_eq c with ⟨h', -⟩ | h'
  · rw [h'] at h
    exact ⟨0, by decide, List.mem_singleton.1 h⟩
  · rw [h'] at h
    exact mem_fixedDigits (by decide) ((List.dropWhile_sublist _).subset h)

end AnalyzerBench.Text

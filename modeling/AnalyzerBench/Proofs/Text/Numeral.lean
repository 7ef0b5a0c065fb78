import AnalyzerBench.Proofs.Text.Digits
import AnalyzerBench.Text.Blank
import Mathlib.Data.List.Induction
import Mathlib.Data.Nat.Digits.Defs

/-!
# Numerals

The digits of a base are the first characters of one row, where letters may be of either case.  Characters are read as a
number exactly if all of them are digits, and the number is the one they write in the base (`readDigits?_eq_some_iff`).
Written with as many digits again, it gives the same digits with small letters (`fixedDigits_valueOf`).
-/

namespace AnalyzerBench.Text

/-- The digits of all bases up to sixteen. -/
def digitRow : List Char := "0123456789abcdef".toList

/-- The place of a character in the row of digits, where letters may be of either case. -/
def digitRank (c : Char) : Nat := digitRow.idxOf c.toLower

/-- Whether a character is a digit in the base. -/
def IsDigitIn (base : Nat) (c : Char) : Prop := digitRank c < base

instance (base : Nat) : DecidablePred (IsDigitIn base) := fun c => inferInstanceAs (Decidable (digitRank c < base))

/-- The number that digits write, the most significant one first. -/
def valueOf (base : Nat) (ds : List Char) : Nat := Nat.ofDigits base (ds.reverse.map digitRank)

variable {base n : Nat} {c : Char} {cs ds : List Char}

private theorem toLower_of_le (h : 128 ≤ c.toNat) : c.toLower = c := by
  unfold Char.toLower
  rw [dif_neg]
  rintro ⟨-, hle⟩
  have hle' : c.toNat ≤ 90 := UInt32.le_iff_toNat_le.1 hle
  omega

private theorem digitRank_of_le (h : 128 ≤ c.toNat) : digitRank c = 16 := by
  have hrow : (digitRow.all fun d => d.toNat < 128) = true := by decide
  have hnot : c ∉ digitRow := by
    intro hmem
    have hlt : c.toNat < 128 := by simpa using List.all_eq_true.1 hrow c hmem
    omega
  rw [digitRank, toLower_of_le h, List.idxOf_eq_length hnot]
  rfl

private theorem digitValue?_of_le (h : 128 ≤ c.toNat) : digitValue? c = none := by
  have hnot : ∀ d : Char, d.toNat < 128 → ¬ c ≤ d := by
    intro d hd hle
    have hle' : c.toNat ≤ d.toNat := UInt32.le_iff_toNat_le.1 (Char.le_def.1 hle)
    omega
  unfold digitValue?
  rw [if_neg fun h' => hnot '9' (by decide) h'.2, if_neg fun h' => hnot 'f' (by decide) h'.2,
    if_neg fun h' => hnot 'F' (by decide) h'.2]

theorem digitValue?_eq (c : Char) : digitValue? c = if digitRank c < 16 then some (digitRank c) else none := by
  by_cases h : c.toNat < 128
  · have hall : ∀ n < 128, digitValue? (Char.ofNat n) =
        if digitRank (Char.ofNat n) < 16 then some (digitRank (Char.ofNat n)) else none := by
      decide +kernel
    have hc := hall c.toNat h
    rwa [Char.ofNat_toNat] at hc
  · have hle : 128 ≤ c.toNat := by omega
    rw [digitValue?_of_le hle, digitRank_of_le hle]
    rfl

theorem digitIn?_eq (hb : base ≤ 16) (c : Char) :
    digitIn? base c = if IsDigitIn base c then some (digitRank c) else none := by
  unfold digitIn?
  rw [digitValue?_eq]
  by_cases hc : digitRank c < 16
  · rw [if_pos hc]
    rfl
  · have hnot : ¬ IsDigitIn base c := fun h => hc (Nat.lt_of_lt_of_le h hb)
    rw [if_neg hc, if_neg hnot]

theorem digitChar_digitRank (hc : IsDigitIn 16 c) : Nat.digitChar (digitRank c) = c.toLower := by
  have hrow : ∀ i : Fin digitRow.length, Nat.digitChar i = digitRow[i] := by decide
  have hlt : digitRow.idxOf c.toLower < digitRow.length := hc
  have hget := List.getElem_idxOf hlt
  rw [← hget]
  exact hrow ⟨_, hlt⟩

theorem IsDigitIn.mono {b : Nat} (h : IsDigitIn base c) (hb : base ≤ b) : IsDigitIn b c := Nat.lt_of_lt_of_le h hb

private theorem IsDigitIn.toNat_lt (hc : IsDigitIn 16 c) : c.toNat < 128 := by
  by_contra hle
  have hrank : digitRank c < 16 := hc
  rw [digitRank_of_le (by omega)] at hrank
  omega

theorem IsDigitIn.isBlank_eq (hc : IsDigitIn 16 c) : isBlank c = false := by
  have hall : ∀ n < 128, IsDigitIn 16 (Char.ofNat n) → isBlank (Char.ofNat n) = false := by decide +kernel
  have hblank := hall c.toNat hc.toNat_lt
  rw [Char.ofNat_toNat] at hblank
  exact hblank hc

/-- Decimal digits have no case. -/
theorem IsDigitIn.toLower_eq (hc : IsDigitIn 10 c) : c.toLower = c := by
  have hall : ∀ n < 128, IsDigitIn 10 (Char.ofNat n) → (Char.ofNat n).toLower = Char.ofNat n := by decide +kernel
  have hlower := hall c.toNat (hc.mono (by decide)).toNat_lt
  rw [Char.ofNat_toNat] at hlower
  exact hlower hc

theorem valueOf_cons (base : Nat) (c : Char) (cs : List Char) :
    valueOf base (c :: cs) = digitRank c * base ^ cs.length + valueOf base cs := by
  simp [valueOf, Nat.ofDigits_append, Nat.mul_comm, Nat.add_comm]

theorem valueOf_concat (base : Nat) (cs : List Char) (c : Char) :
    valueOf base (cs ++ [c]) = digitRank c + base * valueOf base cs := by
  simp [valueOf, Nat.ofDigits_cons]

theorem valueOf_congr (base : Nat) (h : cs.map Char.toLower = ds.map Char.toLower) :
    valueOf base cs = valueOf base ds := by
  have hranks : ∀ xs : List Char, xs.reverse.map digitRank = (xs.map Char.toLower).reverse.map digitRow.idxOf := by
    intro xs
    rw [← List.map_reverse, List.map_map]
    rfl
  rw [valueOf, valueOf, hranks, hranks, h]

theorem readDigits?_eq_some_iff (hb : base ≤ 16) {start : Nat} :
    readDigits? base start cs = some n ↔
      (∀ c ∈ cs, IsDigitIn base c) ∧ n = start * base ^ cs.length + valueOf base cs := by
  induction cs generalizing start with
  | nil => simp [readDigits?, valueOf, eq_comm]
  | cons c cs ih =>
    rw [readDigits?, digitIn?_eq hb, List.forall_mem_cons]
    by_cases hc : IsDigitIn base c
    -- Reading a digit moves the number read so far up by one place.
    · have hvalue : (start * base + digitRank c) * base ^ cs.length + valueOf base cs =
          start * base ^ (c :: cs).length + valueOf base (c :: cs) := by
        rw [valueOf_cons, List.length_cons, Nat.pow_succ', Nat.add_mul, Nat.mul_assoc, Nat.add_assoc]
      rw [if_pos hc]
      dsimp only
      rw [ih, hvalue, and_iff_right hc]
    · rw [if_neg hc]
      simp [hc]

theorem fixedDigits_valueOf (hb : base ≤ 16) (h : ∀ c ∈ cs, IsDigitIn base c) :
    fixedDigits base cs.length (valueOf base cs) = cs.map Char.toLower := by
  -- Digits are written by division, so the induction takes off the last one.
  induction cs using List.reverseRecOn with
  | nil => rfl
  | append_singleton cs c ih =>
    obtain ⟨hcs, hc⟩ := List.forall_mem_append.1 h
    have hlt : digitRank c < base := hc c (by simp)
    have hdiv : valueOf base (cs ++ [c]) / base = valueOf base cs := by
      rw [valueOf_concat, Nat.add_mul_div_left _ _ (by omega), Nat.div_eq_of_lt hlt, Nat.zero_add]
    have hmod : valueOf base (cs ++ [c]) % base = digitRank c := by
      rw [valueOf_concat, Nat.add_mul_mod_self_left, Nat.mod_eq_of_lt hlt]
    have hchar : Nat.digitChar (digitRank c) = c.toLower := digitChar_digitRank (IsDigitIn.mono hlt hb)
    rw [List.length_append, List.length_singleton, fixedDigits, hdiv, hmod, ih hcs, hchar, List.map_append,
      List.map_singleton]

theorem number?_eq_some_iff (hb : base ≤ 16) :
    number? base cs = some n ↔ cs ≠ [] ∧ (∀ c ∈ cs, IsDigitIn base c) ∧ n = valueOf base cs := by
  unfold number?
  cases cs with
  | nil => simp
  | cons c cs =>
    rw [if_neg (by simp), readDigits?_eq_some_iff hb, Nat.zero_mul, Nat.zero_add]
    simp

/-- A row of `width` digits in the base. -/
structure IsNumeral (base width : Nat) (ds : List Char) : Prop where
  length : ds.length = width
  digits : ∀ c ∈ ds, IsDigitIn base c

instance (base width : Nat) : DecidablePred (IsNumeral base width) := fun ds =>
  decidable_of_iff (ds.length = width ∧ ds.all (fun c => IsDigitIn base c) = true)
    ⟨fun h => ⟨h.1, by simpa using h.2⟩, fun h => ⟨h.length, by simpa using h.digits⟩⟩

namespace IsNumeral

variable {width : Nat}

theorem fixedDigits_eq (h : IsNumeral base width ds) (hb : base ≤ 16) :
    fixedDigits base width (valueOf base ds) = ds.map Char.toLower := by
  rw [← h.length]
  exact fixedDigits_valueOf hb h.digits

theorem map_toLower_eq (h : IsNumeral base width ds) (hb : base ≤ 10) : ds.map Char.toLower = ds := by
  have hsame : ∀ c ∈ ds, c.toLower = c := fun c hc => ((h.digits c hc).mono hb).toLower_eq
  rw [List.map_congr_left hsame, List.map_id']

theorem valueOf_lt (h : IsNumeral base width ds) (hb : base ≤ 16) (hw : 0 < width) :
    valueOf base ds < base ^ width := by
  have hne : ds ≠ [] := by
    rintro rfl
    have hlength : 0 = width := h.length
    omega
  have hlt := lt_of_number? ((number?_eq_some_iff hb).2 ⟨hne, h.digits, rfl⟩)
  rwa [h.length] at hlt

end IsNumeral

private theorem fixedDigits_spec {width : Nat} (hb : base ≤ 16) (h : n < base ^ width) :
    (∀ c ∈ fixedDigits base width n, IsDigitIn base c) ∧ n = valueOf base (fixedDigits base width n) := by
  have hread := (readDigits?_eq_some_iff hb).1 (readDigits?_fixedDigits hb h 0)
  simpa using hread

theorem isNumeral_fixedDigits {width : Nat} (hb : base ≤ 16) (h : n < base ^ width) :
    IsNumeral base width (fixedDigits base width n) :=
  ⟨length_fixedDigits base width n, (fixedDigits_spec hb h).1⟩

theorem valueOf_fixedDigits {width : Nat} (hb : base ≤ 16) (h : n < base ^ width) :
    valueOf base (fixedDigits base width n) = n :=
  (fixedDigits_spec hb h).2.symm

end AnalyzerBench.Text

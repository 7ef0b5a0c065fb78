import AnalyzerBench.Proofs.Binary64
import AnalyzerBench.Proofs.Except
import AnalyzerBench.Proofs.SolverLiteral.Grammar

/-!
# Reading solver literals back

The fields of a double fit into the digits of a literal (`Fits`), so a printed literal is read back (`parse?_print`),
and the fields of a literal, put together, are the bit pattern they came from (`toBits_ofDouble`).  A literal that is
read from a text fits as well (`fits_of_parse`), and fields that fit come back from their pattern (`ofBits_toBits`).  So
literals, their texts and bit patterns stand for each other one to one (`literal_roundtrips`).
-/

namespace AnalyzerBench.SolverLiteral

open Text (valueOf)
open Text.Chars (IsGap Trimmed)

variable {l : SolverLiteral} {n : Nat}

/-- The fields fit into the digits of a literal. -/
structure Fits (l : SolverLiteral) : Prop where
  exponent : l.exponent < 2 ^ 11
  significand : l.significand < 2 ^ 52

theorem fits_ofDouble (x : Binary64) : (ofDouble x).Fits := ⟨x.exponentField_lt, x.significandField_lt⟩

/-! ### Bit patterns -/

private theorem toNat_word {n : Nat} (h : n < 2 ^ 52) : (UInt64.ofNat n).toNat = n := by
  have hsize : n < UInt64.size := Nat.lt_trans h (by decide)
  exact UInt64.toNat_ofNat_of_lt' hsize

private theorem toNat_signWord (sign : Bool) : (sign.toUInt64 <<< 63).toNat = sign.toNat <<< 63 := by
  cases sign <;> rfl

private theorem toNat_exponentWord (h : n < 2 ^ 11) : (UInt64.ofNat n <<< 52).toNat = n <<< 52 := by
  rw [UInt64.toNat_shiftLeft, toNat_word (by omega), Nat.mod_eq_of_lt]
  · rfl
  · show n <<< 52 < 2 ^ 64
    rw [Nat.shiftLeft_eq]
    omega

/-- Joining the fields of a literal is adding them up. -/
theorem toNat_toBits (h : l.Fits) : l.toBits.toNat = l.sign.toNat * 2 ^ 63 + l.exponent * 2 ^ 52 + l.significand := by
  obtain ⟨hexponent, hsignificand⟩ := h
  -- Each field lies above the places of the fields after it, so joining their bits is adding.
  have hbelow : l.exponent * 2 ^ 52 + l.significand < 2 ^ 63 := by omega
  rw [toBits, UInt64.toNat_or, UInt64.toNat_or, toNat_signWord, toNat_exponentWord hexponent, toNat_word hsignificand,
    Nat.or_assoc, ← Nat.shiftLeft_add_eq_or_of_lt hsignificand, Nat.shiftLeft_eq l.exponent,
    ← Nat.shiftLeft_add_eq_or_of_lt hbelow, Nat.shiftLeft_eq, Nat.add_assoc]

theorem toBits_ofDouble (x : Binary64) : (ofDouble x).toBits = x.bits := by
  rw [← UInt64.toNat_inj, toNat_toBits (fits_ofDouble x), Binary64.toNat_bits]
  rfl

private theorem shiftLeft_and_of_lt {a b i : Nat} (h : b < 2 ^ i) : a <<< i &&& b = 0 := by
  refine Nat.eq_of_testBit_eq fun j => ?_
  rw [Nat.testBit_and, Nat.testBit_shiftLeft, Nat.zero_testBit]
  by_cases hj : i ≤ j
  · have hb : b < 2 ^ j := Nat.lt_of_lt_of_le h (Nat.pow_le_pow_right (by decide) hj)
    rw [Nat.testBit_lt_two_pow hb, Bool.and_false]
  · simp [hj]

/-- No two of the fields have a bit of the pattern in common. -/
theorem fields_disjoint (h : l.Fits) :
    (l.sign.toUInt64 <<< 63) &&& (UInt64.ofNat l.exponent <<< 52) = 0 ∧
      (l.sign.toUInt64 <<< 63) &&& UInt64.ofNat l.significand = 0 ∧
      (UInt64.ofNat l.exponent <<< 52) &&& UInt64.ofNat l.significand = 0 := by
  obtain ⟨hexponent, hsignificand⟩ := h
  have hshifted : l.exponent <<< 52 < 2 ^ 63 := by
    rw [Nat.shiftLeft_eq]
    omega
  refine ⟨?_, ?_, ?_⟩
  · rw [← UInt64.toNat_inj, UInt64.toNat_and, toNat_signWord, toNat_exponentWord hexponent,
      shiftLeft_and_of_lt hshifted]
    rfl
  · rw [← UInt64.toNat_inj, UInt64.toNat_and, toNat_signWord, toNat_word hsignificand,
      shiftLeft_and_of_lt (by omega)]
    rfl
  · rw [← UInt64.toNat_inj, UInt64.toNat_and, toNat_exponentWord hexponent, toNat_word hsignificand,
      shiftLeft_and_of_lt hsignificand]
    rfl

/-- A literal whose fields fit is the one of its bit pattern. -/
theorem ofBits_toBits (h : l.Fits) : ofBits l.toBits = l := by
  have hbits := toNat_toBits h
  have hsign : l.sign.toNat ≤ 1 := Bool.toNat_le l.sign
  obtain ⟨hexponent, hsignificand⟩ := h
  have hnegative : (⟨l.toBits⟩ : Binary64).isNegative = l.sign := by
    have hbit : ∀ a b : Bool, a.toNat = b.toNat → a = b := by decide
    apply hbit
    rw [Binary64.toNat_isNegative, hbits]
    omega
  have hmiddle : (⟨l.toBits⟩ : Binary64).exponentField = l.exponent := by
    rw [Binary64.exponentField_eq, hbits]
    omega
  have hlast : (⟨l.toBits⟩ : Binary64).significandField = l.significand := by
    rw [Binary64.significandField_eq, hbits]
    omega
  rw [ofBits, ofDouble, hnegative, hmiddle, hlast]

/-! ### Reading -/

/-- The digits that a literal is printed with. -/
def Fits.spelling (h : l.Fits) : Spelling where
  sign := Text.fixedDigits 2 1 l.sign.toNat
  exponent := Text.fixedDigits 2 11 l.exponent
  significand := Text.fixedDigits 16 13 l.significand
  isNumeral_sign := Text.isNumeral_fixedDigits (by decide) (Bool.toNat_lt l.sign)
  isNumeral_exponent := Text.isNumeral_fixedDigits (by decide) h.exponent
  isNumeral_significand := Text.isNumeral_fixedDigits (by decide) h.significand

theorem Fits.literal_spelling (h : l.Fits) : h.spelling.literal = l := by
  have hsign : (valueOf 2 (Text.fixedDigits 2 1 l.sign.toNat) == 1) = l.sign := by
    rw [Text.valueOf_fixedDigits (by decide) (Bool.toNat_lt l.sign)]
    cases l.sign <;> rfl
  have hexponent : valueOf 2 (Text.fixedDigits 2 11 l.exponent) = l.exponent :=
    Text.valueOf_fixedDigits (by decide) h.exponent
  have hsignificand : valueOf 16 (Text.fixedDigits 16 13 l.significand) = l.significand :=
    Text.valueOf_fixedDigits (by decide) h.significand
  simp only [spelling, Spelling.literal, hsign, hexponent, hsignificand]

theorem trimmed_chars (l : SolverLiteral) : Trimmed l.chars := by
  constructor
  · intro c hc
    obtain rfl : '(' = c := by simpa [chars] using hc
    decide
  · intro c hc
    obtain rfl : ')' = c := by
      rw [chars, List.getLast?_append] at hc
      simpa using hc
    decide

theorem Fits.isIn_print (h : l.Fits) : h.spelling.IsIn l.print := by
  have hspace : IsGap [' '] := ⟨by simp, List.forall_mem_singleton.2 (by decide)⟩
  refine ⟨[' '], [' '], [' '], [], ?_, hspace.blank, hspace, hspace, by simp⟩
  rw [print, String.toList_ofList, (trimmed_chars l).trim_eq]
  simp [chars, layout, spelling]

theorem parse?_print (h : l.Fits) : parse? l.print = some l :=
  parse?_eq_some_iff.2 ⟨h.spelling, h.isIn_print, h.literal_spelling⟩

theorem parse_print (h : l.Fits) : parse l.print = .ok l := by
  rw [parse, parse?_print h]

theorem parse_encode (x : Binary64) : parse x.encode = .ok (ofDouble x) := parse_print (fits_ofDouble x)

/-! ### Literals of texts -/

theorem Spelling.fits_literal (d : Spelling) : d.literal.Fits :=
  ⟨d.isNumeral_exponent.valueOf_lt (by decide) (by decide), d.isNumeral_significand.valueOf_lt (by decide) (by decide)⟩

theorem fits_of_parse {text : String} (h : parse text = .ok l) : l.Fits := by
  unfold parse at h
  split at h
  · next hread =>
    obtain rfl := Except.ok.inj h
    obtain ⟨d, -, rfl⟩ := parse?_eq_some_iff.1 hread
    exact d.fits_literal
  · cases h

/-- Every bit pattern comes back from its literal and every such literal from its text, so different doubles are written
differently.  Whichever way a literal came about, its fields keep to their own bits, and it is the literal of its
pattern. -/
theorem literal_roundtrips :
    (∀ b : UInt64, (ofBits b).toBits = b ∧ parse (ofBits b).print = .ok (ofBits b)) ∧
    (∀ x y : Binary64, x.encode = y.encode → x.bits = y.bits) ∧
    ∀ l : SolverLiteral, ((∃ b, l = ofBits b) ∨ (∃ x, l = ofDouble x) ∨ ∃ text, parse text = .ok l) →
      l.exponent < 2 ^ 11 ∧ l.significand < 2 ^ 52 ∧
      ((l.sign.toUInt64 <<< 63) &&& (UInt64.ofNat l.exponent <<< 52) = 0 ∧
        (l.sign.toUInt64 <<< 63) &&& UInt64.ofNat l.significand = 0 ∧
        (UInt64.ofNat l.exponent <<< 52) &&& UInt64.ofNat l.significand = 0) ∧
      l.toBits.toNat = l.sign.toNat * 2 ^ 63 + l.exponent * 2 ^ 52 + l.significand ∧
      ofBits l.toBits = l := by
  refine ⟨?_, ?_, ?_⟩
  · intro b
    exact ⟨toBits_ofDouble ⟨b⟩, parse_encode ⟨b⟩⟩
  · intro x y h
    have hread : ofDouble x = ofDouble y := by
      have hx := parse_encode x
      rw [h, parse_encode y] at hx
      exact (Except.ok.inj hx).symm
    rw [← toBits_ofDouble x, hread, toBits_ofDouble y]
  · intro l hl
    have hfits : l.Fits := by
      rcases hl with ⟨b, rfl⟩ | ⟨x, rfl⟩ | ⟨text, htext⟩
      · exact fits_ofDouble ⟨b⟩
      · exact fits_ofDouble x
      · exact fits_of_parse htext
    exact ⟨hfits.exponent, hfits.significand, fields_disjoint hfits, toNat_toBits hfits, ofBits_toBits hfits⟩

/-- A literal with blanks of several kinds and digits of either case is still that of its pattern. -/
theorem literal_roundtrips_loose_spelling :
    parse "\u2003(fp\t#b1 #b11111111111  #xF00000000000a\n) " = .ok ⟨true, 0x7FF, 0xF00000000000A⟩ ∧
      ofBits (toBits ⟨true, 0x7FF, 0xF00000000000A⟩) = ⟨true, 0x7FF, 0xF00000000000A⟩ := by
  have hparse : parse "\u2003(fp\t#b1 #b11111111111  #xF00000000000a\n) " = .ok ⟨true, 0x7FF, 0xF00000000000A⟩ := by
    decide +kernel
  obtain ⟨-, -, hobtained⟩ := literal_roundtrips
  obtain ⟨-, -, -, -, hback⟩ := hobtained _ (.inr (.inr ⟨_, hparse⟩))
  exact ⟨hparse, hback⟩

end AnalyzerBench.SolverLiteral

import AnalyzerBench.Decimal.Layout
import AnalyzerBench.Proofs.Decimal.Reading
import AnalyzerBench.Proofs.Text.Digits

/-!
# Real numbers are read back

A finite double is written as a numeral that is read as the same double, sign and all (`ofNumeral?_write`), whatever
the layout.  Where the point stands and whether there is an exponent does not change what the digits stand for
(`Reads`).
-/

namespace AnalyzerBench.Decimal

variable {x : Binary64} {cs whole fraction rest : List Char} {n digits : Nat} {e point exponent : Int}

/-- A numeral without a sign that is read as digits which stand for the number `r`. -/
structure Reads (cs : List Char) (r : ℚ) : Prop where
  digit : ∃ c ∈ cs.head?, c.isDigit = true
  value : ∃ digits count exponent, unsigned? cs = some (Binary64.ofScaled digits count exponent) ∧
    digits < 10 ^ count ∧ (digits * 10 ^ exponent : ℚ) = r

/-! ### Parts of a numeral -/

/-- An exponent part starts with a letter. -/
private theorem head_of_exponent? (h : exponent? rest = some e) : ∀ c ∈ rest.head?, c.isDigit = false ∧ c ≠ '.' := by
  intro c hc
  cases rest with
  | nil => cases hc
  | cons d ds =>
    obtain rfl : d = c := Option.some.inj hc
    by_cases hletter : d = 'e' ∨ d = 'E'
    · rcases hletter with rfl | rfl <;> decide
    · rw [exponent?, if_neg (by simpa using hletter)] at h
      cases h

/-- A numeral with a point. -/
private theorem unsigned?_point (hwhole : ∀ c ∈ whole, c.isDigit = true) (hfraction : ∀ c ∈ fraction, c.isDigit = true)
    (hdigits : Text.number? 10 (whole ++ fraction) = some digits) (hexponent : exponent? rest = some e) :
    unsigned? (whole ++ '.' :: (fraction ++ rest)) =
      some (Binary64.ofScaled digits (whole.length + fraction.length) (e - fraction.length)) := by
  have hpoint : ∀ c ∈ ('.' :: (fraction ++ rest)).head?, c.isDigit = false := by
    intro c hc
    obtain rfl : '.' = c := Option.some.inj hc
    decide
  obtain ⟨htake, hdrop⟩ := Text.takeWhile_append_of_head hwhole hpoint
  obtain ⟨htake', hdrop'⟩ := Text.takeWhile_append_of_head hfraction fun c hc => (head_of_exponent? hexponent c hc).1
  simp only [unsigned?, htake, hdrop, htake', hdrop', hdigits, hexponent]

/-- A numeral without a point. -/
private theorem unsigned?_whole (hwhole : ∀ c ∈ whole, c.isDigit = true)
    (hdigits : Text.number? 10 whole = some digits) (hexponent : exponent? rest = some e) :
    unsigned? (whole ++ rest) = some (Binary64.ofScaled digits whole.length e) := by
  have hhead := head_of_exponent? hexponent
  obtain ⟨htake, hdrop⟩ := Text.takeWhile_append_of_head hwhole fun c hc => (hhead c hc).1
  unfold unsigned?
  rw [htake, hdrop]
  cases rest with
  | nil => simp [hdigits, hexponent]
  | cons c cs =>
    have hc : c ≠ '.' := (hhead c rfl).2
    simp [hc, hdigits, hexponent]

theorem takeSign_of_isDigit (h : ∃ c ∈ cs.head?, c.isDigit = true) : takeSign cs = (false, cs) := by
  obtain ⟨c, hc, hdigit⟩ := h
  cases cs with
  | nil => cases hc
  | cons d ds =>
    obtain rfl : d = c := Option.some.inj hc
    have hminus : d ≠ '-' := Text.ne_of_isDigit hdigit (by decide)
    have hplus : d ≠ '+' := Text.ne_of_isDigit hdigit (by decide)
    simp [takeSign, hminus, hplus]

private theorem isDigit_of_mem_toDigits {c : Char} (h : c ∈ Nat.toDigits 10 n) : c.isDigit = true :=
  Nat.isDigit_of_mem_toDigits (by decide) (by decide) h

private theorem head_toDigits (n : Nat) (rest : List Char) :
    ∃ c ∈ (Nat.toDigits 10 n ++ rest).head?, c.isDigit = true := by
  obtain ⟨c, cs, hcs⟩ := List.exists_cons_of_ne_nil (Nat.toDigits_ne_nil (n := n) (b := 10))
  rw [hcs]
  exact ⟨c, rfl, isDigit_of_mem_toDigits (n := n) (by rw [hcs]; exact List.mem_cons_self)⟩

private theorem toList_integerText_nonneg (k : Nat) : (integerText (k : Int)).toList = Nat.toDigits 10 k := by
  rw [integerText, if_neg (by omega), Text.decimal, String.toList_ofList, Int.natAbs_natCast]

private theorem toList_integerText_neg {k : Nat} (h : 0 < k) :
    (integerText (-(k : Int))).toList = '-' :: Nat.toDigits 10 k := by
  rw [integerText, if_pos (by omega), Text.decimal, String.toList_append, String.toList_ofList, Int.natAbs_neg,
    Int.natAbs_natCast]
  simp

private theorem exponent?_of_takeSign {negative : Bool} (h : takeSign cs = (negative, Nat.toDigits 10 n)) :
    exponent? ('e' :: cs) = some (if negative then -(n : Int) else n) := by
  simp [exponent?, h, Text.number?_toDigits]

/-- An exponent is read back. -/
private theorem exponent?_integerText (signed : Bool) (exponent : Int) :
    exponent? ('e' :: ((if signed && exponent ≥ 0 then ['+'] else []) ++ (integerText exponent).toList)) =
      some exponent := by
  by_cases hneg : exponent < 0
  · obtain ⟨k, rfl⟩ : ∃ k : Nat, exponent = -(k : Int) := ⟨exponent.natAbs, by omega⟩
    have hplus : ¬ (signed && decide (-(k : Int) ≥ 0)) = true := by
      rw [Bool.and_eq_true, decide_eq_true_eq]
      omega
    have hsign : takeSign ('-' :: Nat.toDigits 10 k) = (true, Nat.toDigits 10 k) := rfl
    rw [if_neg hplus, toList_integerText_neg (by omega)]
    exact exponent?_of_takeSign hsign
  · obtain ⟨k, rfl⟩ : ∃ k : Nat, exponent = k := ⟨exponent.toNat, by omega⟩
    rw [toList_integerText_nonneg]
    split
    · have hsign : takeSign ('+' :: Nat.toDigits 10 k) = (false, Nat.toDigits 10 k) := rfl
      exact exponent?_of_takeSign hsign
    · have hhead := head_toDigits k []
      rw [List.append_nil] at hhead
      exact exponent?_of_takeSign (takeSign_of_isDigit hhead)

theorem integerText_inj {i j : Int} (h : integerText i = integerText j) : i = j := by
  have hread : ∀ i, exponent? ('e' :: (integerText i).toList) = some i := exponent?_integerText false
  have hi := hread i
  rw [h, hread j] at hi
  exact (Option.some.inj hi).symm

/-! ### Layouts -/

private theorem reads_point {r : ℚ} (hhead : ∃ c ∈ whole.head?, c.isDigit = true)
    (hwhole : ∀ c ∈ whole, c.isDigit = true) (hfraction : ∀ c ∈ fraction, c.isDigit = true)
    (hdigits : Text.number? 10 (whole ++ fraction) = some digits) (hexponent : exponent? rest = some e)
    (hr : (digits * 10 ^ (e - fraction.length) : ℚ) = r) : Reads (whole ++ '.' :: (fraction ++ rest)) r where
  digit := by
    obtain ⟨c, hc, hdigit⟩ := hhead
    refine ⟨c, ?_, hdigit⟩
    cases whole with
    | nil => cases hc
    | cons d ds => exact hc
  value := by
    have hlt := Text.lt_of_number? hdigits
    rw [List.length_append] at hlt
    exact ⟨_, _, _, unsigned?_point hwhole hfraction hdigits hexponent, hlt, hr⟩

private theorem isDigit_zeros (k : Nat) : ∀ c ∈ List.replicate k '0', c.isDigit = true := by
  intro c hc
  rw [List.eq_of_mem_replicate hc]
  decide

private theorem exponent?_nil : exponent? [] = some 0 := rfl

/-- Digits behind the point, with zeros between. -/
private theorem reads_behind (n k : Nat) :
    Reads (['0', '.'] ++ List.replicate k '0' ++ Nat.toDigits 10 n)
      (n * 10 ^ (-k - (Nat.toDigits 10 n).length : Int)) := by
  have htext : ['0', '.'] ++ List.replicate k '0' ++ Nat.toDigits 10 n =
      ['0'] ++ '.' :: ((List.replicate k '0' ++ Nat.toDigits 10 n) ++ []) := by simp
  have hzero : Text.readDigits? 10 0 ['0'] = some 0 := by decide
  have hnumber : Text.number? 10 (['0'] ++ (List.replicate k '0' ++ Nat.toDigits 10 n)) = some n := by
    rw [Text.number?, if_neg (by simp), Text.readDigits?_append, hzero, Option.bind_some, Text.readDigits?_append,
      Text.readDigits?_zeros, Option.bind_some, Text.readDigits?_toDigits]
    simp
  rw [htext]
  refine reads_point ⟨'0', rfl, by decide⟩ (by simp)
    (List.forall_mem_append.2 ⟨isDigit_zeros k, fun c => isDigit_of_mem_toDigits⟩) hnumber exponent?_nil ?_
  congr 2
  rw [List.length_append, List.length_replicate]
  omega

/-- Digits before the point, with zeros between. -/
private theorem reads_before (n k : Nat) :
    Reads (Nat.toDigits 10 n ++ List.replicate k '0' ++ ['.', '0']) (n * 10 ^ (k : Int)) := by
  have htext : Nat.toDigits 10 n ++ List.replicate k '0' ++ ['.', '0'] =
      (Nat.toDigits 10 n ++ List.replicate k '0') ++ '.' :: (['0'] ++ []) := by simp
  have hzero : Text.readDigits? 10 (n * 10 ^ k) ['0'] = some (n * 10 ^ k * 10) := by
    simp [Text.readDigits?, show Text.digitIn? 10 '0' = some 0 by decide]
  have hnumber : Text.number? 10 ((Nat.toDigits 10 n ++ List.replicate k '0') ++ ['0']) = some (n * 10 ^ k * 10) := by
    rw [Text.number?, if_neg (by simp), Text.readDigits?_append, Text.readDigits?_append, Text.readDigits?_toDigits,
      Option.bind_some, Text.readDigits?_zeros, Option.bind_some, Nat.zero_mul, Nat.zero_add, hzero]
  rw [htext]
  refine reads_point (head_toDigits n _) (List.forall_mem_append.2 ⟨fun c => isDigit_of_mem_toDigits, isDigit_zeros k⟩)
    (by simp) hnumber exponent?_nil ?_
  have hlast : (0 - ['0'].length : Int) = -1 := rfl
  rw [hlast, zpow_neg_one, zpow_natCast]
  push_cast
  rw [mul_inv_cancel_right₀ (by norm_num)]

/-- Digits on both sides of the point. -/
private theorem reads_around {k : Nat} (hpos : 0 < k) (h : k < (Nat.toDigits 10 n).length)
    (hexponent : exponent? rest = some e) :
    Reads ((Nat.toDigits 10 n).take k ++ '.' :: ((Nat.toDigits 10 n).drop k ++ rest))
      (n * 10 ^ (e + k - (Nat.toDigits 10 n).length)) := by
  have hds : ∀ c ∈ Nat.toDigits 10 n, c.isDigit = true := fun c => isDigit_of_mem_toDigits
  have hnumber : Text.number? 10 ((Nat.toDigits 10 n).take k ++ (Nat.toDigits 10 n).drop k) = some n := by
    rw [List.take_append_drop, Text.number?_toDigits]
  have hhead : ∃ c ∈ ((Nat.toDigits 10 n).take k).head?, c.isDigit = true := by
    have hhead := head_toDigits n []
    rw [List.append_nil] at hhead
    rwa [List.head?_take, if_neg hpos.ne']
  refine reads_point hhead (fun c hc => hds c (List.mem_of_mem_take hc)) (fun c hc => hds c (List.mem_of_mem_drop hc))
    hnumber hexponent ?_
  congr 2
  rw [List.length_drop]
  omega

/-- Digits are read back from where their point stands. -/
theorem reads_positional (n : Nat) (point : Int) :
    Reads (positional (Nat.toDigits 10 n) point) (n * 10 ^ (point - (Nat.toDigits 10 n).length)) := by
  unfold positional
  split
  · next hpoint =>
    obtain ⟨k, rfl⟩ : ∃ k : Nat, point = -(k : Int) := ⟨(-point).toNat, by omega⟩
    rw [Int.neg_neg, Int.toNat_natCast]
    exact reads_behind n k
  · next hpoint =>
    obtain ⟨k, rfl⟩ : ∃ k : Nat, point = k := ⟨point.toNat, by omega⟩
    rw [Int.toNat_natCast]
    split
    · next hlength =>
      rw [← Int.ofNat_sub hlength]
      exact reads_before n _
    · next hlength =>
      have hread := reads_around (by omega) (Nat.lt_of_not_le hlength) exponent?_nil
      rwa [List.append_nil, Int.zero_add] at hread

theorem reads_scientific (layout : Layout) (n : Nat) (point : Int) :
    Reads (scientific layout (Nat.toDigits 10 n) (point - 1)) (n * 10 ^ (point - (Nat.toDigits 10 n).length)) := by
  have hexponent := exponent?_integerText layout.signedExponent (point - 1)
  have hnumber := Text.number?_toDigits n
  have hhead := head_toDigits n
  have hds : ∀ c ∈ Nat.toDigits 10 n, c.isDigit = true := fun c => isDigit_of_mem_toDigits
  unfold scientific
  dsimp only
  rw [List.append_assoc, List.cons_append]
  rcases hlist : Nat.toDigits 10 n with _ | ⟨d, _ | ⟨d', ds⟩⟩
  · exact absurd hlist Nat.toDigits_ne_nil
  · -- A single digit is written without a point.
    rw [hlist] at hnumber hhead hds
    exact ⟨hhead _, _, _, _, unsigned?_whole hds hnumber hexponent, Text.lt_of_number? hnumber, rfl⟩
  · have hread := reads_around (by decide : 0 < 1) (by rw [hlist]; simp) hexponent
    rw [hlist, Nat.cast_one, Int.sub_add_cancel] at hread
    exact hread

/-! ### Numerals -/

/-- What starts with a digit is no word. -/
private theorem special?_of_isDigit (h : ∃ c ∈ cs.head?, c.isDigit = true) : special? cs = none := by
  obtain ⟨c, hc, hdigit⟩ := h
  have hlower : c.toLower = c := by
    have hupper : ¬ ('A'.val ≤ c.val ∧ c.val ≤ 'Z'.val) := by
      have hle := (Text.toNat_of_isDigit hdigit).2
      rintro ⟨hletter, -⟩
      rw [UInt32.le_iff_toNat_le] at hletter
      exact absurd (hletter.trans hle) (by decide)
    exact dif_neg hupper
  cases cs with
  | nil => cases hc
  | cons d ds =>
    obtain rfl : d = c := Option.some.inj hc
    have hi : d ≠ 'i' := Text.ne_of_isDigit hdigit (by decide)
    have hn : d ≠ 'n' := Text.ne_of_isDigit hdigit (by decide)
    simp [special?, hlower, hi, hn]

private theorem negateIf_of_isZero (h : x.isZero = true) : x.negateIf x.isNegative = ⟨0⟩ := by
  rw [Binary64.isZero, Bool.and_eq_true, beq_iff_eq, beq_iff_eq] at h
  rw [← Binary64.ofNat_magnitude, Binary64.magnitude, if_pos h.1, h.2]
  rfl

private theorem unsigned?_of_reads {r : ℚ} (hfinite : x.isFinite = true) (hzero : x.isZero = false) (h : Reads cs r)
    (hr : (Interval.ofBinary64 x).Contains r) :
    (∃ c ∈ cs.head?, c.isDigit = true) ∧ unsigned? cs = some (x.negateIf x.isNegative) := by
  obtain ⟨hdigit, digits, count, exponent, hread, hlt, rfl⟩ := h
  refine ⟨hdigit, ?_⟩
  rw [hread, Binary64.ofScaled_eq hfinite hzero hlt hr]

/-- A finite double is written as its sign and a numeral that is read as the double without its sign. -/
private theorem write_eq (layout : Layout) (hfinite : x.isFinite = true) :
    ∃ body, (layout.write x).toList = (if x.isNegative then ['-'] else []) ++ body ∧
      (∃ c ∈ body.head?, c.isDigit = true) ∧ unsigned? body = some (x.negateIf x.isNegative) := by
  unfold Layout.write
  rw [String.toList_ofList]
  refine ⟨_, rfl, ?_⟩
  split
  · next hzero =>
    rw [negateIf_of_isZero hzero]
    exact ⟨⟨'0', rfl, by decide⟩, by decide⟩
  · next hzero =>
    have hzero' : x.isZero = false := Bool.eq_false_iff.2 hzero
    obtain ⟨hcount, hcontains⟩ := contains_shortest hfinite hzero'
    rw [hcount] at hcontains
    dsimp only
    split
    · exact unsigned?_of_reads hfinite hzero' (reads_positional _ _) hcontains
    · exact unsigned?_of_reads hfinite hzero' (reads_scientific layout _ _) hcontains

/-- A finite double is written as a numeral that is read as the same double. -/
theorem ofNumeral?_write (layout : Layout) (h : x.isFinite = true) :
    Binary64.ofNumeral? (layout.write x).toList = some x := by
  obtain ⟨body, htext, hdigit, hread⟩ := write_eq layout h
  have hspecial := special?_of_isDigit hdigit
  have hsigned : takeSign (layout.write x).toList = (x.isNegative, body) := by
    rw [htext]
    cases x.isNegative with
    | false => exact takeSign_of_isDigit hdigit
    | true => rfl
  simp only [Binary64.ofNumeral?, hsigned, hspecial, hread, Option.map_some, Binary64.negateIf_negateIf]

/-- Finite doubles are written apart. -/
theorem write_inj (layout : Layout) {y : Binary64} (hx : x.isFinite = true) (hy : y.isFinite = true)
    (h : layout.write x = layout.write y) : x = y := by
  have hread := ofNumeral?_write layout hx
  rw [h, ofNumeral?_write layout hy] at hread
  exact (Option.some.inj hread).symm

/-- An integer is written without a point and without an exponent. -/
private theorem not_mem_integerText (i : Int) : '.' ∉ (integerText i).toList ∧ 'e' ∉ (integerText i).toList := by
  have hdigits : ∀ k, '.' ∉ Nat.toDigits 10 k ∧ 'e' ∉ Nat.toDigits 10 k := fun k =>
    ⟨fun h => absurd (isDigit_of_mem_toDigits h) (by decide), fun h => absurd (isDigit_of_mem_toDigits h) (by decide)⟩
  by_cases hneg : i < 0
  · obtain ⟨k, rfl⟩ : ∃ k : Nat, i = -(k : Int) := ⟨i.natAbs, by omega⟩
    rw [toList_integerText_neg (by omega)]
    simp [hdigits k]
  · obtain ⟨k, rfl⟩ : ∃ k : Nat, i = k := ⟨i.toNat, by omega⟩
    rw [toList_integerText_nonneg]
    exact hdigits k

/-- A real number is written with a point or an exponent. -/
private theorem mem_write (layout : Layout) (x : Binary64) :
    '.' ∈ (layout.write x).toList ∨ 'e' ∈ (layout.write x).toList := by
  have hpositional : ∀ ds point, '.' ∈ positional ds point := by
    intro ds point
    unfold positional
    split
    · simp
    · split <;> simp
  have hscientific : ∀ ds exponent, 'e' ∈ scientific layout ds exponent := by
    intro ds exponent
    simp [scientific]
  unfold Layout.write
  rw [String.toList_ofList]
  refine Or.imp (List.mem_append_right _) (List.mem_append_right _) ?_
  split
  · simp
  · dsimp only
    split
    · exact .inl (hpositional _ _)
    · exact .inr (hscientific _ _)

theorem integerText_ne_write (layout : Layout) (i : Int) (x : Binary64) : integerText i ≠ layout.write x := by
  intro h
  rcases mem_write layout x with hmem | hmem
  · rw [← h] at hmem
    exact (not_mem_integerText i).1 hmem
  · rw [← h] at hmem
    exact (not_mem_integerText i).2 hmem

end AnalyzerBench.Decimal

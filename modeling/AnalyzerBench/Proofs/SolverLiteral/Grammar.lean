import AnalyzerBench.Proofs.Text.Blank
import AnalyzerBench.Proofs.Text.Numeral
import AnalyzerBench.Proofs.Text.Search
import AnalyzerBench.SolverLiteral
import Mathlib.Data.List.Basic

/-!
# The grammar of solver literals

A `Spelling` is what a text has to say about a literal: one binary digit, 11 binary digits and 13 hexadecimal digits.
`IsIn` puts these digits into a text, with their tags and brackets and with blanks where they may stand.  The texts that
are read are those with a spelling in them, and what is read is the literal of the spelling (`parse?_eq_some_iff`), so
printing the literal writes the same digits in the one form that printing knows (`Spelling.print_literal`).
-/

namespace AnalyzerBench.SolverLiteral

open Text (IsNumeral isBlank valueOf)
open Text.Chars (IsGap IsWord words)

/-- The digits of a literal. -/
@[ext]
structure Spelling where
  sign : List Char
  exponent : List Char
  significand : List Char
  isNumeral_sign : IsNumeral 2 1 sign
  isNumeral_exponent : IsNumeral 2 11 exponent
  isNumeral_significand : IsNumeral 16 13 significand

/-- The literal with the numbers that the digits write. -/
def Spelling.literal (d : Spelling) : SolverLiteral where
  sign := valueOf 2 d.sign == 1
  exponent := valueOf 2 d.exponent
  significand := valueOf 16 d.significand

/-- The digits of a literal with their tags, in brackets, with the given texts in between. -/
def layout (sign exponent significand w₀ w₁ w₂ w₃ : List Char) : List Char :=
  ['(', 'f', 'p'] ++ w₀ ++ ['#', 'b'] ++ sign ++ w₁ ++ ['#', 'b'] ++ exponent ++ w₂ ++ ['#', 'x'] ++ significand ++
    w₃ ++ [')']

/-- The text, apart from the blanks around it, is a literal with these digits. -/
def Spelling.IsIn (d : Spelling) (text : String) : Prop :=
  ∃ w₀ w₁ w₂ w₃, Text.Chars.trim text.toList = layout d.sign d.exponent d.significand w₀ w₁ w₂ w₃ ∧
    (∀ c ∈ w₀, isBlank c = true) ∧ IsGap w₁ ∧ IsGap w₂ ∧ ∀ c ∈ w₃, isBlank c = true

variable {base width n : Nat} {tag cs body : List Char} {text : String} {l : SolverLiteral} {d e : Spelling}

/-! ### Reading a spelling -/

theorem body?_eq_some_iff : body? cs = some body ↔ cs = ['(', 'f', 'p'] ++ (body ++ [')']) := by
  unfold body?
  constructor
  · intro h
    split at h
    · next rest hrest =>
      split at h
      · next hlast =>
        obtain rfl := Option.some.inj h
        rw [Text.Chars.afterStart?_eq_some_iff.1 hrest, List.dropLast_append_getLast? _ hlast]
      · cases h
    · cases h
  · rintro rfl
    rw [Text.Chars.afterStart?_eq_some_iff.2 rfl]
    simp

theorem field?_append (tag : List Char) {ds : List Char} (hb : base ≤ 16) (hw : 0 < width)
    (hds : IsNumeral base width ds) : field? tag base width (tag ++ ds) = some (valueOf base ds) := by
  have hne : ds ≠ [] := by
    rintro rfl
    have hlength : 0 = width := hds.length
    omega
  unfold field?
  rw [Text.Chars.afterStart?_eq_some_iff.2 rfl]
  dsimp only
  rw [if_pos hds.length, (Text.number?_eq_some_iff hb).2 ⟨hne, hds.digits, rfl⟩]

theorem field?_eq_some_iff (hb : base ≤ 16) (hw : 0 < width) :
    field? tag base width cs = some n ↔ ∃ ds, cs = tag ++ ds ∧ IsNumeral base width ds ∧ n = valueOf base ds := by
  constructor
  · intro h
    unfold field? at h
    split at h
    · next ds hds =>
      split at h
      · next hlength =>
        obtain ⟨-, hdigits, hn⟩ := (Text.number?_eq_some_iff hb).1 h
        exact ⟨ds, Text.Chars.afterStart?_eq_some_iff.1 hds, ⟨hlength, hdigits⟩, hn⟩
      · cases h
    · cases h
  · rintro ⟨ds, rfl, hds, rfl⟩
    exact field?_append tag hb hw hds

/-- The fields that a spelling puts between the brackets. -/
def Spelling.fields (d : Spelling) : List (List Char) :=
  [['#', 'b'] ++ d.sign, ['#', 'b'] ++ d.exponent, ['#', 'x'] ++ d.significand]

private theorem isWord_field {ds : List Char} {c : Char} (hc : isBlank c = false) (hb : base ≤ 16)
    (h : IsNumeral base width ds) : IsWord (['#', c] ++ ds) := by
  refine ⟨by simp, List.forall_mem_append.2 ⟨?_, fun x hx => ((h.digits x hx).mono hb).isBlank_eq⟩⟩
  exact List.forall_mem_cons.2 ⟨by decide, List.forall_mem_singleton.2 hc⟩

theorem Spelling.isWord_of_mem_fields (d : Spelling) : ∀ w ∈ d.fields, IsWord w := by
  simp only [fields, List.forall_mem_cons]
  exact ⟨isWord_field (by decide) (by decide) d.isNumeral_sign,
    isWord_field (by decide) (by decide) d.isNumeral_exponent,
    isWord_field (by decide) (by decide) d.isNumeral_significand, by simp⟩

/-- Three words stand in a text exactly if it is made of them and of blanks, with a gap between any two. -/
theorem words_eq_three_iff {u v w : List Char} :
    words cs = [u, v, w] ↔
      (∀ x ∈ [u, v, w], IsWord x) ∧ ∃ w₀ w₁ w₂ w₃, cs = w₀ ++ u ++ w₁ ++ v ++ w₂ ++ w ++ w₃ ∧
        (∀ c ∈ w₀, isBlank c = true) ∧ IsGap w₁ ∧ IsGap w₂ ∧ ∀ c ∈ w₃, isBlank c = true := by
  constructor
  · intro h
    obtain ⟨w₀, w₁, rest, rfl, hu, hw₁, hw₀, h⟩ := Text.Chars.words_eq_cons_cons_iff.1 h
    obtain ⟨before, w₂, rest, rfl, hv, hw₂, hbefore, h⟩ := Text.Chars.words_eq_cons_cons_iff.1 h
    obtain ⟨before', w₃, rfl, hw, hbefore', hw₃⟩ := Text.Chars.words_eq_singleton_iff.1 h
    -- The blanks before the second and the third word belong to the gaps in front of them.
    refine ⟨?_, w₀, w₁ ++ before, w₂ ++ before', w₃, by simp, hw₀, hw₁.append hbefore, hw₂.append hbefore', hw₃⟩
    exact List.forall_mem_cons.2 ⟨hu, List.forall_mem_cons.2 ⟨hv, List.forall_mem_singleton.2 hw⟩⟩
  · rintro ⟨hwords, w₀, w₁, w₂, w₃, rfl, hw₀, hw₁, hw₂, hw₃⟩
    have hlast : words (w ++ w₃) = [w] :=
      Text.Chars.words_eq_singleton_iff.2 ⟨[], w₃, rfl, hwords w (by simp), by simp, hw₃⟩
    have hmiddle : words (v ++ (w₂ ++ (w ++ w₃))) = [v, w] :=
      Text.Chars.words_eq_cons_cons_iff.2 ⟨[], w₂, _, rfl, hwords v (by simp), hw₂, by simp, hlast⟩
    simp only [List.append_assoc]
    exact Text.Chars.words_eq_cons_cons_iff.2 ⟨w₀, w₁, _, rfl, hwords u (by simp), hw₁, hw₀, hmiddle⟩

theorem Spelling.isIn_iff :
    d.IsIn text ↔ ∃ body, body? (Text.Chars.trim text.toList) = some body ∧ words body = d.fields := by
  simp only [body?_eq_some_iff, fields, words_eq_three_iff]
  constructor
  · rintro ⟨w₀, w₁, w₂, w₃, h, hblank⟩
    exact ⟨_, by simpa [layout] using h, d.isWord_of_mem_fields, w₀, w₁, w₂, w₃, rfl, hblank⟩
  · rintro ⟨body, h, -, w₀, w₁, w₂, w₃, rfl, hblank⟩
    exact ⟨w₀, w₁, w₂, w₃, by simpa [layout] using h, hblank⟩

/-- A text has at most one spelling in it. -/
theorem Spelling.IsIn.unique (hd : d.IsIn text) (he : e.IsIn text) : d = e := by
  obtain ⟨body, hbody, hwords⟩ := Spelling.isIn_iff.1 hd
  obtain ⟨body', hbody', hwords'⟩ := Spelling.isIn_iff.1 he
  obtain rfl : body = body' := Option.some.inj (hbody.symm.trans hbody')
  have hfields : d.fields = e.fields := hwords.symm.trans hwords'
  simp only [Spelling.fields, List.cons.injEq, List.append_cancel_left_eq, and_true] at hfields
  obtain ⟨hsign, hexponent, hsignificand⟩ := hfields
  exact Spelling.ext hsign hexponent hsignificand

/-- What is read from a text is the literal of the spelling in it. -/
theorem parse?_eq_some_iff : parse? text = some l ↔ ∃ d : Spelling, d.IsIn text ∧ d.literal = l := by
  constructor
  · intro h
    obtain ⟨body, hbody, h⟩ := Option.bind_eq_some_iff.1 h
    split at h
    · next _ f₁ f₂ f₃ hwords =>
      obtain ⟨sign, hsign, h⟩ := Option.bind_eq_some_iff.1 h
      obtain ⟨exponent, hexponent, h⟩ := Option.bind_eq_some_iff.1 h
      obtain ⟨significand, hsignificand, h⟩ := Option.bind_eq_some_iff.1 h
      obtain rfl := Option.some.inj h
      obtain ⟨ds, rfl, hds, rfl⟩ := (field?_eq_some_iff (by decide) (by decide)).1 hsign
      obtain ⟨es, rfl, hes, rfl⟩ := (field?_eq_some_iff (by decide) (by decide)).1 hexponent
      obtain ⟨xs, rfl, hxs, rfl⟩ := (field?_eq_some_iff (by decide) (by decide)).1 hsignificand
      exact ⟨⟨ds, es, xs, hds, hes, hxs⟩, Spelling.isIn_iff.2 ⟨body, hbody, hwords⟩, rfl⟩
    · cases h
  · rintro ⟨d, hd, rfl⟩
    obtain ⟨body, hbody, hwords⟩ := Spelling.isIn_iff.1 hd
    have hsign := field?_append ['#', 'b'] (by decide) (by decide) d.isNumeral_sign
    have hexponent := field?_append ['#', 'b'] (by decide) (by decide) d.isNumeral_exponent
    have hsignificand := field?_append ['#', 'x'] (by decide) (by decide) d.isNumeral_significand
    unfold parse?
    rw [hbody, Option.bind_eq_bind, Option.bind_some, hwords]
    simp only [Spelling.fields, hsign, hexponent, hsignificand, Option.bind_eq_bind, Option.bind_some, Spelling.literal]

/-! ### The literal of a spelling -/

theorem Spelling.toNat_sign (d : Spelling) : d.literal.sign.toNat = valueOf 2 d.sign := by
  have hlt : valueOf 2 d.sign < 2 := d.isNumeral_sign.valueOf_lt (by decide) (by decide)
  have hbit : ∀ n < 2, (n == 1).toNat = n := by decide
  exact hbit _ hlt

private theorem fixedDigits_sign (d : Spelling) : Text.fixedDigits 2 1 d.literal.sign.toNat = d.sign := by
  rw [d.toNat_sign, d.isNumeral_sign.fixedDigits_eq (by decide), d.isNumeral_sign.map_toLower_eq (by decide)]

private theorem fixedDigits_exponent (d : Spelling) : Text.fixedDigits 2 11 d.literal.exponent = d.exponent :=
  (d.isNumeral_exponent.fixedDigits_eq (by decide)).trans (d.isNumeral_exponent.map_toLower_eq (by decide))

private theorem fixedDigits_significand (d : Spelling) :
    Text.fixedDigits 16 13 d.literal.significand = d.significand.map Char.toLower :=
  d.isNumeral_significand.fixedDigits_eq (by decide)

/-- Printing writes the digits of a spelling again, with small letters and single blanks. -/
theorem Spelling.print_literal (d : Spelling) :
    d.literal.print =
      String.ofList (layout d.sign d.exponent (d.significand.map Char.toLower) [' '] [' '] [' '] []) := by
  rw [print, chars, fixedDigits_sign, fixedDigits_exponent, fixedDigits_significand]
  simp [layout]

theorem Spelling.literal_eq_iff :
    d.literal = e.literal ↔ d.sign = e.sign ∧ d.exponent = e.exponent ∧
      d.significand.map Char.toLower = e.significand.map Char.toLower := by
  constructor
  · intro h
    refine ⟨?_, ?_, ?_⟩
    · rw [← fixedDigits_sign d, h, fixedDigits_sign e]
    · rw [← fixedDigits_exponent d, h, fixedDigits_exponent e]
    · rw [← fixedDigits_significand d, h, fixedDigits_significand e]
  · rintro ⟨hsign, hexponent, hsignificand⟩
    rw [literal, literal, hsign, hexponent, Text.valueOf_congr 16 hsignificand]

/-! ### Texts -/

theorem Spelling.IsIn.parse_eq (h : d.IsIn text) : parse text = .ok d.literal := by
  rw [parse, parse?_eq_some_iff.2 ⟨d, h, rfl⟩]

theorem parse_eq_error (h : ¬ ∃ d : Spelling, d.IsIn text) : parse text = .error (.invalidLiteral text) := by
  unfold parse
  split
  · next l hl =>
    obtain ⟨d, hd, -⟩ := parse?_eq_some_iff.1 hl
    exact absurd ⟨d, hd⟩ h
  · rfl

/-- A text is read exactly if there is a spelling in it, and any other text is reported whole.  The fields read are the
numbers of the spelling, which printing writes with small letters and single blanks, so texts are read alike exactly if
their digits agree up to the case of letters. -/
theorem parse_grammar :
    (∀ text, (∃ l, parse text = .ok l) ↔ ∃ d : Spelling, d.IsIn text) ∧
    (∀ text, (¬ ∃ d : Spelling, d.IsIn text) → parse text = .error (.invalidLiteral text)) ∧
    (∀ text, ∀ d : Spelling, d.IsIn text → ∃ l, parse text = .ok l ∧
      l.sign.toNat = valueOf 2 d.sign ∧ l.exponent = valueOf 2 d.exponent ∧ l.significand = valueOf 16 d.significand ∧
      l.print = String.ofList (layout d.sign d.exponent (d.significand.map Char.toLower) [' '] [' '] [' '] [])) ∧
    ∀ text text', ∀ d e : Spelling, d.IsIn text → e.IsIn text' →
      (parse text = parse text' ↔ d.sign = e.sign ∧ d.exponent = e.exponent ∧
        d.significand.map Char.toLower = e.significand.map Char.toLower) := by
  refine ⟨?_, fun _ => parse_eq_error, ?_, ?_⟩
  · intro text
    constructor
    · rintro ⟨l, hl⟩
      by_contra hnone
      rw [parse_eq_error hnone] at hl
      cases hl
    · rintro ⟨d, hd⟩
      exact ⟨d.literal, hd.parse_eq⟩
  · intro text d hd
    exact ⟨d.literal, hd.parse_eq, d.toNat_sign, rfl, rfl, d.print_literal⟩
  · intro text text' d e hd he
    rw [hd.parse_eq, he.parse_eq, Except.ok.injEq, Spelling.literal_eq_iff]

private def looseDigits : Spelling where
  sign := ['1']
  exponent := "10000000000".toList
  significand := "ABCdef0123456".toList
  isNumeral_sign := by decide
  isNumeral_exponent := by decide
  isNumeral_significand := by decide

private def plainDigits : Spelling :=
  { looseDigits with
    significand := "abcdef0123456".toList
    isNumeral_significand := by decide }

/-- Blanks of several kinds, or none before the sign, and digits of either case are read; a signed exponent is not. -/
theorem parse_grammar_loose :
    (∃ l, parse "\u2003(fp#b1\t#b10000000000\r\n#xABCdef0123456 ) " = .ok l ∧
      l.print = "(fp #b1 #b10000000000 #xabcdef0123456)") ∧
    parse "\u2003(fp#b1\t#b10000000000\r\n#xABCdef0123456 ) " = parse "(fp #b1 #b10000000000 #xabcdef0123456)" ∧
    parse "(fp #b0 #b+0000000000 #x0000000000000)" =
      .error (.invalidLiteral "(fp #b0 #b+0000000000 #x0000000000000)") := by
  obtain ⟨-, hrejected, hread, halike⟩ := parse_grammar
  have hspace : IsGap [' '] := ⟨by simp, List.all_eq_true.1 (by decide)⟩
  have htab : IsGap ['\t'] := ⟨by simp, List.all_eq_true.1 (by decide)⟩
  have hcrlf : IsGap ['\r', '\n'] := ⟨by simp, List.all_eq_true.1 (by decide)⟩
  have hloose : looseDigits.IsIn "\u2003(fp#b1\t#b10000000000\r\n#xABCdef0123456 ) " :=
    ⟨[], ['\t'], ['\r', '\n'], [' '], by decide +kernel, by simp, htab, hcrlf, hspace.blank⟩
  have hplain : plainDigits.IsIn "(fp #b1 #b10000000000 #xabcdef0123456)" :=
    ⟨[' '], [' '], [' '], [], by decide +kernel, hspace.blank, hspace, hspace, by simp⟩
  refine ⟨?_, (halike _ _ _ _ hloose hplain).2 (by decide), hrejected _ ?_⟩
  · obtain ⟨l, hl, -, -, -, hprint⟩ := hread _ _ hloose
    exact ⟨l, hl, hprint.trans (by decide +kernel)⟩
  · rintro ⟨d, hd⟩
    have hnone : parse? "(fp #b0 #b+0000000000 #x0000000000000)" = none := by decide +kernel
    rw [parse?_eq_some_iff.2 ⟨d, hd, rfl⟩] at hnone
    cases hnone

end AnalyzerBench.SolverLiteral

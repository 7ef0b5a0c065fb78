import AnalyzerBench.Proofs.Text.Closed
import AnalyzerBench.Proofs.Text.Digits

/-!
# Quoted text is unambiguous

Whichever characters are spelled by number, a quoted text is closed (`closed_quote`), holds no control characters
(`le_toNat_of_mem_quote`), and can be read back together with whatever stands after it (`quote_append_inj`).  For that,
`unescape?` takes the first character of a quoted text apart from the rest.
-/

namespace AnalyzerBench.Text.Chars

variable {hidden hidden' : Char → Bool}

/-! ### Reading characters back -/

/-- The character that a letter stands for after a backslash. -/
def shortEscape? (c : Char) : Option Char :=
  if c = '0' then some '\x00'
  else if c = 't' then some '\t'
  else if c = 'r' then some '\r'
  else if c = 'n' then some '\n'
  else if c = '"' then some '"'
  else if c = '\\' then some '\\'
  else none

/-- The first character of the text inside quotes and what follows it; none at the closing quote. -/
def unescape? : List Char → Option (Char × List Char)
  | '\\' :: 'u' :: '{' :: cs =>
    (number? 16 (cs.takeWhile (· != '}'))).map fun n => (Char.ofNat n, (cs.dropWhile (· != '}')).tail)
  | '\\' :: c :: cs => (shortEscape? c).map (·, cs)
  | '"' :: _ => none
  | c :: cs => some (c, cs)
  | [] => none

private theorem takeWhile_digits (c : Char) (rest : List Char) :
    (codePointDigits c ++ '}' :: rest).takeWhile (· != '}') = codePointDigits c ∧
      ((codePointDigits c ++ '}' :: rest).dropWhile (· != '}')).tail = rest := by
  have hbrace : ∀ x ∈ codePointDigits c, (x != '}') = true := by
    intro x hx
    obtain ⟨d, hd, rfl⟩ := mem_codePointDigits hx
    have hall : ∀ d < 16, (Nat.digitChar d != '}') = true := by decide
    exact hall d hd
  rw [List.takeWhile_append_of_pos hbrace, List.dropWhile_append_of_pos hbrace]
  simp

private theorem mem_of_shortEscape? {d c : Char} (h : shortEscape? d = some c) : d ∈ ['0', 't', 'r', 'n', '"', '\\'] := by
  by_cases hmem : d ∈ ['0', 't', 'r', 'n', '"', '\\']
  · exact hmem
  · simp only [List.mem_cons, List.not_mem_nil, or_false, not_or] at hmem
    simp [shortEscape?, hmem] at h

/-- A character is spelled by a letter after a backslash, by number, or as it is. -/
theorem escape_cases (hidden : Char → Bool) (c : Char) :
    (∃ d, shortEscape? d = some c ∧ escape hidden c = ['\\', d]) ∨
    escape hidden c = '\\' :: 'u' :: '{' :: (codePointDigits c ++ ['}']) ∨
    (0x20 ≤ c.toNat ∧ c ≠ '"' ∧ c ≠ '\\' ∧ escape hidden c = [c]) := by
  unfold escape
  split
  · next h => exact .inl ⟨'0', by rw [h]; rfl, rfl⟩
  split
  · next h => exact .inl ⟨'t', by rw [h]; rfl, rfl⟩
  split
  · next h => exact .inl ⟨'r', by rw [h]; rfl, rfl⟩
  split
  · next h => exact .inl ⟨'n', by rw [h]; rfl, rfl⟩
  split
  · next h => exact .inl ⟨'"', by rw [h]; rfl, rfl⟩
  split
  · next h => exact .inl ⟨'\\', by rw [h]; rfl, rfl⟩
  split
  · exact .inr (.inl rfl)
  · next hquote hbackslash hshown =>
    have hle : 0x20 ≤ c.toNat := by
      simp only [Bool.or_eq_true, decide_eq_true_eq, not_or] at hshown
      omega
    exact .inr (.inr ⟨hle, hquote, hbackslash, rfl⟩)

/-- An escaped character is read back, whatever follows. -/
theorem unescape?_escape (hidden : Char → Bool) (c : Char) (rest : List Char) :
    unescape? (escape hidden c ++ rest) = some (c, rest) := by
  rcases escape_cases hidden c with ⟨d, hd, h⟩ | h | ⟨-, hquote, hbackslash, h⟩
  · have hne : d ≠ 'u' := by
      rintro rfl
      exact absurd (mem_of_shortEscape? hd) (by decide)
    simp [h, unescape?, hne, hd]
  · obtain ⟨hdigits, hrest⟩ := takeWhile_digits c rest
    simp only [h, List.cons_append, List.append_assoc, List.nil_append, unescape?]
    rw [hdigits, hrest, number?_codePointDigits, Option.map_some, Char.ofNat_toNat]
  · simp [h, unescape?, hbackslash]

theorem unescape?_quote (rest : List Char) : unescape? ('"' :: rest) = none := rfl

/-- Characters that are read back one by one up to a closing quote can be told from what follows the quote. -/
theorem flatMap_append_quote_inj {spell spell' : Char → List Char} {read? : List Char → Option (Char × List Char)}
    (hspell : ∀ c rest, read? (spell c ++ rest) = some (c, rest))
    (hspell' : ∀ c rest, read? (spell' c ++ rest) = some (c, rest)) (hquote : ∀ rest, read? ('"' :: rest) = none)
    {cs ds xs ys : List Char} (h : cs.flatMap spell ++ '"' :: xs = ds.flatMap spell' ++ '"' :: ys) :
    cs = ds ∧ xs = ys := by
  induction cs generalizing ds with
  | nil =>
    cases ds with
    | nil => simpa using h
    | cons d ds =>
      have e := congrArg read? h
      rw [List.flatMap_cons, List.append_assoc, hspell'] at e
      simp [hquote] at e
  | cons c cs ih =>
    cases ds with
    | nil =>
      have e := congrArg read? h
      rw [List.flatMap_cons, List.append_assoc, hspell] at e
      simp [hquote] at e
    | cons d ds =>
      have e := congrArg read? h
      rw [List.flatMap_cons, List.flatMap_cons, List.append_assoc, List.append_assoc, hspell, hspell'] at e
      simp only [Option.some.injEq, Prod.mk.injEq] at e
      obtain ⟨rfl, hrest⟩ := e
      obtain ⟨rfl, rfl⟩ := ih hrest
      exact ⟨rfl, rfl⟩

/-- A quoted text can be told from what follows it, even from one in which other characters are spelled by number. -/
theorem quote_append_inj {cs ds xs ys : List Char} (h : quote hidden cs ++ xs = quote hidden' ds ++ ys) :
    cs = ds ∧ xs = ys := by
  have hbody : cs.flatMap (escape hidden) ++ '"' :: xs = ds.flatMap (escape hidden') ++ '"' :: ys := by
    simpa [quote] using h
  exact flatMap_append_quote_inj (unescape?_escape hidden) (unescape?_escape hidden') unescape?_quote hbody

/-! ### Control characters -/

private theorem mem_bracedDigits {c x : Char} (h : x ∈ '{' :: (codePointDigits c ++ ['}'])) :
    x = '{' ∨ x = '}' ∨ ∃ d < 16, x = Nat.digitChar d := by
  rcases List.mem_cons.1 h with rfl | h
  · exact .inl rfl
  · rcases List.mem_append.1 h with h | h
    · exact .inr (.inr (mem_codePointDigits h))
    · exact .inr (.inl (List.mem_singleton.1 h))

/-- No control character is left where a character is spelled. -/
theorem le_toNat_of_mem_escape {c x : Char} (h : x ∈ escape hidden c) : 0x20 ≤ x.toNat := by
  rcases escape_cases hidden c with ⟨d, hd, hc⟩ | hc | ⟨hle, -, -, hc⟩
  · have hall : (['0', 't', 'r', 'n', '"', '\\'].all fun y => 0x20 ≤ y.toNat) = true := by decide
    rw [hc] at h
    rcases List.mem_cons.1 h with rfl | h
    · decide
    · obtain rfl := List.mem_singleton.1 h
      simpa using List.all_eq_true.1 hall x (mem_of_shortEscape? hd)
  · rw [hc] at h
    rcases List.mem_cons.1 h with rfl | h
    · decide
    · rcases List.mem_cons.1 h with rfl | h
      · decide
      · rcases mem_bracedDigits h with rfl | rfl | ⟨d, hd, rfl⟩
        · decide
        · decide
        · have hall : ∀ d < 16, 0x20 ≤ (Nat.digitChar d).toNat := by decide
          exact hall d hd
  · rw [hc] at h
    obtain rfl := List.mem_singleton.1 h
    exact hle

theorem le_toNat_of_mem_quote {cs : List Char} {x : Char} (h : x ∈ quote hidden cs) : 0x20 ≤ x.toNat := by
  unfold quote at h
  rcases List.mem_cons.1 h with rfl | h
  · decide
  · rcases List.mem_append.1 h with h | h
    · obtain ⟨c, -, hx⟩ := List.mem_flatMap.1 h
      exact le_toNat_of_mem_escape hx
    · obtain rfl := List.mem_singleton.1 h
      decide

/-! ### Closedness -/

theorem enclosed_escape (hidden : Char → Bool) (c : Char) : Enclosed (escape hidden c) := by
  rcases escape_cases hidden c with ⟨d, hd, h⟩ | h | ⟨hle, hquote, hbackslash, h⟩
  · have hne : d ≠ '\n' := by
      rintro rfl
      exact absurd (mem_of_shortEscape? hd) (by decide)
    rw [h]
    exact .backslash hne (.of_inert (by simp))
  · have hinert : ∀ x ∈ '{' :: (codePointDigits c ++ ['}']), isInert x = true := by
      intro x hx
      rcases mem_bracedDigits hx with rfl | rfl | ⟨d, hd, rfl⟩
      · decide
      · decide
      · have hall : ∀ d < 16, isInert (Nat.digitChar d) = true := by decide
        exact hall d hd
    rw [h]
    exact .backslash (by decide) (.of_inert hinert)
  · have hne : c ≠ '\n' := by
      rintro rfl
      exact absurd hle (by decide)
    rw [h]
    exact .singleton hne hquote hbackslash

/-- A quoted text is closed. -/
theorem closed_quote (hidden : Char → Bool) (cs : List Char) : Closed (quote hidden cs) :=
  (Enclosed.flatMap (enclosed_escape hidden) cs).quoted

end AnalyzerBench.Text.Chars

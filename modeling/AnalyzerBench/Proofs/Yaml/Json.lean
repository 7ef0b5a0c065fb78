import AnalyzerBench.Proofs.Except
import AnalyzerBench.Proofs.Text.Blank
import AnalyzerBench.Proofs.Text.Quoted
import AnalyzerBench.Yaml.Value.Json

/-!
# JSON texts are closed

Compact JSON holds no line feed, and no backslash or equals sign outside its strings: every text that a value is written
as is closed (`closed_json`), and its last character is no blank (`getLast?_json`).
-/

namespace AnalyzerBench

open Text.Chars (Closed Enclosed isInert)

/-! ### Numerals -/

/-- The characters of a number. -/
def isNumeral (c : Char) : Bool := c.isDigit || c == '-' || c == '+' || c == '.' || c == 'e'

theorem isNumeral_of_isDigit {c : Char} (h : c.isDigit = true) : isNumeral c = true := by
  simp [isNumeral, h]

theorem isNumeral_iff {c : Char} : isNumeral c = true ↔ c.isDigit = true ∨ c = '-' ∨ c = '+' ∨ c = '.' ∨ c = 'e' := by
  simp [isNumeral, or_assoc]

theorem isInert_of_isNumeral {c : Char} (h : isNumeral c = true) : isInert c = true := by
  rcases isNumeral_iff.1 h with h | rfl | rfl | rfl | rfl
  · have hne : ∀ d : Char, d.isDigit = false → c ≠ d := fun d => Text.ne_of_isDigit h
    simp only [isInert, Bool.and_eq_true, bne_iff_ne]
    exact ⟨⟨⟨hne _ (by decide), hne _ (by decide)⟩, hne _ (by decide)⟩, hne _ (by decide)⟩
  · decide
  · decide
  · decide
  · decide

theorem isBlank_of_isNumeral {c : Char} (h : isNumeral c = true) : Text.isBlank c = false := by
  rcases isNumeral_iff.1 h with h | rfl | rfl | rfl | rfl
  · obtain ⟨hlow, hhigh⟩ := Text.toNat_of_isDigit h
    simp only [Text.isBlank, Bool.or_eq_false_iff, Bool.and_eq_false_iff, decide_eq_false_iff_not, beq_eq_false_iff_ne]
    omega
  · decide
  · decide
  · decide
  · decide

namespace Decimal

theorem isNumeral_decimal (n : Nat) : ∀ c ∈ (Text.decimal n).toList, isNumeral c = true := by
  intro c h
  rw [Text.decimal, String.toList_ofList] at h
  exact isNumeral_of_isDigit (Nat.isDigit_of_mem_toDigits (by decide) (by decide) h)

theorem isNumeral_integerText (i : Int) : ∀ c ∈ (integerText i).toList, isNumeral c = true := by
  unfold integerText
  split
  · rw [String.toList_append]
    exact List.forall_mem_append.2 ⟨List.all_eq_true.1 (by decide), isNumeral_decimal _⟩
  · exact isNumeral_decimal _

theorem integerText_ne_nil (i : Int) : (integerText i).toList ≠ [] := by
  unfold integerText
  split <;> simp [Text.decimal]

private theorem isNumeral_zeros (n : Nat) : ∀ c ∈ List.replicate n '0', isNumeral c = true := by
  intro c h
  rw [(List.mem_replicate.1 h).2]
  decide

private theorem isNumeral_positional {ds : List Char} (hds : ∀ c ∈ ds, isNumeral c = true) (point : Int) :
    ∀ c ∈ positional ds point, isNumeral c = true := by
  unfold positional
  split
  · exact List.forall_mem_append.2 ⟨List.forall_mem_append.2 ⟨List.all_eq_true.1 (by decide), isNumeral_zeros _⟩, hds⟩
  split
  · exact List.forall_mem_append.2 ⟨List.forall_mem_append.2 ⟨hds, isNumeral_zeros _⟩, List.all_eq_true.1 (by decide)⟩
  · refine List.forall_mem_append.2 ⟨fun c h => hds c (List.mem_of_mem_take h), ?_⟩
    exact List.forall_mem_cons.2 ⟨by decide, fun c h => hds c (List.mem_of_mem_drop h)⟩

private theorem isNumeral_scientific (layout : Layout) {ds : List Char} (hds : ∀ c ∈ ds, isNumeral c = true)
    (exponent : Int) : ∀ c ∈ scientific layout ds exponent, isNumeral c = true := by
  have hsign : ∀ c ∈ (if layout.signedExponent && exponent ≥ 0 then ['+'] else []), isNumeral c = true := by
    split <;> exact List.all_eq_true.1 (by decide)
  unfold scientific
  refine List.forall_mem_append.2 ⟨List.forall_mem_append.2 ⟨?_, List.forall_mem_cons.2 ⟨by decide, hsign⟩⟩,
    isNumeral_integerText exponent⟩
  split
  · simp only [List.forall_mem_cons] at hds ⊢
    exact ⟨hds.1, by decide, hds.2⟩
  · exact hds

/-- A real number is written with the characters of numerals. -/
theorem isNumeral_write (layout : Layout) (x : Binary64) : ∀ c ∈ (layout.write x).toList, isNumeral c = true := by
  have hdigits : ∀ c ∈ Nat.toDigits 10 (shortest x).digits, isNumeral c = true := by
    intro c h
    exact isNumeral_of_isDigit (Nat.isDigit_of_mem_toDigits (by decide) (by decide) h)
  unfold Layout.write
  rw [String.toList_ofList]
  refine List.forall_mem_append.2 ⟨by split <;> exact List.all_eq_true.1 (by decide), ?_⟩
  split
  · exact List.all_eq_true.1 (by decide)
  · dsimp only
    split
    · exact isNumeral_positional hdigits _
    · exact isNumeral_scientific layout hdigits _

theorem write_ne_nil (layout : Layout) (x : Binary64) : (layout.write x).toList ≠ [] := by
  have hpositional : ∀ ds point, positional ds point ≠ [] := by
    intro ds point
    unfold positional
    split
    · simp
    · split <;> simp
  have hscientific : ∀ ds exponent, scientific layout ds exponent ≠ [] := by
    intro ds exponent
    simp [scientific]
  unfold Layout.write
  rw [String.toList_ofList]
  refine List.append_ne_nil_of_right_ne_nil _ ?_
  split
  · simp
  · dsimp only
    split
    · exact hpositional _ _
    · exact hscientific _ _

end Decimal

/-! ### Strings -/

namespace Yaml

theorem Json.enclosed_escape (c : Char) : Enclosed (Json.escape c) := by
  have hnil : Enclosed [] := .of_inert (by simp)
  unfold Json.escape
  split
  · exact .backslash (by decide) hnil
  split
  · exact .backslash (by decide) hnil
  split
  · exact .backslash (by decide) hnil
  split
  · exact .backslash (by decide) hnil
  split
  · exact .backslash (by decide) hnil
  split
  · exact .backslash (by decide) hnil
  split
  · exact .backslash (by decide) hnil
  split
  · refine .backslash (by decide) (.of_inert fun x hx => ?_)
    obtain ⟨d, hd, rfl⟩ := Text.mem_fixedDigits (by decide) hx
    have hall : ∀ d < 16, isInert (Nat.digitChar d) = true := by decide
    exact hall d hd
  next hq hb _ _ hn _ _ _ => exact .singleton hn hq hb

theorem Json.toList_string (s : String) : (Json.string s).toList = '"' :: (s.toList.flatMap Json.escape ++ ['"']) := by
  rw [Json.string, String.toList_ofList]

theorem Json.closed_string (s : String) : Closed (Json.string s).toList := by
  rw [Json.toList_string]
  exact (Enclosed.flatMap Json.enclosed_escape s.toList).quoted

/-- The first character of the text inside a JSON string and what follows it; none at the closing quote. -/
def Json.unescape? : List Char → Option (Char × List Char)
  | '\\' :: 'u' :: cs => (Text.number? 16 (cs.take 4)).map fun n => (Char.ofNat n, cs.drop 4)
  | '\\' :: 'b' :: cs => some ('\x08', cs)
  | '\\' :: 'f' :: cs => some ('\x0c', cs)
  | '\\' :: 'n' :: cs => some ('\n', cs)
  | '\\' :: 'r' :: cs => some ('\r', cs)
  | '\\' :: 't' :: cs => some ('\t', cs)
  | '\\' :: c :: cs => some (c, cs)
  | '"' :: _ => none
  | c :: cs => some (c, cs)
  | [] => none

theorem Json.unescape?_escape (c : Char) (rest : List Char) : unescape? (escape c ++ rest) = some (c, rest) := by
  unfold escape
  split
  · next h => subst h; rfl
  split
  · next h => subst h; rfl
  split
  · next h => subst h; rfl
  split
  · next h => subst h; rfl
  split
  · next h => subst h; rfl
  split
  · next h => subst h; rfl
  split
  · next h => subst h; rfl
  split
  · next h =>
    have hlength := Text.length_fixedDigits 16 4 c.toNat
    have hnumber := Text.number?_fixedDigits (Nat.le_refl 16) (by decide : 0 < 4) (Nat.lt_trans h (by decide))
    have htake : (Text.fixedDigits 16 4 c.toNat ++ rest).take 4 = Text.fixedDigits 16 4 c.toNat := by
      rw [List.take_append_of_le_length (by omega), List.take_of_length_le (by omega)]
    have hdrop : (Text.fixedDigits 16 4 c.toNat ++ rest).drop 4 = rest := by
      rw [List.drop_append_of_le_length (by omega), List.drop_of_length_le (by omega), List.nil_append]
    simp only [List.cons_append, List.nil_append, unescape?]
    rw [htake, hdrop, hnumber, Option.map_some, Char.ofNat_toNat]
  · next hbackslash _ _ _ _ _ _ => simp [unescape?, hbackslash]

/-- A JSON string can be told from what follows it. -/
theorem Json.string_append_inj {s t : String} {xs ys : List Char}
    (h : (Json.string s).toList ++ xs = (Json.string t).toList ++ ys) : s = t ∧ xs = ys := by
  have hbody : s.toList.flatMap escape ++ '"' :: xs = t.toList.flatMap escape ++ '"' :: ys := by
    simpa [toList_string] using h
  obtain ⟨hst, hrest⟩ := Text.Chars.flatMap_append_quote_inj unescape?_escape unescape?_escape (fun _ => rfl) hbody
  exact ⟨String.toList_inj.1 hst, hrest⟩

/-! ### Values -/

theorem Json.closed_bool (b : Bool) : Closed (Json.bool b).toList := by
  cases b <;> exact .literal (by decide)

private theorem closed_of_isNumeral {cs : List Char} (h : ∀ c ∈ cs, isNumeral c = true) : Closed cs :=
  .of_inert fun c hc => isInert_of_isNumeral (h c hc)

theorem Json.closed_number (n : Number) : Closed (Json.number n).toList := by
  cases n with
  | integer i => exact closed_of_isNumeral (Decimal.isNumeral_integerText i)
  | real x =>
    unfold Json.number
    dsimp only
    split
    · exact closed_of_isNumeral (Decimal.isNumeral_write _ x)
    · exact .literal (by decide)

/-- Text between quotes that needs no escapes. -/
private theorem closed_unescaped {s : String} (h : ∀ c ∈ s.toList, isInert c = true) :
    Closed ("\"" ++ s ++ "\"").toList := by
  have hquoted : Closed ('"' :: (s.toList ++ ['"'])) := (Enclosed.of_inert h).quoted
  simpa using hquoted

theorem Json.closed_key {v : Value} {name : String} (h : Json.key v = .ok name) : Closed name.toList := by
  unfold Json.key at h
  split at h
  · obtain rfl := Except.ok.inj h
    exact Json.closed_string _
  · obtain rfl := Except.ok.inj h
    next b => cases b <;> exact closed_unescaped (List.all_eq_true.1 (by decide))
  · obtain rfl := Except.ok.inj h
    exact closed_unescaped fun c hc => isInert_of_isNumeral (Decimal.isNumeral_integerText _ c hc)
  · split at h
    · obtain rfl := Except.ok.inj h
      exact closed_unescaped fun c hc => isInert_of_isNumeral (Decimal.isNumeral_write _ _ c hc)
    · cases h
  · cases h

namespace Value

mutual

/-- A value is written as a closed text. -/
theorem closed_json : ∀ {v : Value} {s : String}, v.json = .ok s → Closed s.toList
  | .null, s, h => by
    obtain rfl := Except.ok.inj h
    exact .literal (by decide)
  | .bool b, s, h => by
    obtain rfl := Except.ok.inj h
    exact Json.closed_bool b
  | .number n, s, h => by
    obtain rfl := Except.ok.inj h
    exact Json.closed_number n
  | .string t, s, h => by
    obtain rfl := Except.ok.inj h
    exact Json.closed_string t
  | .sequence items, s, h => by
    obtain ⟨text, htext, hs⟩ := bind_eq_ok_iff.1 h
    obtain rfl := Except.ok.inj hs
    have hitems := closed_jsonItems (.inl rfl) htext
    rw [String.toList_append, String.toList_append]
    exact ((Closed.literal (by decide)).append hitems).append (.literal (by decide))
  | .mapping entries, s, h => by
    obtain ⟨text, htext, hs⟩ := bind_eq_ok_iff.1 h
    obtain rfl := Except.ok.inj hs
    have hentries := closed_jsonEntries (.inl rfl) htext
    rw [String.toList_append, String.toList_append]
    exact ((Closed.literal (by decide)).append hentries).append (.literal (by decide))
  | .tagged tag value, s, h => by
    obtain ⟨text, htext, hs⟩ := bind_eq_ok_iff.1 h
    obtain rfl := Except.ok.inj hs
    have hvalue := closed_json htext
    simp only [String.toList_append]
    exact ((((Closed.literal (by decide)).append (Json.closed_string tag)).append (.literal (by decide))).append
      hvalue).append (.literal (by decide))

theorem closed_jsonItems : ∀ {vs : List Value} {separator s : String}, separator = "" ∨ separator = "," →
    jsonItems separator vs = .ok s → Closed s.toList
  | [], _, s, _, h => by
    obtain rfl := Except.ok.inj h
    exact .of_inert (by simp)
  | v :: vs, separator, s, hsep, h => by
    obtain ⟨text, htext, h⟩ := bind_eq_ok_iff.1 h
    obtain ⟨rest, hrest, hs⟩ := bind_eq_ok_iff.1 h
    obtain rfl := Except.ok.inj hs
    have hseparator : Closed separator.toList := by
      rcases hsep with rfl | rfl <;> exact .literal (by decide)
    rw [String.toList_append, String.toList_append]
    exact (hseparator.append (closed_json htext)).append (closed_jsonItems (.inr rfl) hrest)

theorem closed_jsonEntries : ∀ {es : List (Value × Value)} {separator s : String}, separator = "" ∨ separator = "," →
    jsonEntries separator es = .ok s → Closed s.toList
  | [], _, s, _, h => by
    obtain rfl := Except.ok.inj h
    exact .of_inert (by simp)
  | (k, v) :: es, separator, s, hsep, h => by
    obtain ⟨name, hname, h⟩ := bind_eq_ok_iff.1 h
    obtain ⟨text, htext, h⟩ := bind_eq_ok_iff.1 h
    obtain ⟨rest, hrest, hs⟩ := bind_eq_ok_iff.1 h
    obtain rfl := Except.ok.inj hs
    have hseparator : Closed separator.toList := by
      rcases hsep with rfl | rfl <;> exact .literal (by decide)
    simp only [String.toList_append]
    exact (((hseparator.append (Json.closed_key hname)).append (.literal (by decide))).append
      (closed_json htext)).append (closed_jsonEntries (.inr rfl) hrest)

end

private theorem getLast?_of_isNumeral {cs : List Char} (hne : cs ≠ []) (h : ∀ c ∈ cs, isNumeral c = true) :
    ∃ c, cs.getLast? = some c ∧ Text.isBlank c = false :=
  ⟨cs.getLast hne, List.getLast?_eq_some_getLast hne, isBlank_of_isNumeral (h _ (List.getLast_mem hne))⟩

/-- A JSON text ends in a character that is no blank. -/
theorem getLast?_json {v : Value} {s : String} (h : v.json = .ok s) :
    ∃ c, s.toList.getLast? = some c ∧ Text.isBlank c = false := by
  cases v with
  | null =>
    obtain rfl := Except.ok.inj h
    exact ⟨'l', by decide, by decide⟩
  | bool b =>
    obtain rfl := Except.ok.inj h
    cases b <;> exact ⟨'e', by decide, by decide⟩
  | number n =>
    obtain rfl := Except.ok.inj h
    cases n with
    | integer i => exact getLast?_of_isNumeral (Decimal.integerText_ne_nil i) (Decimal.isNumeral_integerText i)
    | real x =>
      unfold Json.number
      dsimp only
      split
      · exact getLast?_of_isNumeral (Decimal.write_ne_nil _ x) (Decimal.isNumeral_write _ x)
      · exact ⟨'l', by decide, by decide⟩
  | string t =>
    obtain rfl := Except.ok.inj h
    refine ⟨'"', ?_, by decide⟩
    rw [Json.toList_string, ← List.cons_append, List.getLast?_concat]
  | sequence items =>
    obtain ⟨text, -, hs⟩ := bind_eq_ok_iff.1 h
    obtain rfl := Except.ok.inj hs
    refine ⟨']', ?_, by decide⟩
    rw [String.toList_append, List.getLast?_append]
    rfl
  | mapping entries =>
    obtain ⟨text, -, hs⟩ := bind_eq_ok_iff.1 h
    obtain rfl := Except.ok.inj hs
    refine ⟨'\x7d', ?_, by decide⟩
    rw [String.toList_append, List.getLast?_append]
    rfl
  | tagged tag value =>
    obtain ⟨text, -, hs⟩ := bind_eq_ok_iff.1 h
    obtain rfl := Except.ok.inj hs
    refine ⟨'\x7d', ?_, by decide⟩
    rw [String.toList_append, List.getLast?_append]
    rfl

end Value

end Yaml

end AnalyzerBench

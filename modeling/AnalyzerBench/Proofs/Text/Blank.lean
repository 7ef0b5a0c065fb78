import AnalyzerBench.Text.Blank
import Mathlib.Data.List.TakeWhile

/-!
# Trimmed texts

A text is trimmed if no blank stands at either end.  Trimming takes away the blanks around such a text and nothing of
the text itself (`trim_surrounded`), and what it leaves is trimmed (`trimmed_trim`).  Blanks put at the end of a text
are not seen after trimming (`trim_append_blank`), and of blanks alone nothing is left (`isAllBlank_iff`).  The words of
a text are the rows of characters that blanks cut out of it (`words_word_append`), so a text has given words exactly if
it is made of them with gaps between them (`words_eq_cons_cons_iff`).
-/

namespace AnalyzerBench.Text.Chars

/-- A text without blanks at its ends. -/
structure Trimmed (cs : List Char) : Prop where
  head : ∀ c ∈ cs.head?, isBlank c = false
  last : ∀ c ∈ cs.getLast?, isBlank c = false

variable {cs before after : List Char}

private theorem dropWhile_eq_self (h : ∀ c ∈ cs.head?, isBlank c = false) : cs.dropWhile isBlank = cs := by
  cases cs with
  | nil => rfl
  | cons c cs => simp [h c rfl]

theorem trimEnd_append_blank (h : ∀ c ∈ after, isBlank c = true) (cs : List Char) :
    trimEnd (cs ++ after) = trimEnd cs := by
  unfold trimEnd
  rw [List.reverse_append, List.dropWhile_append_of_pos (by simpa using h)]

theorem trim_append_blank (h : ∀ c ∈ after, isBlank c = true) (cs : List Char) : trim (cs ++ after) = trim cs := by
  unfold trim
  rw [List.dropWhile_append]
  split
  · next hcs =>
    have hafter : after.dropWhile isBlank = [] := List.dropWhile_eq_nil_iff.2 h
    rw [hafter, List.isEmpty_iff.1 hcs]
  · exact trimEnd_append_blank h _

theorem exists_trimEnd_append (cs : List Char) :
    ∃ after, (∀ c ∈ after, isBlank c = true) ∧ cs = trimEnd cs ++ after := by
  refine ⟨(cs.reverse.takeWhile isBlank).reverse, ?_, ?_⟩
  · intro c hc
    exact List.mem_takeWhile_imp (List.mem_reverse.1 hc)
  · rw [trimEnd, ← List.reverse_append, List.takeWhile_append_dropWhile, List.reverse_reverse]

theorem Trimmed.trim_eq (h : Trimmed cs) : trim cs = cs := by
  have hrev : ∀ c ∈ cs.reverse.head?, isBlank c = false := by simpa using h.last
  rw [trim, dropWhile_eq_self h.head, trimEnd, dropWhile_eq_self hrev, List.reverse_reverse]

/-- Trimming takes away exactly the blanks around a trimmed text. -/
theorem trim_surrounded (h : Trimmed cs) (hbefore : ∀ c ∈ before, isBlank c = true)
    (hafter : ∀ c ∈ after, isBlank c = true) : trim (before ++ cs ++ after) = cs := by
  rw [trim_append_blank hafter, trim, List.dropWhile_append_of_pos hbefore, ← trim, h.trim_eq]

private theorem head_dropWhile (p : Char → Bool) (cs : List Char) : ∀ c ∈ (cs.dropWhile p).head?, p c = false := by
  intro c hc
  have hnot := List.head?_dropWhile_not p cs
  rwa [Option.mem_def.1 hc] at hnot

theorem trimmed_trim (cs : List Char) : Trimmed (trim cs) := by
  unfold trim trimEnd
  constructor
  · intro c hc
    have hprefix : (((cs.dropWhile isBlank).reverse).dropWhile isBlank).reverse <+: cs.dropWhile isBlank := by
      rw [← List.reverse_suffix, List.reverse_reverse]
      exact List.dropWhile_suffix isBlank
    obtain ⟨rest, hrest⟩ := hprefix
    refine head_dropWhile isBlank cs c ?_
    rw [← hrest, List.head?_append, Option.mem_def.1 hc]
    rfl
  · intro c hc
    rw [List.getLast?_reverse] at hc
    exact head_dropWhile isBlank _ c hc

theorem trimmed_iff : Trimmed cs ↔ trim cs = cs := ⟨Trimmed.trim_eq, fun h => h ▸ trimmed_trim cs⟩

instance : DecidablePred Trimmed := fun _ => decidable_of_iff _ trimmed_iff.symm

/-- Only blanks are taken from the ends of a text. -/
theorem exists_trim_surrounded (cs : List Char) :
    ∃ before after, (∀ c ∈ before, isBlank c = true) ∧ (∀ c ∈ after, isBlank c = true) ∧
      cs = before ++ trim cs ++ after := by
  obtain ⟨after, hafter, hcs⟩ := exists_trimEnd_append (cs.dropWhile isBlank)
  refine ⟨cs.takeWhile isBlank, after, fun c hc => List.mem_takeWhile_imp hc, hafter, ?_⟩
  rw [trim, List.append_assoc, ← hcs, List.takeWhile_append_dropWhile]

theorem trim_eq_nil_iff : trim cs = [] ↔ ∀ c ∈ cs, isBlank c = true := by
  constructor
  · intro h
    obtain ⟨before, after, hbefore, hafter, hcs⟩ := exists_trim_surrounded cs
    rw [h, List.append_nil] at hcs
    rw [hcs]
    exact List.forall_mem_append.2 ⟨hbefore, hafter⟩
  · intro h
    exact trim_append_blank h []

theorem Trimmed.eq_nil (h : Trimmed cs) (hblank : ∀ c ∈ cs, isBlank c = true) : cs = [] := by
  rw [← h.trim_eq]
  exact trim_eq_nil_iff.2 hblank

/-! ### Words -/

private theorem pieces_append {p : Char → Bool} {c : Char} (hcs : ∀ x ∈ cs, p x = false) (hc : p c = true)
    (rest : List Char) : pieces p (cs ++ c :: rest) = cs :: pieces p rest := by
  induction cs with
  | nil => simp [pieces, hc]
  | cons x cs ih =>
    have hx : p x = false := hcs x (by simp)
    have hrest := ih fun y hy => hcs y (by simp [hy])
    rw [List.cons_append, pieces, if_neg (by simp [hx]), hrest]
    rfl

private theorem pieces_eq_singleton {p : Char → Bool} (hcs : ∀ x ∈ cs, p x = false) : pieces p cs = [cs] := by
  induction cs with
  | nil => rfl
  | cons x cs ih =>
    have hx : p x = false := hcs x (by simp)
    have hrest := ih fun y hy => hcs y (by simp [hy])
    rw [pieces, if_neg (by simp [hx]), hrest]
    rfl

/-- A row of characters without blanks. -/
structure IsWord (w : List Char) : Prop where
  ne_nil : w ≠ []
  not_blank : ∀ c ∈ w, isBlank c = false

variable {w rest : List Char} {ws : List (List Char)}

theorem words_blank_append {c : Char} (hc : isBlank c = true) (rest : List Char) : words (c :: rest) = words rest := by
  unfold words
  rw [pieces, if_pos hc, List.filter_cons_of_neg (by simp)]

theorem words_blanks_append (h : ∀ c ∈ before, isBlank c = true) (rest : List Char) :
    words (before ++ rest) = words rest := by
  induction before with
  | nil => rfl
  | cons c before ih =>
    obtain ⟨hc, hbefore⟩ := List.forall_mem_cons.1 h
    rw [List.cons_append, words_blank_append hc, ih hbefore]

/-- A word ends at the blank after it, or where the text ends. -/
theorem words_word_append (hw : IsWord w) (hrest : ∀ c ∈ rest.head?, isBlank c = true) :
    words (w ++ rest) = w :: words rest := by
  cases rest with
  | nil =>
    unfold words
    rw [List.append_nil, pieces_eq_singleton hw.not_blank, List.filter_cons_of_pos (by simpa using hw.ne_nil)]
    rfl
  | cons c rest =>
    have hc : isBlank c = true := hrest c rfl
    rw [words_blank_append hc]
    unfold words
    rw [pieces_append hw.not_blank hc, List.filter_cons_of_pos (by simpa using hw.ne_nil)]

/-- A text that is not blank starts with a word behind blanks. -/
theorem blank_or_exists_word (cs : List Char) :
    (∀ c ∈ cs, isBlank c = true) ∨
      ∃ before w rest, cs = before ++ (w ++ rest) ∧ (∀ c ∈ before, isBlank c = true) ∧ IsWord w ∧
        ∀ c ∈ rest.head?, isBlank c = true := by
  have hcs := List.takeWhile_append_dropWhile (p := isBlank) (l := cs)
  have hhead := head_dropWhile isBlank cs
  cases hwords : cs.dropWhile isBlank with
  | nil => exact .inl (List.dropWhile_eq_nil_iff.1 hwords)
  | cons c words =>
    right
    rw [hwords] at hcs hhead
    refine ⟨cs.takeWhile isBlank, (c :: words).takeWhile (!isBlank ·), (c :: words).dropWhile (!isBlank ·), ?_, ?_,
      ⟨?_, ?_⟩, ?_⟩
    · rw [List.takeWhile_append_dropWhile, hcs]
    · intro x hx
      exact List.mem_takeWhile_imp hx
    · simp [hhead c rfl]
    · intro x hx
      simpa using List.mem_takeWhile_imp hx
    · intro x hx
      simpa using head_dropWhile (!isBlank ·) (c :: words) x hx

theorem words_eq_nil_iff : words cs = [] ↔ ∀ c ∈ cs, isBlank c = true := by
  constructor
  · intro h
    rcases blank_or_exists_word cs with hblank | ⟨before, w, rest, rfl, hbefore, hw, hrest⟩
    · exact hblank
    · rw [words_blanks_append hbefore, words_word_append hw hrest] at h
      cases h
  · intro h
    have hwords := words_blanks_append h []
    rwa [List.append_nil] at hwords

theorem words_eq_cons_iff :
    words cs = w :: ws ↔
      ∃ before rest, cs = before ++ (w ++ rest) ∧ (∀ c ∈ before, isBlank c = true) ∧ IsWord w ∧
        (∀ c ∈ rest.head?, isBlank c = true) ∧ words rest = ws := by
  constructor
  · intro h
    rcases blank_or_exists_word cs with hblank | ⟨before, v, rest, rfl, hbefore, hv, hrest⟩
    · rw [words_eq_nil_iff.2 hblank] at h
      cases h
    · rw [words_blanks_append hbefore, words_word_append hv hrest] at h
      obtain ⟨rfl, hws⟩ := List.cons.inj h
      exact ⟨before, rest, rfl, hbefore, hv, hrest, hws⟩
  · rintro ⟨before, rest, rfl, hbefore, hw, hrest, rfl⟩
    rw [words_blanks_append hbefore, words_word_append hw hrest]

/-- Blanks between two words. -/
structure IsGap (gap : List Char) : Prop where
  ne_nil : gap ≠ []
  blank : ∀ c ∈ gap, isBlank c = true

theorem IsGap.append {gap : List Char} (h : IsGap gap) (hafter : ∀ c ∈ after, isBlank c = true) :
    IsGap (gap ++ after) :=
  ⟨by simp [h.ne_nil], List.forall_mem_append.2 ⟨h.blank, hafter⟩⟩

theorem words_eq_singleton_iff :
    words cs = [w] ↔
      ∃ before after, cs = before ++ (w ++ after) ∧ IsWord w ∧ (∀ c ∈ before, isBlank c = true) ∧
        ∀ c ∈ after, isBlank c = true := by
  rw [words_eq_cons_iff]
  constructor
  · rintro ⟨before, after, rfl, hbefore, hw, -, hafter⟩
    exact ⟨before, after, rfl, hw, hbefore, words_eq_nil_iff.1 hafter⟩
  · rintro ⟨before, after, rfl, hw, hbefore, hafter⟩
    exact ⟨before, after, rfl, hbefore, hw, fun c hc => hafter c (List.mem_of_head? hc), words_eq_nil_iff.2 hafter⟩

/-- Between a word and the next one there is a gap. -/
theorem words_eq_cons_cons_iff {v : List Char} :
    words cs = v :: w :: ws ↔
      ∃ before gap rest, cs = before ++ (v ++ (gap ++ rest)) ∧ IsWord v ∧ IsGap gap ∧
        (∀ c ∈ before, isBlank c = true) ∧ words rest = w :: ws := by
  rw [words_eq_cons_iff]
  constructor
  · rintro ⟨before, rest, rfl, hbefore, hv, hhead, hwords⟩
    cases rest with
    | nil => cases hwords
    | cons c rest =>
      have hc : isBlank c = true := hhead c rfl
      rw [words_blank_append hc] at hwords
      exact ⟨before, [c], rest, rfl, hv, ⟨by simp, by simpa using hc⟩, hbefore, hwords⟩
  · rintro ⟨before, gap, rest, rfl, hv, hgap, hbefore, hwords⟩
    refine ⟨before, gap ++ rest, rfl, hbefore, hv, ?_, ?_⟩
    · obtain ⟨c, gap, rfl⟩ := List.exists_cons_of_ne_nil hgap.ne_nil
      simpa using hgap.blank c (by simp)
    · rw [words_blanks_append hgap.blank, hwords]

end AnalyzerBench.Text.Chars

namespace AnalyzerBench.Text

theorem trimEnd_trimEnd (s : String) : trimEnd (trimEnd s) = trimEnd s := by
  obtain ⟨after, hafter, hs⟩ := Chars.exists_trimEnd_append s.toList
  have hsame := Chars.trimEnd_append_blank hafter (Chars.trimEnd s.toList)
  rw [← hs] at hsame
  rw [trimEnd, trimEnd, String.toList_ofList, ← hsame]

theorem trim_trimEnd (s : String) : trim (trimEnd s) = trim s := by
  obtain ⟨after, hafter, hs⟩ := Chars.exists_trimEnd_append s.toList
  have hsame := Chars.trim_append_blank hafter (Chars.trimEnd s.toList)
  rw [← hs] at hsame
  rw [trim, trim, trimEnd, String.toList_ofList, ← hsame]

/-- A text is blank exactly if nothing is left of it when it is trimmed. -/
theorem isAllBlank_iff {s : String} : isAllBlank s = true ↔ trim s = "" := by
  rw [isAllBlank, List.all_eq_true, ← Chars.trim_eq_nil_iff, trim, String.ofList_eq_empty_iff]

theorem isAllBlank_trimEnd (s : String) : isAllBlank (trimEnd s) = isAllBlank s := by
  rw [Bool.eq_iff_iff, isAllBlank_iff, isAllBlank_iff, trim_trimEnd]

end AnalyzerBench.Text

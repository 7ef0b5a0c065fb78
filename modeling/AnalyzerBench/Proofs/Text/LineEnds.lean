import AnalyzerBench.Proofs.Text.Blank
import AnalyzerBench.Proofs.Text.Lines
import Mathlib.Data.List.Basic

/-!
# Line ends

In a text with CRLF line ends, every line feed stands behind a carriage return (`AllCrlf`).  Texts can be put together
without making or breaking a line end unless one ends in a carriage return and the next starts with a line feed
(`allCrlf_append`), so the line ends of a text can be looked at line by line (`allCrlf_iff_forall_lines`).

A text gets other line ends line by line (`lines_toCrlf`), and without the blanks at their ends its lines stay the same
(`trimEnd_toCrlf`).
-/

namespace AnalyzerBench.Text

namespace Chars

/-- Every line feed stands behind a carriage return. -/
def AllCrlf (cs : List Char) : Prop := ∀ before after, cs = before ++ '\n' :: after → before.getLast? = some '\r'

variable {cs ds : List Char} {l : List Char} {ls : List (List Char)}

theorem allCrlf_iff_forall_index :
    AllCrlf cs ↔ ∀ i : Fin cs.length, cs[i] = '\n' → (cs.take i).getLast? = some '\r' := by
  constructor
  · intro h i hi
    apply h (cs.take i) (cs.drop (i + 1))
    rw [← hi, Fin.getElem_fin, ← List.drop_eq_getElem_cons i.isLt, List.take_append_drop]
  · rintro h before after rfl
    have hlt : before.length < (before ++ '\n' :: after).length := by simp
    simpa using h ⟨before.length, hlt⟩

instance : DecidablePred AllCrlf := fun _ => decidable_of_iff _ allCrlf_iff_forall_index.symm

theorem allCrlf_of_not_mem (h : '\n' ∉ cs) : AllCrlf cs := by
  rintro before after rfl
  simp at h

/-- No line end is put together from the end of one text and the start of the next. -/
theorem allCrlf_append (h : cs.getLast? ≠ some '\r' ∨ ds.head? ≠ some '\n') :
    AllCrlf (cs ++ ds) ↔ AllCrlf cs ∧ AllCrlf ds := by
  constructor
  · intro hall
    constructor
    · rintro before after rfl
      exact hall before (after ++ ds) (by simp)
    · rintro before after rfl
      have hlast := hall (cs ++ before) after (by simp)
      by_cases hbefore : before = []
      · rw [hbefore, List.append_nil] at hlast
        rcases h with h | h
        · exact absurd hlast h
        · exact absurd (by simp [hbefore]) h
      · rwa [List.getLast?_append_of_ne_nil _ hbefore] at hlast
  · rintro ⟨hcs, hds⟩ before after e
    rcases List.append_eq_append_iff.1 e with ⟨u, rfl, hu⟩ | ⟨u, rfl, hu⟩
    · have hlast := hds u after hu
      rw [List.getLast?_append, hlast]
      rfl
    · cases u with
      | nil =>
        have hlast := hds [] after (by simpa using hu.symm)
        cases hlast
      | cons c u =>
        obtain ⟨rfl, -⟩ := List.cons.inj hu
        exact hcs before u rfl

theorem allCrlf_flatten (h : ∀ l ∈ ls, l.getLast? = some '\n') : AllCrlf ls.flatten ↔ ∀ l ∈ ls, AllCrlf l := by
  induction ls with
  | nil => simp [allCrlf_of_not_mem]
  | cons l ls ih =>
    obtain ⟨hl, hls⟩ := List.forall_mem_cons.1 h
    rw [List.flatten_cons, allCrlf_append (by simp [hl]), ih hls, List.forall_mem_cons]

theorem AreLines.allCrlf_flatten (h : AreLines ls) : AllCrlf ls.flatten ↔ ∀ l ∈ ls, AllCrlf l := by
  induction h with
  | nil => simp [allCrlf_of_not_mem]
  | last => simp
  | cons hl _ ih =>
    obtain ⟨body, -, rfl⟩ := hl
    rw [List.flatten_cons, allCrlf_append (by simp), ih, List.forall_mem_cons]

end Chars

/-- Every line feed stands behind a carriage return. -/
def AllCrlf (s : String) : Prop := Chars.AllCrlf s.toList

instance : DecidablePred AllCrlf := fun s => inferInstanceAs (Decidable (Chars.AllCrlf s.toList))

variable {s l : String} {ls : List String}

theorem allCrlf_append (h : s = "" ∨ s.toList.getLast? = some '\n') (t : String) :
    AllCrlf (s ++ t) ↔ AllCrlf s ∧ AllCrlf t := by
  unfold AllCrlf
  rw [String.toList_append]
  apply Chars.allCrlf_append
  rcases h with rfl | hlast
  · exact .inl (by simp)
  · exact .inl (by simp [hlast])

theorem allCrlf_join (h : ∀ l ∈ ls, l.toList.getLast? = some '\n') :
    AllCrlf (String.join ls) ↔ ∀ l ∈ ls, AllCrlf l := by
  unfold AllCrlf
  rw [toList_join, Chars.allCrlf_flatten (by simpa using h)]
  simp

theorem AreLines.allCrlf_join (h : AreLines ls) : AllCrlf (String.join ls) ↔ ∀ l ∈ ls, AllCrlf l := by
  unfold AllCrlf
  rw [toList_join, Chars.AreLines.allCrlf_flatten h]
  simp

theorem allCrlf_iff_forall_lines (s : String) : AllCrlf s ↔ ∀ l ∈ lines s, AllCrlf l := by
  rw [← (areLines_lines s).allCrlf_join, join_lines]

theorem LineEnd.ofLine_eq_crlf_iff : LineEnd.ofLine l = .crlf ↔ ['\r', '\n'] <:+ l.toList := by
  have htext := LineEnd.text_ofLine l
  constructor
  · intro h
    by_contra hsuffix
    rw [h, if_neg hsuffix] at htext
    exact absurd htext (by decide)
  · intro hsuffix
    rw [if_pos hsuffix] at htext
    cases h : LineEnd.ofLine l with
    | crlf => rfl
    | lf =>
      rw [h] at htext
      exact absurd htext (by decide)

/-- A line whose line feeds stand behind carriage returns ends in CRLF unless it lacks its line end. -/
theorem AllCrlf.ofLine_eq_crlf_iff (h : AllCrlf l) : LineEnd.ofLine l = .crlf ↔ isTerminated l = true := by
  rw [isTerminated_iff, LineEnd.ofLine_eq_crlf_iff]
  constructor
  · rintro ⟨body, hbody⟩
    simp [← hbody]
  · intro hlast
    obtain ⟨body, hbody⟩ := List.getLast?_eq_some_iff.1 hlast
    have hreturn := h body [] hbody
    obtain ⟨start, rfl⟩ := List.getLast?_eq_some_iff.1 hreturn
    exact ⟨start, by simp [hbody]⟩

/-! ### Changing line ends -/

namespace Chars

/-- The characters with a carriage return put before every line feed. -/
def toCrlf (cs : List Char) : List Char := cs.flatMap fun c => if c = '\n' then ['\r', '\n'] else [c]

variable {cs : List Char} {ls : List (List Char)}

theorem toCrlf_of_not_mem (h : '\n' ∉ cs) : toCrlf cs = cs := by
  induction cs with
  | nil => rfl
  | cons c cs ih =>
    simp only [List.mem_cons, not_or] at h
    rw [toCrlf, List.flatMap_cons, if_neg (Ne.symm h.1), ← toCrlf, ih h.2, List.singleton_append]

theorem toCrlf_line {body : List Char} (h : '\n' ∉ body) : toCrlf (body ++ ['\n']) = body ++ ['\r', '\n'] := by
  have hbody := toCrlf_of_not_mem h
  unfold toCrlf at hbody ⊢
  rw [List.flatMap_append, hbody]
  rfl

theorem toCrlf_flatten (ls : List (List Char)) : toCrlf ls.flatten = (ls.map toCrlf).flatten := by
  rw [toCrlf, ← List.flatMap_id, List.flatMap_assoc, List.flatMap_def]
  rfl

theorem AreLines.map_toCrlf (h : AreLines ls) : AreLines (ls.map toCrlf) := by
  induction h with
  | nil => exact .nil
  | last hne hl =>
    rw [List.map_singleton, toCrlf_of_not_mem hl]
    exact .last hne hl
  | cons hl _ ih =>
    obtain ⟨body, hbody, rfl⟩ := hl
    rw [List.map_cons, toCrlf_line hbody]
    exact .cons ⟨body ++ ['\r'], by simp [hbody], by simp⟩ ih

theorem lines_toCrlf (cs : List Char) : lines (toCrlf cs) = (lines cs).map toCrlf := by
  have hlines := (areLines_lines cs).map_toCrlf.lines_flatten
  rwa [← toCrlf_flatten, flatten_lines] at hlines

end Chars

/-- The text with a carriage return put before every line feed. -/
def toCrlf (s : String) : String := String.ofList (Chars.toCrlf s.toList)

theorem lines_toCrlf (s : String) : lines (toCrlf s) = (lines s).map toCrlf := by
  rw [lines, lines, toCrlf, String.toList_ofList, Chars.lines_toCrlf, List.map_map, List.map_map]
  congr 1
  funext l
  simp [toCrlf]

theorem isTerminated_toCrlf (h : IsLine l ∨ '\n' ∉ l.toList) : isTerminated (toCrlf l) = isTerminated l := by
  rcases h with ⟨body, hbody, hl⟩ | hno
  · simp [isTerminated, toCrlf, hl, Chars.toCrlf_line hbody]
  · simp [isTerminated, toCrlf, Chars.toCrlf_of_not_mem hno]

theorem trimEnd_toCrlf (h : IsLine l ∨ '\n' ∉ l.toList) : trimEnd (toCrlf l) = trimEnd l := by
  rcases h with ⟨body, hbody, hl⟩ | hno
  · have hlf : ∀ c ∈ ['\n'], isBlank c = true := List.all_eq_true.1 (by decide)
    have hcrlf : ∀ c ∈ ['\r', '\n'], isBlank c = true := List.all_eq_true.1 (by decide)
    rw [trimEnd, trimEnd, toCrlf, String.toList_ofList, hl, Chars.toCrlf_line hbody, Chars.trimEnd_append_blank hlf,
      Chars.trimEnd_append_blank hcrlf]
  · rw [toCrlf, Chars.toCrlf_of_not_mem hno, String.ofList_toList]

theorem trimEnd_append_lf (s : String) : trimEnd (s ++ "\n") = trimEnd s := by
  have hlf : ∀ c ∈ "\n".toList, isBlank c = true := List.all_eq_true.1 (by decide)
  rw [trimEnd, trimEnd, String.toList_append, Chars.trimEnd_append_blank hlf]

/-- A line feed after a text ends its last line, or makes an empty one if there is no line to end. -/
theorem lines_append_lf (s : String) :
    lines (s ++ "\n") = lines s ++ ["\n"] ∨
      ∃ before last, lines s = before ++ [last] ∧ lines (s ++ "\n") = before ++ [last ++ "\n"] := by
  by_cases hend : s = "" ∨ s.toList.getLast? = some '\n'
  · exact .inl (lines_append hend "\n")
  · right
    have hjoin := join_lines s
    have hlines := areLines_lines s
    rcases List.eq_nil_or_concat' (lines s) with hnil | ⟨before, last, hsplit⟩
    · rw [hnil, String.join_nil] at hjoin
      exact absurd (.inl hjoin.symm) hend
    · rw [hsplit] at hjoin hlines
      have hopen : '\n' ∉ last.toList := by
        rcases hlines.isLine_or (l := last) (by simp) with hline | hno
        · refine absurd (.inr ?_) hend
          rw [← hjoin, toList_join]
          simp [List.getLast?_append, hline.getLast?]
        · exact hno
      have hline : ∀ x ∈ [last ++ "\n"], IsLine x := List.forall_mem_singleton.2 (isLine_append_lf hopen)
      have hended := lines_join (AreLines.append hlines.isLine_of_append (areLines_of_isLine hline))
      refine ⟨before, last, hsplit, ?_⟩
      rw [← hended, ← hjoin]
      simp [String.append_assoc]

end AnalyzerBench.Text

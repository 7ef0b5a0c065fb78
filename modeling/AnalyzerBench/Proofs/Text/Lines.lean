import AnalyzerBench.Text.Lines

/-!
# The lines of a text

A list of strings is the list of the lines of a text exactly if each of them but the last is a complete line and the
last is one too or else a nonempty text without a line feed (`AreLines`, `areLines_iff`).  Splitting and joining are
inverse to each other on such lists (`join_lines`, `lines_join`), so a text that ends in a line feed can be split on its
own (`lines_append`), and no other text can (`lines_append_iff`).
-/

namespace AnalyzerBench.Text

namespace Chars

/-- A line with its line feed. -/
def IsLine (l : List Char) : Prop := ∃ body, '\n' ∉ body ∧ l = body ++ ['\n']

/-- Lines of one text: only the last one may lack its line feed. -/
inductive AreLines : List (List Char) → Prop
  | nil : AreLines []
  | last {l : List Char} : l ≠ [] → '\n' ∉ l → AreLines [l]
  | cons {l : List Char} {ls : List (List Char)} : IsLine l → AreLines ls → AreLines (l :: ls)

variable {l : List Char} {ls ms : List (List Char)}

private theorem lines_cons_of_ne {c : Char} (hc : c ≠ '\n') (cs : List Char) :
    lines (c :: cs) = match lines cs with
      | [] => [[c]]
      | l :: ls => (c :: l) :: ls := by
  rw [lines]
  exact if_neg hc

theorem lines_append_line {body : List Char} (h : '\n' ∉ body) (rest : List Char) :
    lines (body ++ '\n' :: rest) = (body ++ ['\n']) :: lines rest := by
  induction body with
  | nil => simp [lines]
  | cons c body ih =>
    simp only [List.mem_cons, not_or] at h
    simp [lines, Ne.symm h.1, ih h.2]

theorem lines_of_open {cs : List Char} (hne : cs ≠ []) (h : '\n' ∉ cs) : lines cs = [cs] := by
  induction cs with
  | nil => exact absurd rfl hne
  | cons c cs ih =>
    simp only [List.mem_cons, not_or] at h
    rw [lines_cons_of_ne (Ne.symm h.1)]
    by_cases hcs : cs = []
    · simp [hcs, lines]
    · rw [ih hcs h.2]

theorem flatten_lines (cs : List Char) : (lines cs).flatten = cs := by
  induction cs with
  | nil => rfl
  | cons c cs ih =>
    unfold lines
    split
    · simp [ih]
    · split
      · next h => rw [h] at ih; simp [← ih]
      · next h => rw [h] at ih; simp [← ih]

theorem areLines_lines (cs : List Char) : AreLines (lines cs) := by
  induction cs with
  | nil => exact .nil
  | cons c cs ih =>
    unfold lines
    split
    · next hc => exact .cons ⟨[], by simp, by simp [hc]⟩ ih
    · next hc =>
      split
      · exact .last (by simp) (by simpa using Ne.symm hc)
      · next l ls h =>
        rw [h] at ih
        cases ih with
        | last _ hl => exact .last (by simp) (by simp [Ne.symm hc, hl])
        | cons hl hls =>
          obtain ⟨body, hbody, rfl⟩ := hl
          exact .cons ⟨c :: body, by simp [Ne.symm hc, hbody], rfl⟩ hls

theorem AreLines.lines_flatten (h : AreLines ls) : lines ls.flatten = ls := by
  induction h with
  | nil => rfl
  | last hne hl => simpa using lines_of_open hne hl
  | cons hl _ ih =>
    obtain ⟨body, hbody, rfl⟩ := hl
    simp only [List.flatten_cons, List.append_assoc, List.singleton_append]
    rw [lines_append_line hbody, ih]

theorem AreLines.filter (p : List Char → Bool) (h : AreLines ls) : AreLines (ls.filter p) := by
  induction h with
  | nil => exact .nil
  | @last l hne hl =>
    by_cases hp : p l
    · simpa [hp] using .last hne hl
    · simpa [hp] using .nil
  | @cons l ls hl _ ih =>
    by_cases hp : p l
    · simpa [hp] using .cons hl ih
    · simpa [hp] using ih

theorem AreLines.append (hls : ∀ l ∈ ls, IsLine l) (hms : AreLines ms) : AreLines (ls ++ ms) := by
  induction ls with
  | nil => exact hms
  | cons l ls ih => exact .cons (hls l (by simp)) (ih fun x hx => hls x (by simp [hx]))

/-- A line feed can only stand at the end of a line. -/
theorem AreLines.not_mem_dropLast (h : AreLines ls) (hl : l ∈ ls) : '\n' ∉ l.dropLast := by
  induction h with
  | nil => simp at hl
  | @last k _ hk =>
    obtain rfl := List.mem_singleton.1 hl
    exact fun hmem => hk (List.dropLast_subset _ hmem)
  | @cons k ls hk _ ih =>
    rcases List.mem_cons.1 hl with rfl | hl
    · obtain ⟨body, hbody, rfl⟩ := hk
      simpa using hbody
    · exact ih hl

/-- A line of a text ends in a line feed or holds none. -/
theorem AreLines.isLine_or (h : AreLines ls) (hl : l ∈ ls) : IsLine l ∨ '\n' ∉ l := by
  induction h with
  | nil => cases hl
  | last _ hno =>
    obtain rfl := List.mem_singleton.1 hl
    exact .inr hno
  | cons hline _ ih =>
    rcases List.mem_cons.1 hl with rfl | hl
    · exact .inl hline
    · exact ih hl

theorem AreLines.ne_nil (h : AreLines ls) (hl : l ∈ ls) : l ≠ [] := by
  induction h with
  | nil => cases hl
  | last hne _ =>
    obtain rfl := List.mem_singleton.1 hl
    exact hne
  | cons hline _ ih =>
    rcases List.mem_cons.1 hl with rfl | hl
    · obtain ⟨body, -, rfl⟩ := hline
      simp
    · exact ih hl

theorem isLine_iff : IsLine l ↔ l.getLast? = some '\n' ∧ '\n' ∉ l.dropLast := by
  constructor
  · rintro ⟨body, hbody, rfl⟩
    rw [List.getLast?_concat, List.dropLast_concat]
    exact ⟨rfl, hbody⟩
  · rintro ⟨hlast, hbody⟩
    obtain ⟨body, rfl⟩ := List.getLast?_eq_some_iff.1 hlast
    rw [List.dropLast_concat] at hbody
    exact ⟨body, hbody, rfl⟩

private theorem not_mem_of_open (hbody : '\n' ∉ l.dropLast) (hlast : l.getLast? ≠ some '\n') : '\n' ∉ l := by
  intro hmem
  obtain ⟨u, v, rfl⟩ := List.append_of_mem hmem
  by_cases hv : v = []
  · rw [hv, List.getLast?_concat] at hlast
    exact hlast rfl
  · rw [List.dropLast_append_of_ne_nil (by simp), List.dropLast_cons_of_ne_nil hv] at hbody
    exact hbody (by simp)

theorem count_flatten (h : ∀ l ∈ ls, IsLine l) : ls.flatten.count '\n' = ls.length := by
  induction ls with
  | nil => rfl
  | cons l ls ih =>
    obtain ⟨⟨body, hbody, rfl⟩, hls⟩ := List.forall_mem_cons.1 h
    rw [List.flatten_cons, List.count_append, ih hls, List.count_append, List.count_eq_zero_of_not_mem hbody,
      List.count_singleton_self, List.length_cons]
    omega

/-- The lines before another one are complete. -/
theorem AreLines.isLine_of_append (h : AreLines (ls ++ l :: ms)) : ∀ x ∈ ls, IsLine x := by
  induction ls with
  | nil => simp
  | cons x ls ih =>
    intro y hy
    cases hs : ls ++ l :: ms with
    | nil => simp at hs
    | cons z zs =>
      rw [List.cons_append, hs] at h
      cases h with
      | cons hx hzs =>
        rcases List.mem_cons.1 hy with rfl | hy
        · exact hx
        · exact ih (hs ▸ hzs) y hy

/-- Lines of one text are not empty, hold no line feed but at their ends, and end in one if another line follows. -/
theorem areLines_iff :
    AreLines ls ↔ (∀ l ∈ ls, l ≠ [] ∧ '\n' ∉ l.dropLast) ∧ ∀ l ∈ ls.dropLast, l.getLast? = some '\n' := by
  constructor
  · intro h
    refine ⟨fun l hl => ⟨h.ne_nil hl, h.not_mem_dropLast hl⟩, ?_⟩
    intro l hl
    have hne : ls ≠ [] := by
      rintro rfl
      simp at hl
    rw [← List.dropLast_concat_getLast hne] at h
    exact (isLine_iff.1 (h.isLine_of_append l hl)).1
  · rintro ⟨hall, hends⟩
    induction ls with
    | nil => exact .nil
    | cons l ls ih =>
      obtain ⟨⟨hne, hbody⟩, hrest⟩ := List.forall_mem_cons.1 hall
      by_cases hls : ls = []
      · subst hls
        by_cases hlast : l.getLast? = some '\n'
        · exact .cons (isLine_iff.2 ⟨hlast, hbody⟩) .nil
        · exact .last hne (not_mem_of_open hbody hlast)
      · rw [List.dropLast_cons_of_ne_nil hls] at hends
        obtain ⟨hlast, hends⟩ := List.forall_mem_cons.1 hends
        exact .cons (isLine_iff.2 ⟨hlast, hbody⟩) (ih hrest hends)

theorem AreLines.of_append (h : AreLines (ls ++ ms)) : AreLines ms := by
  induction ls with
  | nil => exact h
  | cons x ls ih =>
    rw [List.cons_append] at h
    generalize hs : ls ++ ms = zs at h
    cases h with
    | last =>
      obtain ⟨-, rfl⟩ := List.append_eq_nil_iff.1 hs
      exact .nil
    | cons _ hzs => exact ih (hs ▸ hzs)

/-- Nothing follows a line that lacks its line feed. -/
theorem AreLines.eq_nil_of_open (h : AreLines (ls ++ l :: ms)) (hl : ¬ IsLine l) : ms = [] := by
  have hend : AreLines (l :: ms) := h.of_append
  cases hend with
  | last => rfl
  | cons hline => exact absurd hline hl

/-- A text that ends in a line feed is split apart from what follows it. -/
theorem lines_append {cs : List Char} (h : cs = [] ∨ cs.getLast? = some '\n') (ds : List Char) :
    lines (cs ++ ds) = lines cs ++ lines ds := by
  induction cs with
  | nil => rfl
  | cons c cs ih =>
    by_cases hcs : cs = []
    · subst hcs
      obtain rfl : c = '\n' := by simpa using h
      simp [lines]
    · have hlast : cs.getLast? = some '\n' := by
        obtain ⟨d, cs, rfl⟩ := List.exists_cons_of_ne_nil hcs
        simpa using h
      have hsplit := ih (.inr hlast)
      by_cases hc : c = '\n'
      · subst hc
        simp only [List.cons_append, lines, if_true, hsplit]
      · rw [List.cons_append, lines_cons_of_ne hc, lines_cons_of_ne hc, hsplit]
        cases hl : lines cs with
        | nil => exact absurd (by rw [← flatten_lines cs, hl]; rfl) hcs
        | cons l ls => rfl

end Chars

/-- Lines of one text: only the last one may lack its line feed. -/
def AreLines (ls : List String) : Prop := Chars.AreLines (ls.map String.toList)

/-- A line with its line feed. -/
def IsLine (l : String) : Prop := Chars.IsLine l.toList

variable {l : String} {ls ms : List String}

theorem toList_join (ls : List String) : (String.join ls).toList = (ls.map String.toList).flatten := by
  rw [String.toList_join, List.flatMap_def]

theorem map_toList_lines (s : String) : (lines s).map String.toList = Chars.lines s.toList := by
  simp [lines, Function.comp_def]

theorem join_lines (s : String) : String.join (lines s) = s := by
  rw [← String.toList_inj, toList_join, map_toList_lines, Chars.flatten_lines]

theorem areLines_lines (s : String) : AreLines (lines s) := by
  unfold AreLines
  rw [map_toList_lines]
  exact Chars.areLines_lines s.toList

theorem lines_join (h : AreLines ls) : lines (String.join ls) = ls := by
  rw [lines, toList_join, h.lines_flatten]
  simp [Function.comp_def]

theorem AreLines.filter (p : String → Bool) (h : AreLines ls) : AreLines (ls.filter p) := by
  have hp : (ls.filter p).map String.toList = (ls.map String.toList).filter (p ∘ String.ofList) := by
    rw [List.filter_map]
    simp [Function.comp_def]
  unfold AreLines
  rw [hp]
  exact Chars.AreLines.filter _ h

theorem AreLines.append (hls : ∀ l ∈ ls, IsLine l) (hms : AreLines ms) : AreLines (ls ++ ms) := by
  unfold AreLines
  rw [List.map_append]
  exact Chars.AreLines.append (by simpa [IsLine] using hls) hms

theorem areLines_of_isLine (h : ∀ l ∈ ls, IsLine l) : AreLines ls := by
  have hnil : AreLines ls = AreLines (ls ++ []) := by rw [List.append_nil]
  rw [hnil]
  exact AreLines.append h .nil

theorem AreLines.of_append (h : AreLines (ls ++ ms)) : AreLines ms := by
  unfold AreLines at h
  rw [List.map_append] at h
  exact Chars.AreLines.of_append h

theorem AreLines.not_mem_dropLast (h : AreLines ls) (hl : l ∈ ls) : '\n' ∉ l.toList.dropLast :=
  Chars.AreLines.not_mem_dropLast h (List.mem_map_of_mem hl)

theorem AreLines.isLine_or (h : AreLines ls) (hl : l ∈ ls) : IsLine l ∨ '\n' ∉ l.toList :=
  Chars.AreLines.isLine_or h (List.mem_map_of_mem hl)

theorem AreLines.isLine_of_append (h : AreLines (ls ++ l :: ms)) : ∀ x ∈ ls, IsLine x := by
  unfold AreLines at h
  rw [List.map_append, List.map_cons] at h
  simpa [IsLine] using Chars.AreLines.isLine_of_append h

theorem isLine_append_lineEnd {s : String} (h : '\n' ∉ s.toList) (e : LineEnd) : IsLine (s ++ e.text) := by
  cases e with
  | lf => exact ⟨s.toList, h, by simp [LineEnd.text]⟩
  | crlf => exact ⟨s.toList ++ ['\r'], by simp [h], by simp [LineEnd.text]⟩

theorem isLine_append_lf {s : String} (h : '\n' ∉ s.toList) : IsLine (s ++ "\n") := isLine_append_lineEnd h .lf

/-- Texts without line feeds are put together to as many lines. -/
theorem lines_join_lf (h : ∀ s ∈ ls, '\n' ∉ s.toList) :
    lines (String.join (ls.map (· ++ "\n"))) = ls.map (· ++ "\n") := by
  refine lines_join (areLines_of_isLine fun l hl => ?_)
  obtain ⟨s, hs, rfl⟩ := List.mem_map.1 hl
  exact isLine_append_lf (h s hs)

theorem lines_append {s : String} (h : s = "" ∨ s.toList.getLast? = some '\n') (t : String) :
    lines (s ++ t) = lines s ++ lines t := by
  rw [lines, String.toList_append, Chars.lines_append, List.map_append]
  · rfl
  · exact h.imp_left fun h => by simp [h]

/-- The line end of a line is read off its last two characters. -/
theorem LineEnd.text_ofLine (line : String) :
    (ofLine line).text = if ['\r', '\n'] <:+ line.toList then "\r\n" else "\n" := by
  unfold ofLine
  split
  · next rest h =>
    have hsuffix : ['\r', '\n'] <:+ line.toList := ⟨rest.reverse, by simpa using (congrArg List.reverse h).symm⟩
    rw [if_pos hsuffix, text]
  · next h =>
    have hsuffix : ¬ ['\r', '\n'] <:+ line.toList := by
      rintro ⟨body, e⟩
      exact h body.reverse (by simp [← e])
    rw [if_neg hsuffix, text]

theorem isTerminated_iff : isTerminated l = true ↔ l.toList.getLast? = some '\n' := by
  simp [isTerminated]

theorem IsLine.isTerminated (h : IsLine l) : isTerminated l = true := by
  obtain ⟨body, -, e⟩ := h
  simp [isTerminated_iff, e]

theorem IsLine.getLast? (h : IsLine l) : l.toList.getLast? = some '\n' := isTerminated_iff.1 h.isTerminated

theorem AreLines.eq_nil_of_open (h : AreLines (ls ++ l :: ms)) (hl : isTerminated l = false) : ms = [] := by
  have hline : ¬ IsLine l := by
    intro hline
    rw [hline.isTerminated] at hl
    cases hl
  unfold AreLines at h
  rw [List.map_append, List.map_cons] at h
  exact List.map_eq_nil_iff.1 (Chars.AreLines.eq_nil_of_open h hline)

/-- A text with an incomplete line ends in that line, and has as many line feeds as lines before it. -/
theorem count_of_open {s : String} (h : lines s = ls ++ l :: ms) (hl : isTerminated l = false) :
    (s ≠ "" ∧ s.toList.getLast? ≠ some '\n') ∧ s.toList.count '\n' = ls.length := by
  have hlines : AreLines (ls ++ l :: ms) := h ▸ areLines_lines s
  obtain rfl : ms = [] := hlines.eq_nil_of_open hl
  -- The text is its complete lines, with one line feed each, and then a row of characters with none.
  have hmem : l ∈ ls ++ [l] := by simp
  have hno : '\n' ∉ l.toList := by
    rcases hlines.isLine_or hmem with hline | hno
    · rw [hline.isTerminated] at hl
      cases hl
    · exact hno
  have hne : l.toList ≠ [] := Chars.AreLines.ne_nil hlines (List.mem_map_of_mem hmem)
  have hs : s.toList = (ls.map String.toList).flatten ++ l.toList := by
    rw [← join_lines s, h, toList_join]
    simp
  have hcount : (ls.map String.toList).flatten.count '\n' = ls.length := by
    rw [Chars.count_flatten (by simpa [IsLine] using hlines.isLine_of_append), List.length_map]
  refine ⟨⟨?_, ?_⟩, ?_⟩
  · rintro rfl
    exact hne (List.append_eq_nil_iff.1 hs.symm).2
  · intro hlast
    cases hend : l.toList.getLast? with
    | none => exact hne (List.getLast?_eq_none_iff.1 hend)
    | some c =>
      rw [hs, List.getLast?_append, hend] at hlast
      obtain rfl : c = '\n' := Option.some.inj hlast
      exact hno (List.mem_of_getLast? hend)
  · rw [hs, List.count_append, hcount, List.count_eq_zero_of_not_mem hno, Nat.add_zero]

/-- Complete lines, put together, end in a line feed. -/
theorem join_ends (hls : ∀ l ∈ ls, l.toList.getLast? = some '\n') :
    String.join ls = "" ∨ (String.join ls).toList.getLast? = some '\n' := by
  rcases List.eq_nil_or_concat ls with rfl | ⟨init, l, rfl⟩
  · exact .inl String.join_nil
  · refine .inr ?_
    have hl := hls l (by simp)
    simp [List.getLast?_append, hl]

/-! ### The only way to split -/

theorem areLines_iff :
    AreLines ls ↔
      (∀ l ∈ ls, l ≠ "" ∧ '\n' ∉ l.toList.dropLast) ∧ ∀ l ∈ ls.dropLast, l.toList.getLast? = some '\n' := by
  unfold AreLines
  rw [Chars.areLines_iff, ← List.map_dropLast, List.forall_mem_map, List.forall_mem_map]
  simp only [ne_eq, String.toList_eq_nil_iff]

theorem lines_eq_iff {s : String} : lines s = ls ↔ String.join ls = s ∧ AreLines ls := by
  constructor
  · rintro rfl
    exact ⟨join_lines s, areLines_lines s⟩
  · rintro ⟨rfl, h⟩
    exact lines_join h

/-- The seam of two nonempty texts is the end of a line exactly if the first text ends in a line feed. -/
theorem lines_append_iff {s t : String} :
    lines (s ++ t) = lines s ++ lines t ↔ s = "" ∨ t = "" ∨ s.toList.getLast? = some '\n' := by
  constructor
  · intro h
    cases ht : lines t with
    | nil =>
      refine .inr (.inl ?_)
      rw [← join_lines t, ht, String.join_nil]
    | cons l ls =>
      have hsplit : AreLines (lines s ++ l :: ls) := by
        rw [← ht, ← h]
        exact areLines_lines (s ++ t)
      have hends := join_ends fun x hx => (hsplit.isLine_of_append x hx).getLast?
      rw [join_lines] at hends
      exact hends.imp_right .inr
  · rintro (rfl | rfl | hs)
    · exact lines_append (.inl rfl) t
    · rw [String.append_empty]
      exact (List.append_nil _).symm
    · exact lines_append (.inr hs) t

/-- The lines of a text are the only list of nonempty pieces that make it up in which a line feed stands at the end of
every piece before the last one, may stand at the end of the last one, and stands nowhere else.  Two texts, one put
behind the other, are split apart exactly if the first one ends in a line feed or one of them is empty. -/
theorem lines_canonical :
    (∀ (s : String) (ls : List String), lines s = ls ↔
      String.join ls = s ∧ (∀ l ∈ ls, l ≠ "" ∧ '\n' ∉ l.toList.dropLast) ∧
        ∀ l ∈ ls.dropLast, l.toList.getLast? = some '\n') ∧
    ∀ s t : String, lines (s ++ t) = lines s ++ lines t ↔ s = "" ∨ t = "" ∨ s.toList.getLast? = some '\n' := by
  refine ⟨?_, ?_⟩
  · intro s ls
    rw [lines_eq_iff, areLines_iff]
  · intro s t
    exact lines_append_iff

/-- An empty line, a line of a carriage return alone and a last line without its line feed. -/
theorem lines_canonical_empty_line :
    lines "\n\r\na" = ["\n", "\r\n", "a"] ∧ lines ("a\n" ++ "b") = lines "a\n" ++ lines "b" ∧
      lines ("a" ++ "b") ≠ lines "a" ++ lines "b" := by
  obtain ⟨hlines, happend⟩ := lines_canonical
  refine ⟨(hlines _ _).2 ⟨by decide, by decide, by decide⟩, (happend _ _).2 (by decide), ?_⟩
  intro h
  exact absurd ((happend _ _).1 h) (by decide)

end AnalyzerBench.Text

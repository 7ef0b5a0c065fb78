import AnalyzerBench.Extraction
import AnalyzerBench.Proofs.Log
import AnalyzerBench.Proofs.Marker

/-!
# What extraction gives

Extraction gives the payloads of all directives if every line is complete (`result_extractFrom`), and otherwise it fails
at the first line that is not (`result_extractFrom_open`).  So lines can be extracted part by part
(`result_extract_append`), and of a text only the last line can be incomplete (`result_extractText_eq_error_iff`).
-/

namespace AnalyzerBench

variable {m : Marker} {lines : List String}

theorem exists_open_line (lines : List String) :
    (∀ l ∈ lines, Text.isTerminated l = true) ∨
      ∃ before l rest, lines = before ++ l :: rest ∧ (∀ x ∈ before, Text.isTerminated x = true) ∧
        Text.isTerminated l = false := by
  induction lines with
  | nil => exact .inl (by simp)
  | cons x lines ih =>
    cases hx : Text.isTerminated x with
    | false => exact .inr ⟨[], x, lines, rfl, by simp, hx⟩
    | true =>
      rcases ih with hall | ⟨before, l, rest, rfl, hbefore, hl⟩
      · exact .inl (List.forall_mem_cons.2 ⟨hx, hall⟩)
      · exact .inr ⟨x :: before, l, rest, rfl, List.forall_mem_cons.2 ⟨hx, hbefore⟩, hl⟩

/-- An extraction sees of a line whether it is complete, and the directive on it. -/
theorem extractFrom_map {f : String → String}
    (h : ∀ l ∈ lines, Text.isTerminated (f l) = Text.isTerminated l ∧ m.find? (f l) = m.find? l) (number : Nat) :
    extractFrom m number (lines.map f) = extractFrom m number lines := by
  induction lines generalizing number with
  | nil => rfl
  | cons l lines ih =>
    obtain ⟨⟨hend, hfind⟩, hrest⟩ := List.forall_mem_cons.1 h
    simp only [List.map_cons, extractFrom, hend, hfind, ih hrest]

theorem result_extractFrom (h : ∀ l ∈ lines, Text.isTerminated l = true) (number : Nat) :
    (extractFrom m number lines).result = .ok (m.payloads lines) := by
  induction lines generalizing number with
  | nil => rfl
  | cons l lines ih =>
    have hrest := ih (fun x hx => h x (by simp [hx])) (number + 1)
    unfold extractFrom
    rw [if_pos (h l (by simp))]
    cases hfind : m.find? l with
    | none => simpa [Marker.payloads, hfind] using hrest
    | some d =>
      have hpayloads : m.payloads (l :: lines) = d.payload :: m.payloads lines := by simp [Marker.payloads, hfind]
      simp only [Run.result_bind, Run.result_say, ok_bind, hrest, hpayloads, Run.result_pure]

theorem result_extractFrom_open {l : String} (h : ∀ x ∈ lines, Text.isTerminated x = true)
    (hl : Text.isTerminated l = false) (rest : List String) (number : Nat) :
    (extractFrom m number (lines ++ l :: rest)).result = .error (.missingTerminator (number + lines.length)) := by
  induction lines generalizing number with
  | nil => simp [extractFrom, hl]
  | cons x lines ih =>
    have hrest := ih (fun y hy => h y (by simp [hy])) (number + 1)
    rw [List.cons_append, extractFrom, if_pos (h x (by simp))]
    have hnumber : number + 1 + lines.length = number + (x :: lines).length := by simp; omega
    rw [hnumber] at hrest
    cases m.find? x with
    | none => exact hrest
    | some d => simp only [Run.result_bind, Run.result_say, ok_bind, hrest, error_bind]

theorem result_extract_eq_ok_iff {ps : List String} :
    (extract m lines).result = .ok ps ↔ (∀ l ∈ lines, Text.isTerminated l = true) ∧ ps = m.payloads lines := by
  constructor
  · intro h
    rcases exists_open_line lines with hall | ⟨before, l, rest, rfl, hbefore, hl⟩
    · rw [extract, result_extractFrom hall] at h
      exact ⟨hall, (Except.ok.inj h).symm⟩
    · rw [extract, result_extractFrom_open hbefore hl] at h
      cases h
  · rintro ⟨h, rfl⟩
    exact result_extractFrom h 1

/-- The first incomplete line ends the extraction, wherever directives stand. -/
theorem result_extract_eq_error_iff {f : Fault} :
    (extract m lines).result = .error f ↔
      ∃ before l rest, lines = before ++ l :: rest ∧ (∀ x ∈ before, Text.isTerminated x = true) ∧
        Text.isTerminated l = false ∧ f = .missingTerminator (before.length + 1) := by
  constructor
  · intro h
    rcases exists_open_line lines with hall | ⟨before, l, rest, rfl, hbefore, hl⟩
    · rw [extract, result_extractFrom hall] at h
      cases h
    · rw [extract, result_extractFrom_open hbefore hl, Nat.add_comm] at h
      exact ⟨before, l, rest, rfl, hbefore, hl, (Except.error.inj h).symm⟩
  · rintro ⟨before, l, rest, rfl, hbefore, hl, rfl⟩
    rw [extract, result_extractFrom_open hbefore hl, Nat.add_comm]

/-! ### Parts of the lines -/

/-- The fault of lines that stand behind `count` others. -/
def Fault.behind (count : Nat) : Fault → Fault
  | missingTerminator line => missingTerminator (count + line)
  | missingSeparator line text => missingSeparator (count + line) text
  | f => f

theorem result_extractFrom_append (xs ys : List String) (number : Nat) :
    (extractFrom m number (xs ++ ys)).result = (do
      let ps ← (extractFrom m number xs).result
      let qs ← (extractFrom m (number + xs.length) ys).result
      pure (ps ++ qs)) := by
  -- The induction is on the first part; where the line is incomplete, neither side goes on.
  induction xs generalizing number with
  | nil =>
    show _ = (extractFrom m number ys).result >>= pure
    rw [bind_pure]
    rfl
  | cons x xs ih =>
    have hnumber : number + (x :: xs).length = number + 1 + xs.length := by simp; omega
    rw [List.cons_append, extractFrom, extractFrom, hnumber]
    split
    · cases m.find? x with
      | none => exact ih (number + 1)
      | some d =>
        simp only [Run.result_bind, Run.result_say, ok_bind, ih, bind_assoc]
        rfl
    · rfl

/-- Lines further down give the same payloads, or a fault further down. -/
theorem result_extractFrom_add (count number : Nat) (lines : List String) :
    (extractFrom m (count + number) lines).result =
      (extractFrom m number lines).result.mapError (Fault.behind count) := by
  induction lines generalizing number with
  | nil => rfl
  | cons l lines ih =>
    have hrest := ih (number + 1)
    rw [← Nat.add_assoc] at hrest
    rw [extractFrom, extractFrom]
    split
    · cases m.find? l with
      | none => exact hrest
      | some d =>
        simp only [Run.result_bind, Run.result_say, ok_bind, hrest]
        cases (extractFrom m (number + 1) lines).result <;> rfl
    · rfl

theorem result_extract_append (m : Marker) (xs ys : List String) :
    (extract m (xs ++ ys)).result = (do
      let ps ← (extract m xs).result
      let qs ← (extract m ys).result.mapError (Fault.behind xs.length)
      pure (ps ++ qs)) := by
  rw [extract, result_extractFrom_append, Nat.add_comm, result_extractFrom_add]
  rfl

/-! ### Texts -/

/-- A text is cut off exactly if there is some text behind its last line feed, and that is its last line. -/
theorem result_extractText_eq_error_iff {text : String} {f : Fault} :
    (extractText m text).result = .error f ↔
      (text ≠ "" ∧ text.toList.getLast? ≠ some '\n') ∧ f = .missingTerminator (text.toList.count '\n' + 1) := by
  rw [extractText, result_extract_eq_error_iff]
  constructor
  · rintro ⟨before, l, rest, hlines, -, hl, rfl⟩
    obtain ⟨hend, hcount⟩ := Text.count_of_open hlines hl
    exact ⟨hend, by rw [hcount]⟩
  · rintro ⟨hend, rfl⟩
    rcases exists_open_line (Text.lines text) with hall | ⟨before, l, rest, hlines, hbefore, hl⟩
    · have hjoin := Text.join_ends fun l hl => Text.isTerminated_iff.1 (hall l hl)
      rw [Text.join_lines] at hjoin
      exact (hjoin.elim hend.1 hend.2).elim
    · refine ⟨before, l, rest, hlines, hbefore, hl, ?_⟩
      rw [(Text.count_of_open hlines hl).2]

/-- No payload of a text runs over the end of a line. -/
theorem not_mem_of_extractText {text : String} {ps : List String} (h : (extractText m text).result = .ok ps) :
    ∀ p ∈ ps, '\n' ∉ p.toList := by
  obtain ⟨-, rfl⟩ := result_extract_eq_ok_iff.1 h
  intro p hp
  obtain ⟨line, hline, hpayload⟩ := List.mem_filterMap.1 hp
  obtain ⟨d, hd, rfl⟩ := Option.map_eq_some_iff.1 hpayload
  exact Marker.not_mem_payload (Text.areLines_lines text) hline hd

end AnalyzerBench

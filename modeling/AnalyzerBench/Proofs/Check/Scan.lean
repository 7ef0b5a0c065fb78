import AnalyzerBench.Proofs.Check.Checker
import AnalyzerBench.Proofs.Check.Entry
import AnalyzerBench.Proofs.Log
import Mathlib.Data.Nat.Find

/-!
# Scanning lines

A check ends with a fault exactly if a malformed line comes before the first entry of the target (`FaultAt`,
`check_fault_iff`).  Otherwise its report is that of feeding the entries of all lines to a checker
(`result_check_of_forall_not_faultAt`): the lines that are left unread after the target would not change it, malformed
or not, and neither do blank lines (`check_eq_feed`).  So a check passes exactly if it gets to an entry of the target that
is as expected (`exists_result_check_not_failure_iff`).
-/

namespace AnalyzerBench.Checker

open Entry (Malformed)

variable {x? : Option Expectation} {c : Checker} {line : String} {lines : List String} {n : Nat} {e : Entry}

/-- The line at the index `n` is malformed, and no line before it holds an entry of the target. -/
def FaultAt (x? : Option Expectation) (lines : List String) (n : Nat) : Prop :=
  (∃ line ∈ lines[n]?, Malformed line) ∧ ∀ e ∈ Entry.ofLines (lines.take n), ∀ x ∈ x?, e.identifier ≠ x.target

/-! ### Indices -/

private theorem isTarget_eq_false_iff :
    Expectation.isTarget x? e = false ↔ ∀ x ∈ x?, e.identifier ≠ x.target := by
  cases x? <;> simp [Expectation.isTarget]

theorem faultAt_zero : FaultAt x? (line :: lines) 0 ↔ Malformed line := by
  simp [FaultAt, Entry.ofLines]

theorem faultAt_succ :
    FaultAt x? (line :: lines) (n + 1) ↔
      (∀ e ∈ Entry.parse? line, Expectation.isTarget x? e = false) ∧ FaultAt x? lines n := by
  cases hline : Entry.parse? line with
  | none => simp [FaultAt, Entry.ofLines, hline]
  | some e => simp [FaultAt, Entry.ofLines, hline, isTarget_eq_false_iff, and_left_comm]

theorem exists_faultAt_cons :
    (∃ n, FaultAt x? (line :: lines) n) ↔
      Malformed line ∨ (∀ e ∈ Entry.parse? line, Expectation.isTarget x? e = false) ∧ ∃ n, FaultAt x? lines n := by
  constructor
  · rintro ⟨n, hn⟩
    cases n with
    | zero => exact .inl (faultAt_zero.1 hn)
    | succ n =>
      obtain ⟨hother, hn⟩ := faultAt_succ.1 hn
      exact .inr ⟨hother, n, hn⟩
  · rintro (hmalformed | ⟨hother, n, hn⟩)
    · exact ⟨0, faultAt_zero.2 hmalformed⟩
    · exact ⟨n + 1, faultAt_succ.2 ⟨hother, hn⟩⟩

theorem exists_first_faultAt (h : ∃ n, FaultAt x? lines n) :
    ∃ n line, lines[n]? = some line ∧ FaultAt x? lines n ∧ ∀ j < n, ¬ FaultAt x? lines j := by
  classical
  obtain ⟨line, hline, -⟩ := (Nat.find_spec h).1
  exact ⟨Nat.find h, line, hline, Nat.find_spec h, fun j hj => Nat.find_min h hj⟩

theorem not_faultAt_of_forall (h : ∀ l ∈ lines, ¬ Malformed l) (n : Nat) : ¬ FaultAt x? lines n := by
  rintro ⟨⟨line, hline, hmalformed⟩, -⟩
  exact h line (List.mem_of_getElem? hline) hmalformed

/-- Behind an entry of the target there is no fault. -/
theorem not_faultAt_append {before : List String} {x : Expectation} (hbefore : ∀ n, ¬ FaultAt (some x) before n)
    (hline : Entry.parse? line = some e) (he : e.identifier = x.target) (after : List String) (n : Nat) :
    ¬ FaultAt (some x) (before ++ line :: after) n := by
  rintro ⟨⟨l, hl, hmalformed⟩, hother⟩
  rcases Nat.lt_trichotomy n before.length with hlt | rfl | hlt
  · rw [List.getElem?_append_left hlt] at hl
    rw [List.take_append_of_le_length (Nat.le_of_lt hlt)] at hother
    exact hbefore n ⟨⟨l, hl, hmalformed⟩, hother⟩
  · rw [List.getElem?_append_right (Nat.le_refl _), Nat.sub_self] at hl
    obtain rfl : line = l := Option.some.inj hl
    exact Entry.not_malformed_of_parse? hline hmalformed
  · have hmem : e ∈ Entry.ofLines ((before ++ line :: after).take n) := by
      refine List.mem_filterMap.2 ⟨line, ?_, hline⟩
      rw [List.mem_take_iff_getElem]
      exact ⟨before.length, by simp; omega, by simp⟩
    exact hother e hmem x rfl he

theorem exists_faultAt_filter :
    (∃ n, FaultAt x? (lines.filter fun l => !Text.isAllBlank l) n) ↔ ∃ n, FaultAt x? lines n := by
  induction lines with
  | nil => rfl
  | cons line lines ih =>
    by_cases hblank : Text.isAllBlank line = true
    · have hnot : ¬ Malformed line := Entry.not_malformed_of_isAllBlank hblank
      rw [List.filter_cons_of_neg (by simp [hblank]), ih, exists_faultAt_cons, Entry.parse?_of_isAllBlank hblank]
      simp [hnot]
    · rw [List.filter_cons_of_pos (by simp [hblank]), exists_faultAt_cons, exists_faultAt_cons, ih]

/-- The first line with an entry of the target holds `e`, and no line before it is malformed. -/
def ReachesTarget (x : Expectation) (lines : List String) (e : Entry) : Prop :=
  ∃ before line after, lines = before ++ line :: after ∧ Entry.parse? line = some e ∧ e.identifier = x.target ∧
    ∀ l ∈ before, ¬ Malformed l ∧ ∀ e ∈ Entry.parse? l, e.identifier ≠ x.target

theorem reachesTarget_iff {x : Expectation} :
    ReachesTarget x lines e ↔
      (∀ n, ¬ FaultAt (some x) lines n) ∧ (Entry.ofLines lines).find? (fun e => e.identifier == x.target) = some e := by
  rw [Entry.find?_ofLines_eq_some_iff]
  constructor
  · rintro ⟨before, line, after, rfl, hline, he, hbefore⟩
    have hwell : ∀ n, ¬ FaultAt (some x) before n := not_faultAt_of_forall fun l hl => (hbefore l hl).1
    refine ⟨not_faultAt_append hwell hline he after, before, line, after, rfl, hline, by simpa using he, ?_⟩
    intro l hl e' he'
    simpa using (hbefore l hl).2 e' he'
  · rintro ⟨hnone, before, line, after, rfl, hline, he, hbefore⟩
    refine ⟨before, line, after, rfl, hline, by simpa using he, fun l hl => ⟨?_, ?_⟩⟩
    · intro hmalformed
      obtain ⟨n, hlt, rfl⟩ := List.getElem_of_mem hl
      refine hnone n ⟨⟨before[n], ?_, hmalformed⟩, ?_⟩
      · rw [List.getElem?_append_left hlt]
        exact List.getElem?_eq_getElem hlt
      · intro e' he' x' hx'
        obtain rfl := Option.some.inj hx'
        rw [List.take_append_of_le_length (Nat.le_of_lt hlt)] at he'
        obtain ⟨l, hl', hparse⟩ := List.mem_filterMap.1 he'
        simpa using hbefore l (List.mem_of_mem_take hl') e' hparse
    · intro e' he'
      simpa using hbefore l hl e' he'

/-! ### Steps -/

theorem scan_of_isAllBlank (h : Text.isAllBlank line = true) (number : Nat) :
    c.scan number (line :: lines) = c.scan (number + 1) lines := by
  rw [scan, if_pos h]

theorem result_scan_of_malformed (h : Malformed line) (number : Nat) :
    (c.scan number (line :: lines)).result = .error (.missingSeparator number (Text.trimEnd line)) := by
  obtain ⟨hblank, harrow⟩ := h
  have hparse : Entry.parse line number = .error (.missingSeparator number (Text.trimEnd line)) := by
    rw [Entry.parse, Entry.parse?_eq_none_iff.2 harrow]
  rw [scan, if_neg (by simp [hblank]), hparse]
  rfl

theorem result_scan_of_parse? (h : Entry.parse? line = some e) (number : Nat) :
    (c.scan number (line :: lines)).result =
      match (c.step e).state with
      | .done => .ok (c.step e).finish
      | .scanning => ((c.step e).scan (number + 1) lines).result := by
  have hblank : Text.isAllBlank line ≠ true := by
    intro hblank
    rw [Entry.parse?_of_isAllBlank hblank] at h
    cases h
  rw [scan, if_neg hblank]
  simp only [Entry.parse_eq_ok h, Run.result_bind, Run.result_ofExcept, Run.result_sayAll, ok_bind]
  cases (c.step e).state <;> rfl

/-- A check sees of a line what is left of it without the blanks at its end. -/
theorem scan_map_trimEnd (c : Checker) (number : Nat) (lines : List String) :
    c.scan number (lines.map Text.trimEnd) = c.scan number lines := by
  induction lines generalizing c number with
  | nil => rfl
  | cons line lines ih => simp only [List.map_cons, scan, Text.isAllBlank_trimEnd, Entry.parse_trimEnd, ih]

theorem scan_concat_of_isAllBlank (h : Text.isAllBlank line = true) (number : Nat) (lines : List String) :
    c.scan number (lines ++ [line]) = c.scan number lines := by
  induction lines generalizing c number with
  | nil => simp [scan, h]
  | cons l lines ih => simp only [List.cons_append, scan, ih]

/-! ### Scans -/

/-- The induction is on the lines; where the target ends the scan, the entries of the lines that are left do not change
the checker any more. -/
theorem result_scan_of_forall_not_faultAt (hc : c.state = .scanning) (h : ∀ n, ¬ FaultAt c.expectation lines n)
    (number : Nat) : (c.scan number lines).result = .ok (c.feed (Entry.ofLines lines)).finish := by
  induction lines generalizing c number with
  | nil => rfl
  | cons line lines ih =>
    rcases Entry.line_cases line with hblank | hmalformed | ⟨e, he⟩
    · have hnone := Entry.parse?_of_isAllBlank hblank
      have hrest : ∀ n, ¬ FaultAt c.expectation lines n := by
        intro n hn
        exact h (n + 1) (faultAt_succ.2 ⟨by simp [hnone], hn⟩)
      have hentries : Entry.ofLines (line :: lines) = Entry.ofLines lines := by simp [Entry.ofLines, hnone]
      rw [scan_of_isAllBlank hblank, hentries]
      exact ih hc hrest (number + 1)
    · exact absurd (faultAt_zero.2 hmalformed) (h 0)
    · have hfeed : c.feed (Entry.ofLines (line :: lines)) = (c.step e).feed (Entry.ofLines lines) := by
        simp [Entry.ofLines, he, feed]
      rw [result_scan_of_parse? he, hfeed]
      cases htarget : Expectation.isTarget c.expectation e with
      | true =>
        have hdone : (c.step e).state = .done := by simp [state_step, htarget]
        rw [hdone, feed_done hdone]
      | false =>
        have hscanning : (c.step e).state = .scanning := by simp [state_step, htarget, hc]
        have hrest : ∀ n, ¬ FaultAt (c.step e).expectation lines n := by
          intro n hn
          rw [expectation_step] at hn
          exact h (n + 1) (faultAt_succ.2 ⟨by simpa [he] using htarget, hn⟩)
        rw [hscanning]
        exact ih hscanning hrest (number + 1)

theorem result_scan_of_faultAt (hc : c.state = .scanning) (hline : lines[n]? = some line)
    (h : FaultAt c.expectation lines n) (hfirst : ∀ j < n, ¬ FaultAt c.expectation lines j) (number : Nat) :
    (c.scan number lines).result = .error (.missingSeparator (number + n) (Text.trimEnd line)) := by
  induction lines generalizing c n number with
  | nil => cases hline
  | cons l lines ih =>
    cases n with
    | zero =>
      obtain rfl : l = line := Option.some.inj hline
      exact result_scan_of_malformed (faultAt_zero.1 h) number
    | succ n =>
      obtain ⟨hother, hn⟩ := faultAt_succ.1 h
      have hrest : ∀ j < n, ¬ FaultAt c.expectation lines j := by
        intro j hj hfault
        exact hfirst (j + 1) (by omega) (faultAt_succ.2 ⟨hother, hfault⟩)
      have hnumber : number + (n + 1) = number + 1 + n := by omega
      rw [hnumber]
      rcases Entry.line_cases l with hblank | hmalformed | ⟨e, he⟩
      · rw [scan_of_isAllBlank hblank]
        exact ih hc hline hn hrest (number + 1)
      · exact absurd (faultAt_zero.2 hmalformed) (hfirst 0 (by omega))
      · have hscanning : (c.step e).state = .scanning := by simp [state_step, hother e he, hc]
        rw [result_scan_of_parse? he, hscanning]
        rw [← expectation_step c e] at hn hrest
        exact ih hscanning hline hn hrest (number + 1)

/-! ### Checks -/

theorem result_check_of_faultAt (hline : lines[n]? = some line) (h : FaultAt x? lines n)
    (hfirst : ∀ j < n, ¬ FaultAt x? lines j) :
    (check lines x?).result = .error (.missingSeparator (n + 1) (Text.trimEnd line)) := by
  have hscan := result_scan_of_faultAt (c := { expectation := x? }) rfl hline h hfirst 1
  rw [Nat.add_comm] at hscan
  exact hscan

theorem result_check_of_forall_not_faultAt (h : ∀ n, ¬ FaultAt x? lines n) :
    (check lines x?).result = .ok (({ expectation := x? } : Checker).feed (Entry.ofLines lines)).finish :=
  result_scan_of_forall_not_faultAt rfl h 1

theorem result_check_eq_ok_iff {report : Report} :
    (check lines x?).result = .ok report ↔
      (∀ n, ¬ FaultAt x? lines n) ∧
        report = (({ expectation := x? } : Checker).feed (Entry.ofLines lines)).finish := by
  by_cases h : ∃ n, FaultAt x? lines n
  · obtain ⟨n, line, hline, hn, hfirst⟩ := exists_first_faultAt h
    rw [result_check_of_faultAt hline hn hfirst]
    constructor
    · intro hok
      cases hok
    · rintro ⟨hnone, -⟩
      exact absurd hn (hnone n)
  · have hnone := not_exists.1 h
    rw [result_check_of_forall_not_faultAt hnone, Except.ok.injEq]
    constructor
    · intro hreport
      exact ⟨hnone, hreport.symm⟩
    · rintro ⟨-, hreport⟩
      exact hreport.symm

theorem result_check_eq_error_iff {f : Fault} :
    (check lines x?).result = .error f ↔
      ∃ n line, lines[n]? = some line ∧ FaultAt x? lines n ∧ (∀ j < n, ¬ FaultAt x? lines j) ∧
        f = .missingSeparator (n + 1) (Text.trimEnd line) := by
  constructor
  · intro hf
    have h : ∃ n, FaultAt x? lines n := by
      by_contra hnone
      rw [result_check_of_forall_not_faultAt (not_exists.1 hnone)] at hf
      cases hf
    obtain ⟨n, line, hline, hn, hfirst⟩ := exists_first_faultAt h
    rw [result_check_of_faultAt hline hn hfirst] at hf
    exact ⟨n, line, hline, hn, hfirst, (Except.error.inj hf).symm⟩
  · rintro ⟨n, line, hline, hn, hfirst, rfl⟩
    exact result_check_of_faultAt hline hn hfirst

theorem exists_result_check_eq_error_iff :
    (∃ f, (check lines x?).result = .error f) ↔ ∃ n, FaultAt x? lines n := by
  constructor
  · rintro ⟨f, hf⟩
    obtain ⟨n, -, -, hn, -⟩ := result_check_eq_error_iff.1 hf
    exact ⟨n, hn⟩
  · intro h
    obtain ⟨n, line, hline, hn, hfirst⟩ := exists_first_faultAt h
    exact ⟨_, result_check_of_faultAt hline hn hfirst⟩

/-- A check that gets as far as an entry of the target gives a report that the lines after it have no part in. -/
theorem result_check_append {before : List String} {x : Expectation} {report : Report}
    (hbefore : (check before (some x)).result = .ok report) (hline : Entry.parse? line = some e)
    (he : e.identifier = x.target) (after : List String) :
    (check (before ++ line :: after) (some x)).result =
      .ok (({ expectation := some x } : Checker).feed (Entry.ofLines before ++ [e])).finish := by
  have hdone : (({ expectation := some x } : Checker).feed (Entry.ofLines before ++ [e])).state = .done := by
    rw [state_feed_eq_done_iff, isSome_targetFinding?_iff]
    exact ⟨x, rfl, e, by simp, he⟩
  have hentries : Entry.ofLines (before ++ line :: after) = Entry.ofLines before ++ [e] ++ Entry.ofLines after := by
    simp [Entry.ofLines, hline]
  have hnone := not_faultAt_append (result_check_eq_ok_iff.1 hbefore).1 hline he after
  rw [result_check_of_forall_not_faultAt hnone, hentries, feed_append, feed_done hdone]

/-- A check finds the target as expected, or as a top, exactly if it gets to an entry of the target with such a value. -/
theorem exists_result_check_not_failure_iff {x : Expectation} :
    (∃ report, (check lines (some x)).result = .ok report ∧ report.verdict.isFailure = false) ↔
      ∃ e, ReachesTarget x lines e ∧ (e.value = "top" ∨ e.value = x.expected) := by
  simp only [result_check_eq_ok_iff, reachesTarget_iff]
  constructor
  · rintro ⟨_, ⟨hnone, rfl⟩, hverdict⟩
    obtain ⟨e, he, hvalue⟩ := not_isFailure_verdict_iff.1 hverdict
    exact ⟨e, ⟨hnone, he⟩, hvalue⟩
  · rintro ⟨e, ⟨hnone, he⟩, hvalue⟩
    exact ⟨_, ⟨hnone, rfl⟩, not_isFailure_verdict_iff.2 ⟨e, he, hvalue⟩⟩

/-- A check fails exactly if there is a malformed line without an entry of the target before it; the fault is that of
the first such line, with its number and its text.  Whatever follows an entry of the target that the check gets to, the
report is the same. -/
theorem check_fault_iff (lines : List String) (x? : Option Expectation) :
    ((∃ f, (check lines x?).result = .error f) ↔ ∃ n, FaultAt x? lines n) ∧
    (∀ f, (check lines x?).result = .error f ↔
      ∃ n line, lines[n]? = some line ∧ FaultAt x? lines n ∧ (∀ j < n, ¬ FaultAt x? lines j) ∧
        f = .missingSeparator (n + 1) (Text.trimEnd line)) ∧
    ((∃ report, (check lines x?).result = .ok report) ↔ ∀ n, ¬ FaultAt x? lines n) ∧
    ∀ before line e x report, x? = some x → (check before x?).result = .ok report →
      Entry.parse? line = some e → e.identifier = x.target →
      ∃ report', ∀ after, (check (before ++ line :: after) x?).result = .ok report' := by
  refine ⟨exists_result_check_eq_error_iff, fun f => result_check_eq_error_iff, ?_, ?_⟩
  · constructor
    · rintro ⟨report, hreport⟩
      exact (result_check_eq_ok_iff.1 hreport).1
    · intro h
      exact ⟨_, result_check_of_forall_not_faultAt h⟩
  · rintro before line e x report rfl hbefore hline he
    exact ⟨_, result_check_append hbefore hline he⟩

example : (check ["\n", "x > 5 \n", "x -> 5\n"] (some ⟨"x", "5"⟩)).result = .error (.missingSeparator 2 "x > 5") :=
  rfl

/-! ### Blank lines -/

theorem result_check_filter {report : Report} :
    (check (lines.filter fun l => !Text.isAllBlank l) x?).result = .ok report ↔
      (check lines x?).result = .ok report := by
  simp only [result_check_eq_ok_iff, ← not_exists, exists_faultAt_filter, Entry.ofLines_filter]

/-- If every line is blank or holds an arrow, the check that stops at the target gives the report of feeding the entries
of all lines, and so does every other check of the same lines with other blank ones between them. -/
theorem check_eq_feed (h : ∀ l ∈ lines, Text.isAllBlank l = false → "->".toList <:+: l.toList)
    (x? : Option Expectation) :
    List.Forall₂ (fun l e => Entry.parse? l = some e) (lines.filter fun l => !Text.isAllBlank l)
      (Entry.ofLines lines) ∧
    (check lines x?).result = .ok (({ expectation := x? } : Checker).feed (Entry.ofLines lines)).finish ∧
    ∀ lines', (lines'.filter fun l => !Text.isAllBlank l) = (lines.filter fun l => !Text.isAllBlank l) →
      (check lines' x?).result = (check lines x?).result := by
  have hwell : ∀ l ∈ lines, ¬ Malformed l := by
    rintro l hl ⟨hblank, harrow⟩
    exact harrow (h l hl hblank)
  have hcheck : (check lines x?).result = .ok (({ expectation := x? } : Checker).feed (Entry.ofLines lines)).finish :=
    result_check_of_forall_not_faultAt (not_faultAt_of_forall hwell)
  refine ⟨?_, hcheck, ?_⟩
  · rw [← Entry.ofLines_filter]
    apply Entry.forall₂_ofLines
    intro l hl
    obtain ⟨hmem, hblank⟩ := List.mem_filter.1 hl
    have harrow := h l hmem (by simpa using hblank)
    have hparse : Entry.parse? l ≠ none := fun hnone => Entry.parse?_eq_none_iff.1 hnone harrow
    exact Option.ne_none_iff_exists'.1 hparse
  · intro lines' hlines
    rw [hcheck]
    rw [← result_check_filter, ← hlines, result_check_filter] at hcheck
    exact hcheck

/-- The target is followed by a bottom that only feeding gets to. -/
theorem check_eq_feed_past_target :
    (check ["x -> 5\n", " \t\n", "a -> bottom"] (some ⟨"x", "5"⟩)).result =
      .ok (({ expectation := some ⟨"x", "5"⟩ } : Checker).feed [⟨"x", "5"⟩, ⟨"a", "bottom"⟩]).finish ∧
    (check ["", "x -> 5\n", "a -> bottom", "\r\n"] (some ⟨"x", "5"⟩)).result =
      .ok { diagnostics := [.matched "x" "5"], scanned := 1 } := by
  have hlines : ∀ l ∈ ["x -> 5\n", " \t\n", "a -> bottom"],
      Text.isAllBlank l = false → "->".toList <:+: l.toList := by
    decide +kernel
  have hentries : Entry.ofLines ["x -> 5\n", " \t\n", "a -> bottom"] = [⟨"x", "5"⟩, ⟨"a", "bottom"⟩] := by
    decide +kernel
  obtain ⟨-, hcheck, hsame⟩ := check_eq_feed hlines (some ⟨"x", "5"⟩)
  rw [hentries] at hcheck
  refine ⟨hcheck, ?_⟩
  rw [hsame _ (by decide +kernel), hcheck]
  rfl

end AnalyzerBench.Checker

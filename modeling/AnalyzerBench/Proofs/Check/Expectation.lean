import AnalyzerBench.Proofs.Check.Scan

/-!
# What an expectation can influence

Two checks of the same lines for the same target read the same lines and report the same bottoms, whatever values are
expected; only whether the target passes or fails may differ (`verdict_of_same_target`).  A check without an expectation
reads all lines, so it fails wherever any other check does (`result_check_none_of_error`), and if it succeeds, every
other check succeeds on a part of the lines (`result_check_of_result_check_none`).
-/

namespace AnalyzerBench.Checker

variable {x? : Option Expectation} {x y : Expectation} {lines : List String} {es : List Entry} {n : Nat} {e : Entry}

/-! ### Faults -/

theorem faultAt_congr (h : x.target = y.target) : FaultAt (some x) lines n ↔ FaultAt (some y) lines n := by
  simp [FaultAt, h]

theorem faultAt_none_iff : FaultAt none lines n ↔ ∃ line ∈ lines[n]?, Entry.Malformed line := by
  simp [FaultAt]

/-- No malformed line comes before the first fault. -/
private theorem not_faultAt_none_of_lt (h : FaultAt x? lines n) (hfirst : ∀ j < n, ¬ FaultAt x? lines j) :
    ∀ j < n, ¬ FaultAt none lines j := by
  intro j hj hfault
  apply hfirst j hj
  refine ⟨faultAt_none_iff.1 hfault, ?_⟩
  intro e he
  have hsub : Entry.ofLines (lines.take j) <+: Entry.ofLines (lines.take n) :=
    (List.take_prefix_take_left (Nat.le_of_lt hj)).filterMap Entry.parse?
  exact h.2 e (hsub.subset he)

theorem result_check_none_of_error {f : Fault} (h : (check lines x?).result = .error f) :
    (check lines none).result = .error f := by
  obtain ⟨n, line, hline, hn, hfirst, rfl⟩ := result_check_eq_error_iff.1 h
  exact result_check_of_faultAt hline (faultAt_none_iff.2 hn.1) (not_faultAt_none_of_lt hn hfirst)

/-! ### Reports -/

theorem countLooked_of_missing (h : (({ expectation := some x } : Checker).feed es).finish.verdict = .missing) :
    countLooked (some x) es = es.length := by
  have hfind : (es.find? fun e => e.identifier == x.target) = none := by
    rw [verdict_finish_feed] at h
    dsimp only at h
    split at h
    · assumption
    · next e _ =>
      by_cases htop : e.isTop = true
      · simp [htop] at h
      · by_cases hvalue : e.value = x.expected
        · simp [htop, hvalue] at h
        · simp [htop, hvalue] at h
  have hnone : es.findIdx? (Expectation.isTarget (some x)) = none := by
    simpa [List.findIdx?_eq_none_iff, Expectation.isTarget] using hfind
  rw [countLooked, hnone]

theorem countLooked_congr (h : x.target = y.target) (es : List Entry) :
    countLooked (some x) es = countLooked (some y) es := by
  have hsame : Expectation.isTarget (some x) = Expectation.isTarget (some y) := by
    funext e
    simp [Expectation.isTarget, h]
  rw [countLooked, countLooked, hsame]

theorem verdict_of_same_target (h : x.target = y.target) (es : List Entry) :
    let v := (({ expectation := some x } : Checker).feed es).finish.verdict
    let w := (({ expectation := some y } : Checker).feed es).finish.verdict
    (v = w ∨ (v = .pass ∧ w = .fail) ∨ (v = .fail ∧ w = .pass)) ∧
      ∀ e, es.find? (fun e => e.identifier == x.target) = some e → e.value = "top" → v = .sound ∧ w = .sound := by
  intro v w
  simp only [v, w, verdict_finish_feed, ← h]
  cases hfind : es.find? fun e => e.identifier == x.target with
  | none => exact ⟨.inl rfl, by simp⟩
  | some e =>
    dsimp only
    by_cases htop : e.isTop = true
    · simp [htop]
    · rw [if_neg htop, if_neg htop]
      refine ⟨?_, ?_⟩
      · by_cases hx : e.value = x.expected
        · rw [if_pos hx]
          by_cases hy : e.value = y.expected
          · exact .inl (if_pos hy).symm
          · exact .inr (.inl ⟨rfl, if_neg hy⟩)
        · rw [if_neg hx]
          by_cases hy : e.value = y.expected
          · exact .inr (.inr ⟨rfl, if_pos hy⟩)
          · exact .inl (if_neg hy).symm
      · intro e' he' hvalue
        obtain rfl := Option.some.inj he'
        exact absurd (Entry.isTop_iff.2 hvalue) htop

theorem result_check_of_result_check_none {whole : Report} (h : (check lines none).result = .ok whole)
    (x : Expectation) :
    ∃ report, (check lines (some x)).result = .ok report ∧ report.bottoms <+: whole.bottoms ∧
      report.scanned ≤ whole.scanned ∧
      (report.verdict = .missing → report.bottoms = whole.bottoms ∧ report.scanned = whole.scanned) := by
  obtain ⟨hnone, rfl⟩ := result_check_eq_ok_iff.1 h
  have hx : ∀ n, ¬ FaultAt (some x) lines n := fun n hn => hnone n (faultAt_none_iff.2 hn.1)
  refine ⟨_, result_check_of_forall_not_faultAt hx, ?_, ?_, ?_⟩
  · rw [bottoms_finish_feed, bottoms_finish_feed, countLooked_none, List.take_length]
    exact ((List.take_prefix _ _).filter _).map _
  · rw [scanned_finish_feed, scanned_finish_feed, countLooked_none]
    exact countLooked_le_length _ _
  · intro hmissing
    have hcount := countLooked_of_missing hmissing
    rw [bottoms_finish_feed, bottoms_finish_feed, scanned_finish_feed, scanned_finish_feed, hcount, countLooked_none]
    exact ⟨rfl, rfl⟩

/-- Checks of the same lines for the same target fail with the same fault or read the same entries and report the same
bottoms; the expected value only decides between pass and fail, and not even that if the target is the top.  A check
without an expectation fails wherever any check does; where it succeeds, any check does, and has read a part of what it
has read, or all of it if the target is missing. -/
theorem check_influence (lines : List String) :
    (∀ target expected expected',
      (∃ f, (check lines (some { target, expected })).result = .error f ∧
        (check lines (some { target, expected := expected' })).result = .error f) ∨
      ∃ report report',
        (check lines (some { target, expected })).result = .ok report ∧
        (check lines (some { target, expected := expected' })).result = .ok report' ∧
        report.scanned = report'.scanned ∧ report.bottoms = report'.bottoms ∧
        (report.verdict = report'.verdict ∨ (report.verdict = .pass ∧ report'.verdict = .fail) ∨
          (report.verdict = .fail ∧ report'.verdict = .pass)) ∧
        ∀ e, (Entry.ofLines lines).find? (fun e => e.identifier == target) = some e → e.value = "top" →
          report.verdict = .sound ∧ report'.verdict = .sound) ∧
    (∀ x f, (check lines (some x)).result = .error f → (check lines none).result = .error f) ∧
    ∀ whole, (check lines none).result = .ok whole → ∀ x, ∃ report,
      (check lines (some x)).result = .ok report ∧ report.bottoms <+: whole.bottoms ∧
      report.scanned ≤ whole.scanned ∧
      (report.verdict = .missing → report.bottoms = whole.bottoms ∧ report.scanned = whole.scanned) := by
  refine ⟨?_, fun x f => result_check_none_of_error, fun whole => result_check_of_result_check_none⟩
  intro target expected expected'
  let x : Expectation := { target, expected }
  let y : Expectation := { target, expected := expected' }
  have htarget : x.target = y.target := rfl
  by_cases h : ∃ n, FaultAt (some x) lines n
  · obtain ⟨n, line, hline, hn, hfirst⟩ := exists_first_faultAt h
    refine .inl ⟨_, result_check_of_faultAt hline hn hfirst, ?_⟩
    exact result_check_of_faultAt hline ((faultAt_congr htarget).1 hn)
      fun j hj hfault => hfirst j hj ((faultAt_congr htarget).2 hfault)
  · have hx := not_exists.1 h
    have hy : ∀ n, ¬ FaultAt (some y) lines n := fun n hn => hx n ((faultAt_congr htarget).2 hn)
    obtain ⟨hverdict, hsound⟩ := verdict_of_same_target htarget (Entry.ofLines lines)
    refine .inr ⟨_, _, result_check_of_forall_not_faultAt hx, result_check_of_forall_not_faultAt hy, ?_, ?_, hverdict,
      hsound⟩
    · rw [scanned_finish_feed, scanned_finish_feed, countLooked_congr htarget]
    · rw [bottoms_finish_feed, bottoms_finish_feed, countLooked_congr htarget]

end AnalyzerBench.Checker

import AnalyzerBench.Proofs.Check.Scan

/-!
# The form of result lines

Reading takes every line with an arrow to an entry in normal form, and each such entry is read from its own line
(`result_lines_normal`).  So a target that no normal entry has for its identifier is never found, and an expected value
that no normal entry has is never met (`verdict_of_target`, `verdict_of_expected`).
-/

namespace AnalyzerBench.Checker

open Text (isBlank)
open Text.Chars (Trimmed)

variable {x : Expectation} {lines : List String} {report : Report}

/-- A target that is no normal identifier is not the identifier of any line. -/
theorem verdict_of_target (h : ¬ Trimmed x.target.toList ∨ "->".toList <:+: x.target.toList)
    (hreport : (check lines (some x)).result = .ok report) : report.verdict = .missing := by
  obtain ⟨-, rfl⟩ := result_check_eq_ok_iff.1 hreport
  have hnone : (Entry.ofLines lines).find? (fun e => e.identifier == x.target) = none := by
    rw [List.find?_eq_none]
    intro e he hidentifier
    have hnormal := Entry.normal_of_mem_ofLines he
    have hsame : e.identifier = x.target := by simpa using hidentifier
    rw [← hsame] at h
    exact h.elim (fun hnot => hnot hnormal.identifier) hnormal.arrow
  simp only [verdict_finish_feed, hnone]

/-- An expected value that is not trimmed is not the value of any line. -/
theorem verdict_of_expected (h : ¬ Trimmed x.expected.toList)
    (hreport : (check lines (some x)).result = .ok report) : report.verdict ≠ .pass := by
  obtain ⟨-, rfl⟩ := result_check_eq_ok_iff.1 hreport
  rw [verdict_finish_feed]
  dsimp only
  split
  · simp
  · next e he =>
    have hnormal := Entry.normal_of_mem_ofLines (List.mem_of_find?_eq_some he)
    have hne : e.value ≠ x.expected := by
      intro hvalue
      rw [← hvalue] at h
      exact h hnormal.value
    rw [if_neg hne]
    split <;> simp

/-- The lines with an arrow are read as the entries in normal form, each of which is read back from its own line,
whatever blanks are put around it.  A target with blanks at its ends or an arrow in it is therefore not found in any
lines, and an expected value with blanks at its ends is not met by any. -/
theorem result_lines_normal :
    (∀ e : Entry, e.Normal → ∀ before after : String, (∀ c ∈ before.toList, isBlank c = true) →
      (∀ c ∈ after.toList, isBlank c = true) → ∀ number, Entry.parse (before ++ e.print ++ after) number = .ok e) ∧
    (∀ line number, (∃ f, Entry.parse line number = .error f) ↔ ¬ "->".toList <:+: line.toList) ∧
    (∀ line number, "->".toList <:+: line.toList →
      ∃ e, Entry.parse line number = .ok e ∧ e.Normal ∧ ∀ number', Entry.parse e.print number' = .ok e) ∧
    (∀ x : Expectation, ¬ Trimmed x.target.toList ∨ "->".toList <:+: x.target.toList → ∀ lines,
      (∃ f, (check lines (some x)).result = .error f) ∨
        ∃ report, (check lines (some x)).result = .ok report ∧ report.verdict = .missing) ∧
    ∀ x : Expectation, ¬ Trimmed x.expected.toList → ∀ lines report,
      (check lines (some x)).result = .ok report → report.verdict ≠ .pass := by
  refine ⟨?_, ?_, ?_, ?_, ?_⟩
  · intro e he before after hbefore hafter number
    exact Entry.parse_eq_ok (Entry.parse?_surrounded he hbefore hafter) number
  · intro line number
    constructor
    · rintro ⟨f, hf⟩ harrow
      obtain ⟨e, he, -⟩ := Entry.exists_parse?_of_arrow harrow
      rw [Entry.parse_eq_ok he] at hf
      cases hf
    · intro harrow
      exact ⟨_, Entry.parse_eq_error (Entry.parse?_eq_none_iff.2 harrow) number⟩
  · intro line number harrow
    obtain ⟨e, he, hnormal⟩ := Entry.exists_parse?_of_arrow harrow
    exact ⟨e, Entry.parse_eq_ok he number, hnormal, Entry.parse_eq_ok (Entry.parse?_print hnormal)⟩
  · intro x hx lines
    cases hresult : (check lines (some x)).result with
    | error f => exact .inl ⟨f, rfl⟩
    | ok report => exact .inr ⟨report, rfl, verdict_of_target hx hresult⟩
  · intro x hx lines report hreport
    exact verdict_of_expected hx hreport

/-- Half an arrow before the arrow and a second arrow behind it are read back; a blank after the target or before the
expected value is never met. -/
theorem result_lines_normal_half_arrow :
    Entry.parse "\u3000a- -> 5 -> 6\r\n" 1 = .ok ⟨"a-", "5 -> 6"⟩ ∧
    (∃ f, Entry.parse "a = 5" 1 = .error f) ∧
    (∃ e, Entry.parse "->>" 1 = .ok e ∧ Entry.parse e.print 2 = .ok e) ∧
    ((∃ f, (check ["x -> 5"] (some ⟨"x ", "5"⟩)).result = .error f) ∨
      ∃ report, (check ["x -> 5"] (some ⟨"x ", "5"⟩)).result = .ok report ∧ report.verdict = .missing) ∧
    ∀ report, (check ["x -> 5"] (some ⟨"x", "\t5"⟩)).result = .ok report → report.verdict ≠ .pass := by
  obtain ⟨hback, herror, hread, hmissing, hpass⟩ := result_lines_normal
  refine ⟨?_, (herror _ _).2 (by decide), ?_, ?_, ?_⟩
  · have hblank : ∀ c ∈ "\r\n".toList, isBlank c = true := List.all_eq_true.1 (by decide)
    have hwide : ∀ c ∈ "\u3000".toList, isBlank c = true := List.all_eq_true.1 (by decide)
    have hnormal : Entry.Normal ⟨"a-", "5 -> 6"⟩ := ⟨by decide, by decide, by decide⟩
    exact hback _ hnormal "\u3000" "\r\n" hwide hblank 1
  · obtain ⟨e, he, -, hagain⟩ := hread "->>" 1 (by decide)
    exact ⟨e, he, hagain 2⟩
  · exact hmissing _ (.inl (by decide)) _
  · exact hpass _ (by decide) _

end AnalyzerBench.Checker

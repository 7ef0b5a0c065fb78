import AnalyzerBench.Proofs.Command.Arguments
import AnalyzerBench.Proofs.Command.Outcome
import AnalyzerBench.Proofs.Extraction

/-!
# Runs of the directive extractor

The extractor prints nothing before all of the file has been gone through: it either prints the payloads of all
directives, one a line, or ends with status 1 and prints nothing (`run_extraction`).  Which of the two happens, and
which payloads there are, depends on the lines alone (`extraction_complete`).
-/

namespace AnalyzerBench.Command

namespace ExtractionRequest

variable {r : ExtractionRequest} {d : Directory} {text : String}

/-- The command line that spells a request out. -/
def spelled (r : ExtractionRequest) : List String :=
  (if r.verbose then ["--verbose"] else []) ++ ["--marker=" ++ r.marker.token, "--", r.file]

theorem ofArguments_spelled (r : ExtractionRequest) (h : r.file ≠ "") : ofArguments r.spelled = .request r := by
  obtain ⟨file, ⟨token⟩, verbose⟩ := r
  have hverbose := Rules.read_verbose (r := rules) (by decide)
  have hmarker := Rules.read_marker (r := rules) (by decide) token file
  unfold ofArguments spelled
  cases verbose <;> simp [hverbose, hmarker, ask, Given.add, Given.request?, setOnce, giveOnce, h]

theorem asked_spelled (r : ExtractionRequest) (h : r.file ≠ "") :
    Tool.extraction.asked r.spelled = .request (.extraction r) := by
  show (ofArguments r.spelled).map Request.extraction = .request (.extraction r)
  rw [ofArguments_spelled r h]
  rfl

/-- The payloads of a text are printed one a line, if all of them are found, and otherwise nothing is printed. -/
theorem run_extraction (h : d.read r.file = .ok text) :
    ∃ o, Request.run d (.extraction r) = (o, d) ∧
      match (extractText r.marker text).result with
      | .ok ps => o.exit = 0 ∧ Text.lines o.stdout = ps.map (· ++ "\n")
      | .error _ => o.exit = 1 ∧ o.stdout = "" := by
  have houtcome : Request.outcome (Request.content d (.extraction r)) (.extraction r) = r.outcome (.ok text) := by
    show r.outcome (d.read r.file) = r.outcome (.ok text)
    rw [h]
  cases hresult : (extractText r.marker text).result with
  | ok ps =>
    have hshows : (r.outcome (.ok text)).Shows 0 (String.join (ps.map (· ++ "\n"))) none :=
      Outcome.shows_of_ok hresult
    refine ⟨_, Request.run_of_none houtcome hshows.replacement, hshows.exit, ?_⟩
    rw [hshows.stdout, Text.lines_join_lf (not_mem_of_extractText hresult)]
  | error f =>
    have hshows : (r.outcome (.ok text)).Shows 1 "" none := Outcome.shows_of_error hresult
    exact ⟨_, Request.run_of_none houtcome hshows.replacement, hshows.exit, hshows.stdout⟩

/-- An extraction fails exactly at the first line without its line feed, wherever directives stand, and otherwise gives
the payloads of all directives in order, so lines can be extracted part by part.  A text is cut off exactly if it has
something behind its last line feed.  The tool prints the payloads of a file one a line, or nothing, and leaves the
directory as it was; every path but the empty one can be asked for. -/
theorem extraction_complete :
    (∀ m lines f, (extract m lines).result = .error f ↔
      ∃ before l rest, lines = before ++ l :: rest ∧ (∀ x ∈ before, Text.isTerminated x = true) ∧
        Text.isTerminated l = false ∧ f = .missingTerminator (before.length + 1)) ∧
    (∀ m lines ps, (extract m lines).result = .ok ps ↔
      (∀ l ∈ lines, Text.isTerminated l = true) ∧ ps = lines.filterMap fun l => (m.find? l).map Directive.payload) ∧
    (∀ m xs ys, (extract m (xs ++ ys)).result = (do
      let ps ← (extract m xs).result
      let qs ← (extract m ys).result.mapError (Fault.behind xs.length)
      pure (ps ++ qs))) ∧
    (∀ m text f, (extractText m text).result = .error f ↔
      (text ≠ "" ∧ text.toList.getLast? ≠ some '\n') ∧ f = .missingTerminator (text.toList.count '\n' + 1)) ∧
    (∀ (d : Directory) (r : ExtractionRequest) (text : String), d.read r.file = .ok text →
      ∃ o, Request.run d (.extraction r) = (o, d) ∧
        match (extractText r.marker text).result with
        | .ok ps => o.exit = 0 ∧ Text.lines o.stdout = ps.map (· ++ "\n")
        | .error _ => o.exit = 1 ∧ o.stdout = "") ∧
    ∀ (d : Directory) (r : ExtractionRequest),
      (r.file ≠ "" → Tool.extraction.asked r.spelled = .request (.extraction r)) ∧
      ∀ arguments, Tool.extraction.asked arguments = .request (.extraction r) →
        Tool.extraction.run arguments d = Request.run d (.extraction r) := by
  refine ⟨fun m lines f => result_extract_eq_error_iff, fun m lines ps => result_extract_eq_ok_iff,
    result_extract_append, fun m text f => result_extractText_eq_error_iff, ?_, ?_⟩
  · intro d r text h
    exact run_extraction h
  · intro d r
    refine ⟨asked_spelled r, ?_⟩
    intro arguments h
    exact run_of_asked h d

private def wholeFile : Directory := { files := [(["f"], .text "CONFIG: a\nx\n;CONFIG:b\r\n")] }

/-- A text that is cut off behind a directive, and a file that is not cut off. -/
theorem extraction_complete_cut_off :
    (extractText {} "// CONFIG: a\nx").result = .error (.missingTerminator 2) ∧
    ∃ o, Tool.extraction.run ["--marker=CONFIG", "--", "f"] wholeFile = (o, wholeFile) ∧
      o.exit = 0 ∧ Text.lines o.stdout = ["a\n", "b\n"] := by
  obtain ⟨-, -, -, htext, hrun, hasked⟩ := extraction_complete
  refine ⟨(htext _ _ _).2 ⟨⟨by decide, by decide⟩, rfl⟩, ?_⟩
  obtain ⟨hspelled, hsame⟩ := hasked wholeFile ⟨"f", {}, false⟩
  have hresult : (extractText {} "CONFIG: a\nx\n;CONFIG:b\r\n").result = .ok ["a", "b"] := by decide +kernel
  obtain ⟨o, ho, hprinted⟩ := hrun wholeFile ⟨"f", {}, false⟩ _ rfl
  rw [hresult] at hprinted
  exact ⟨o, (hsame _ (hspelled (by decide))).trans ho, hprinted⟩

end ExtractionRequest

end AnalyzerBench.Command

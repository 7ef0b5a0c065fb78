import AnalyzerBench.Proofs.Check.Scan
import AnalyzerBench.Proofs.Extraction
import AnalyzerBench.Proofs.Text.LineEnds

/-!
# Readers and line ends

Checking and extracting look at a line without the blanks at its end, and a line end is made of blanks.  So neither sees
which line ends a text has (`checkText_toCrlf`, `extractText_toCrlf`).  A check does not even see whether the last line
has one (`checkText_append_lf`), while an extraction insists on it.
-/

namespace AnalyzerBench

theorem checkText_toCrlf (text : String) (x? : Option Expectation) :
    checkText (Text.toCrlf text) x? = checkText text x? := by
  have htrimmed : (Text.lines (Text.toCrlf text)).map Text.trimEnd = (Text.lines text).map Text.trimEnd := by
    rw [Text.lines_toCrlf, List.map_map]
    exact List.map_congr_left fun l hl => Text.trimEnd_toCrlf ((Text.areLines_lines text).isLine_or hl)
  rw [checkText, checkText, check, check, ← Checker.scan_map_trimEnd, htrimmed, Checker.scan_map_trimEnd]

theorem checkText_append_lf (text : String) (x? : Option Expectation) :
    checkText (text ++ "\n") x? = checkText text x? := by
  rw [checkText, checkText, check, check]
  rcases Text.lines_append_lf text with hlines | ⟨before, last, hlines, hended⟩
  · rw [hlines]
    exact Checker.scan_concat_of_isAllBlank (by decide) 1 _
  · have htrimmed : (before ++ [last ++ "\n"]).map Text.trimEnd = (before ++ [last]).map Text.trimEnd := by
      simp [Text.trimEnd_append_lf]
    rw [hlines, hended, ← Checker.scan_map_trimEnd, htrimmed, Checker.scan_map_trimEnd]

theorem extractText_toCrlf (m : Marker) (text : String) :
    extractText m (Text.toCrlf text) = extractText m text := by
  rw [extractText, extractText, extract, extract, Text.lines_toCrlf]
  apply extractFrom_map
  intro l hl
  have hline := (Text.areLines_lines text).isLine_or hl
  refine ⟨Text.isTerminated_toCrlf hline, ?_⟩
  rw [← m.find?_trimEnd, Text.trimEnd_toCrlf hline, m.find?_trimEnd]

/-- A check gives the same report or the same fault, and says the same meanwhile, if the text gets CRLF line ends or one
more line feed at its end.  An extraction gives the same payloads or the same fault if the text gets CRLF line ends. -/
theorem readers_ignore_line_ends (text : String) :
    (∀ x?, checkText (text ++ "\n") x? = checkText text x? ∧
      checkText (Text.toCrlf text) x? = checkText text x?) ∧
    ∀ m, extractText m (Text.toCrlf text) = extractText m text := by
  refine ⟨?_, ?_⟩
  · intro x?
    exact ⟨checkText_append_lf text x?, checkText_toCrlf text x?⟩
  · intro m
    exact extractText_toCrlf m text

/-- The token of a marker may hold a carriage return itself. -/
example : (extractText { token := "\r" } (Text.toCrlf "a\r: b\r\n\n")).result = .ok ["b"] := by decide +kernel

end AnalyzerBench

import AnalyzerBench.Migration.Block
import AnalyzerBench.Proofs.Domain
import AnalyzerBench.Proofs.Migration.Layout
import AnalyzerBench.Proofs.Text.Blank

/-!
# The lines of a migrated file

Every line of the block ends in a line feed, so the lines of a migrated file are the leading lines, those of the block
and the trailing lines (`lines_assemble`).  The values in a block are closed texts that do not end in a blank
(`Assignment.Written`).  The line of such an assignment is a single directive, with the assignment as its payload, if no
line feed stands in its key (`isLine_line`, `find?_line`).
-/

namespace AnalyzerBench.Migration

open Text (AreLines IsLine)
open Text.Chars (Closed Trimmed)

variable {m : Marker} {l : Layout} {a : Assignment} {assignments : List Assignment} {domains : List String}

namespace Assignment

theorem text_ofDomains (domains : List String) :
    (ofDomains domains).text =
      "config.AbstractDomain = [" ++ String.intercalate ", " (domains.map lookupExpression) ++ "]" := by
  rw [← String.toList_inj]
  simp [text, ofDomains, domainKey, domainList, domainListBy]
  rfl

/-- The value of the assignment is a closed text that does not end in a blank. -/
structure Written (a : Assignment) : Prop where
  closed : Closed a.value.toList
  last : ∃ c, a.value.toList.getLast? = some c ∧ Text.isBlank c = false

theorem written_ofDomains (domains : List String) : (ofDomains domains).Written where
  closed := closed_domainListBy _ domains
  last := ⟨']', getLast?_domainListBy _ domains, by decide⟩

/-- The text of an assignment starts with a letter, so it is trimmed if the value does not end in a blank. -/
theorem Written.trimmed (h : a.Written) : Trimmed a.text.toList := by
  obtain ⟨c, hlast, hc⟩ := h.last
  have htext : a.text.toList = 'c' :: ("onfig.".toList ++ a.key.toList ++ " = ".toList ++ a.value.toList) := by
    simp [text]
  constructor
  · intro x hx
    rw [htext] at hx
    obtain rfl : 'c' = x := by simpa using hx
    decide
  · intro x hx
    rw [htext, ← List.cons_append, List.getLast?_append, hlast] at hx
    obtain rfl : c = x := by simpa using hx
    exact hc

theorem Written.not_mem_text (h : a.Written) (hkey : '\n' ∉ a.key.toList) : '\n' ∉ a.text.toList := by
  simp [text, hkey, h.closed.not_mem]

end Assignment

namespace Layout

theorem toList_line (l : Layout) (a : Assignment) :
    (l.line a).toList = l.opening.toList ++ [' '] ++ a.text.toList ++ l.lineEnd.text.toList := by
  simp [line]

theorem getLast?_lineEnd (e : Text.LineEnd) : e.text.toList.getLast? = some '\n' := by
  cases e <;> decide

theorem getLast?_of_mem_block {x : String} (hx : x ∈ l.block assignments domains) : x.toList.getLast? = some '\n' := by
  obtain ⟨a, -, rfl⟩ := List.mem_map.1 hx
  rw [toList_line, List.getLast?_append, getLast?_lineEnd]
  rfl

/-! ### Splitting a migrated file -/

theorem lines_assemble (h : l.WellFormed m) :
    Text.lines (l.assemble assignments domains) =
      l.leading ++ Text.lines (String.join (l.block assignments domains)) ++ l.trailing := by
  have hblock : ∀ x ∈ l.block assignments domains, x.toList.getLast? = some '\n' := fun _ => getLast?_of_mem_block
  have hleading : ∀ x ∈ l.leading, x.toList.getLast? = some '\n' := fun x hx => (h.leading x hx).getLast?
  have hhead : ∀ x ∈ l.leading ++ l.block assignments domains, x.toList.getLast? = some '\n' :=
    List.forall_mem_append.2 ⟨hleading, hblock⟩
  have hends := Text.join_ends hhead
  rw [String.join_append] at hends
  rw [assemble, Text.lines_append hends, Text.lines_append (Text.join_ends hleading),
    Text.lines_join (Text.areLines_of_isLine h.leading), Text.lines_join h.trailing]

/-! ### The line of an assignment -/

theorem isLine_line (h : l.WellFormed m) (ha : a.Written) (hkey : '\n' ∉ a.key.toList) : IsLine (l.line a) :=
  Marker.isLine_written h.opening (ha.not_mem_text hkey) l.lineEnd

/-- The marker finds the assignment in its line. -/
theorem find?_line (h : l.WellFormed m) (ha : a.Written) :
    m.find? (l.line a) = some { opening := l.opening, payload := a.text } :=
  Marker.find?_written (h.found "") ha.trimmed l.lineEnd

end Layout

end AnalyzerBench.Migration

import AnalyzerBench.Proofs.Extraction
import AnalyzerBench.Proofs.Migration.Migrate

/-!
# Reading a migrated file

If no line feed stands in a key, each assignment has a line of its own (`lines_assemble_block`), so the directives of a
migrated file are the assignments of its block and nothing else (`payloads_assemble`).  Extraction reads them back
unless the last line of the file lacks its line feed, and that line is then the last ordinary line of the original
(`extractText_migrated`).
-/

namespace AnalyzerBench.Migration

variable {m : Marker} {r : Registry} {l : Layout} {text : String} {mig : Migration}

namespace Layout

variable {assignments : List Assignment} {domains : List String}

private theorem isLine_of_mem_block (h : l.WellFormed m)
    (hblock : ∀ a ∈ assignments ++ [Assignment.ofDomains domains], a.Written ∧ '\n' ∉ a.key.toList) :
    ∀ x ∈ l.block assignments domains, Text.IsLine x := by
  intro x hx
  obtain ⟨a, ha, rfl⟩ := List.mem_map.1 hx
  obtain ⟨hwritten, hkey⟩ := hblock a ha
  exact isLine_line h hwritten hkey

/-- The lines of a migrated file, if each assignment takes one line. -/
theorem lines_assemble_block (h : l.WellFormed m)
    (hblock : ∀ a ∈ assignments ++ [Assignment.ofDomains domains], a.Written ∧ '\n' ∉ a.key.toList) :
    Text.lines (l.assemble assignments domains) = l.leading ++ l.block assignments domains ++ l.trailing := by
  rw [lines_assemble h, Text.lines_join (Text.areLines_of_isLine (isLine_of_mem_block h hblock))]

private theorem payloads_block (h : l.WellFormed m)
    (hblock : ∀ a ∈ assignments ++ [Assignment.ofDomains domains], a.Written ∧ '\n' ∉ a.key.toList) :
    m.payloads (l.block assignments domains) = (assignments ++ [Assignment.ofDomains domains]).map Assignment.text := by
  refine Marker.payloads_map fun a ha => ?_
  rw [find?_line h (hblock a ha).1, Option.map_some]

/-- The directives of a migrated file are its assignments. -/
theorem payloads_assemble (h : l.WellFormed m)
    (hblock : ∀ a ∈ assignments ++ [Assignment.ofDomains domains], a.Written ∧ '\n' ∉ a.key.toList) :
    m.payloads (Text.lines (l.assemble assignments domains)) =
      (assignments ++ [Assignment.ofDomains domains]).map Assignment.text := by
  rw [lines_assemble_block h hblock, Marker.payloads_append, Marker.payloads_append, payloads_block h hblock,
    Marker.payloads_of_ordinary h.leading_ordinary, Marker.payloads_of_ordinary h.trailing_ordinary, List.nil_append,
    List.append_nil]

private theorem isTerminated_of_mem (h : l.WellFormed m)
    (hblock : ∀ a ∈ assignments ++ [Assignment.ofDomains domains], a.Written ∧ '\n' ∉ a.key.toList) :
    ∀ x ∈ l.leading ++ l.block assignments domains, Text.isTerminated x = true := by
  intro x hx
  rcases List.mem_append.1 hx with hleading | hmem
  · exact (h.leading x hleading).isTerminated
  · exact (isLine_of_mem_block h hblock x hmem).isTerminated

theorem extractText_assemble (h : l.WellFormed m)
    (hblock : ∀ a ∈ assignments ++ [Assignment.ofDomains domains], a.Written ∧ '\n' ∉ a.key.toList)
    (hclosed : ∀ x ∈ l.trailing, Text.isTerminated x = true) :
    (extractText m (l.assemble assignments domains)).result =
      .ok ((assignments ++ [Assignment.ofDomains domains]).map Assignment.text) := by
  have hall : ∀ x ∈ Text.lines (l.assemble assignments domains), Text.isTerminated x = true := by
    rw [lines_assemble_block h hblock]
    exact List.forall_mem_append.2 ⟨isTerminated_of_mem h hblock, hclosed⟩
  rw [extractText, extract, result_extractFrom hall, payloads_assemble h hblock]

/-- An open line among the trailing ones is the last line of the migrated file. -/
theorem extractText_assemble_open (h : l.WellFormed m)
    (hblock : ∀ a ∈ assignments ++ [Assignment.ofDomains domains], a.Written ∧ '\n' ∉ a.key.toList)
    {x : String} (hmem : x ∈ l.trailing) (hx : Text.isTerminated x = false) :
    (extractText m (l.assemble assignments domains)).result =
      .error (.missingTerminator (Text.lines (l.assemble assignments domains)).length) := by
  have hsplit := lines_assemble_block h hblock
  have htrailing := h.trailing
  obtain ⟨s, t, hst⟩ := List.append_of_mem hmem
  rw [hst] at htrailing
  obtain rfl := htrailing.eq_nil_of_open hx
  have hs : ∀ y ∈ s, Text.isTerminated y = true := fun y hy => (htrailing.isLine_of_append y hy).isTerminated
  have hbefore : ∀ y ∈ l.leading ++ l.block assignments domains ++ s, Text.isTerminated y = true :=
    List.forall_mem_append.2 ⟨isTerminated_of_mem h hblock, hs⟩
  rw [hst, ← List.append_assoc] at hsplit
  have hnumber : (l.leading ++ l.block assignments domains ++ s ++ [x]).length =
      1 + (l.leading ++ l.block assignments domains ++ s).length := by
    rw [List.length_append, List.length_singleton, Nat.add_comm]
  rw [extractText, extract, hsplit, hnumber, result_extractFrom_open hbefore hx]

end Layout

/-- Extracting the payloads of a migrated file gives its assignments, or the fault of the last line if that is an
ordinary line that already lacked its line feed. -/
theorem extractText_migrated (h : (migrate m r text).result = .ok mig) (hkeys : ∀ k ∈ mig.keys, '\n' ∉ k.toList) :
    Configures (documentOf (m.payloads (Text.lines text))) mig.assignments mig.domains ∧
    (extractText m mig.text).result =
      if ∃ x ∈ (Text.lines text).getLast?, m.find? x = none ∧ Text.isTerminated x = false then
        .error (.missingTerminator (Text.lines mig.text).length)
      else
        .ok (mig.assignments.map (fun a => "config." ++ a.key ++ " = " ++ a.value) ++
          ["config.AbstractDomain = [" ++ String.intercalate ", " (mig.domains.map lookupExpression) ++ "]"]) := by
  obtain ⟨l, hl, hwell, hconfigures, htext⟩ := migrate_eq_ok h
  have hlines : Text.AreLines (Text.lines text) := Text.areLines_lines text
  have hblock := hconfigures.forall_block hkeys (by decide : '\n' ∉ domainKey.toList)
  refine ⟨hconfigures, ?_⟩
  by_cases hopen : ∃ x ∈ (Text.lines text).getLast?, m.find? x = none ∧ Text.isTerminated x = false
  · rw [if_pos hopen]
    obtain ⟨x, hlast, hnone, hx⟩ := hopen
    have hmem : x ∈ l.trailing := (Layout.mem_trailing_open_iff hlines hl hx).2 ⟨hlast, hnone⟩
    rw [htext, Layout.extractText_assemble_open hwell hblock hmem hx]
  · rw [if_neg hopen]
    have hclosed : ∀ x ∈ l.trailing, Text.isTerminated x = true := by
      intro x hmem
      rw [← Bool.not_eq_false]
      intro hx
      obtain ⟨hlast, hnone⟩ := (Layout.mem_trailing_open_iff hlines hl hx).1 hmem
      exact hopen ⟨x, hlast, hnone, hx⟩
    rw [htext, Layout.extractText_assemble hwell hblock hclosed, List.map_append, List.map_singleton,
      Assignment.text_ofDomains]
    rfl

theorem extractText_migrated_marker :
    ∃ mig, (migrate {} {} "// CONFIG: \x7bAbstractDomain: [], 'CONFIG: x': '// CONFIG: '\x7d\n").result = .ok mig ∧
      (∀ k ∈ mig.keys, '\n' ∉ k.toList) ∧
      (extractText {} mig.text).result =
        .ok ["config.CONFIG: x = \"// CONFIG: \"", "config.AbstractDomain = []"] := by
  have hrun : (migrate {} {} "// CONFIG: \x7bAbstractDomain: [], 'CONFIG: x': '// CONFIG: '\x7d\n").result = .ok {
      text := "// CONFIG: config.CONFIG: x = \"// CONFIG: \"\n// CONFIG: config.AbstractDomain = []\n",
      assignments := [⟨"CONFIG: x", "\"// CONFIG: \""⟩], domains := [], interleaved := false } := by
    decide +kernel
  have hkeys : ∀ k ∈ ["CONFIG: x"], '\n' ∉ k.toList := by decide
  exact ⟨_, hrun, hkeys, (extractText_migrated hrun hkeys).2.trans (by decide +kernel)⟩

end AnalyzerBench.Migration

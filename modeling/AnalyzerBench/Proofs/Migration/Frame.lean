import AnalyzerBench.Proofs.Migration.Migrate

/-!
# What a migration keeps

The first directive gives way to a block of assignments and all other directives are taken out (`migrateBy_frame`).  The
ordinary lines stay as they are, in their order: those before the first directive stand before the block, the others
after it, and none shares a line with the block, so splitting the migrated text gives them back.
-/

namespace AnalyzerBench.Migration

variable {parse : String → Option Yaml.Value} {m : Marker} {r : Registry} {text : String} {mig : Migration}

/-- A line for each assignment and one for the list of domains, all with the same opening and the same line end. -/
def blockLines (opening lineEnd : String) (assignments : List Assignment) (domains : List String) : List String :=
  assignments.map (fun a => opening ++ " config." ++ a.key ++ " = " ++ a.value ++ lineEnd) ++
    [opening ++ " config.AbstractDomain = [" ++ String.intercalate ", " (domains.map lookupExpression) ++ "]" ++
      lineEnd]

theorem Layout.block_eq (l : Layout) (assignments : List Assignment) (domains : List String) :
    l.block assignments domains = blockLines l.opening l.lineEnd.text assignments domains := by
  have hsetting : ∀ a : Assignment,
      l.line a = l.opening ++ " config." ++ a.key ++ " = " ++ a.value ++ l.lineEnd.text := by
    intro a
    rw [← String.toList_inj, toList_line]
    simp [Assignment.text]
  have hdomains : l.line (.ofDomains domains) =
      l.opening ++ " config.AbstractDomain = [" ++ String.intercalate ", " (domains.map lookupExpression) ++ "]" ++
        l.lineEnd.text := by
    rw [← String.toList_inj, toList_line, Assignment.text_ofDomains]
    simp
  rw [block, List.map_append, List.map_singleton, hdomains, blockLines, List.map_congr_left fun a _ => hsetting a]

/-- Ordinary lines are the leading and the trailing ones. -/
private theorem ordinary_append_cons {before after : List String} {line : String} {d : Directive}
    (hbefore : ∀ x ∈ before, m.find? x = none) (hd : m.find? line = some d) :
    m.ordinary (before ++ line :: after) = before ++ m.ordinary after := by
  have hkeep : m.ordinary before = before := List.filter_eq_self.2 fun x hx => by simp [hbefore x hx]
  have hdrop : m.ordinary (line :: after) = m.ordinary after := List.filter_cons_of_neg (by simp [hd])
  unfold Marker.ordinary at hkeep hdrop ⊢
  rw [List.filter_append, hkeep, hdrop]

/-- Whatever reads the document, in a migrated text the first directive is replaced by the block of the document and the
other directives are taken out; the ordinary lines stand around the block as they were. -/
theorem migrateBy_frame (h : (migrateBy parse m r text).result = .ok mig) :
    ∃ before line after d,
      Text.lines text = before ++ line :: after ∧ (∀ x ∈ before, m.find? x = none) ∧ m.find? line = some d ∧
      (d.opening.toList <+: line.toList ∧ m.needle.toList <:+ d.opening.toList ∧
        ∀ p, p <+: line.toList → m.needle.toList <:+ p → d.opening.toList <+: p) ∧
      ConfiguresBy parse (documentOf (m.payloads (Text.lines text))) mig.assignments mig.domains ∧
      let lineEnd := if ['\r', '\n'] <:+ line.toList then "\r\n" else "\n"
      let block := blockLines d.opening lineEnd mig.assignments mig.domains
      mig.text = String.join before ++ String.join block ++ String.join (m.ordinary after) ∧
      Text.lines mig.text = before ++ Text.lines (String.join block) ++ m.ordinary after ∧
      before ++ m.ordinary after = m.ordinary (Text.lines text) := by
  obtain ⟨l, hl, hwell, hconfigures, htext⟩ := migrateBy_eq_ok h
  obtain ⟨line, after, d, hlines, hbefore, hd, hopening, hend, -, htrailing⟩ := Layout.ofLines?_eq_some hl
  have hblock : l.block mig.assignments mig.domains =
      blockLines d.opening (if ['\r', '\n'] <:+ line.toList then "\r\n" else "\n") mig.assignments mig.domains := by
    rw [Layout.block_eq, hopening, hend, Text.LineEnd.text_ofLine]
  refine ⟨l.leading, line, after, d, hlines, hbefore, hd, Marker.opening_shortest hd, hconfigures, ?_, ?_, ?_⟩
  · rw [htext, Layout.assemble, hblock, htrailing]
  · rw [htext, Layout.lines_assemble hwell, hblock, htrailing]
  · rw [hlines, ordinary_append_cons hbefore hd]

theorem migrateBy_frame_interleaved :
    ∃ mig before block after,
      (migrate ⟨"C"⟩ {} "a\r\n#C: \x7bAbstractDomain: Zones,\r\nb\n//C: depth: [3]\x7d\ne").result = .ok mig ∧
      mig.text = "a\r\n#C: config.depth = [3]\r\n#C: config.AbstractDomain = [domains[\"Zones\"]]\r\nb\ne" ∧
      Text.lines mig.text = before ++ block ++ after ∧ before ++ after = ["a\r\n", "b\n", "e"] := by
  have hrun : (migrate ⟨"C"⟩ {} "a\r\n#C: \x7bAbstractDomain: Zones,\r\nb\n//C: depth: [3]\x7d\ne").result = .ok {
      text := "a\r\n#C: config.depth = [3]\r\n#C: config.AbstractDomain = [domains[\"Zones\"]]\r\nb\ne",
      assignments := [⟨"depth", "[3]"⟩], domains := ["Zones"], interleaved := true } := by
    decide +kernel
  obtain ⟨before, line, after, d, -, -, -, -, -, -, hlines, hkept⟩ := migrateBy_frame hrun
  exact ⟨_, before, _, _, hrun, rfl, hlines, hkept.trans (by decide +kernel)⟩

end AnalyzerBench.Migration

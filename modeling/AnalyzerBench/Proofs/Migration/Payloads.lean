import AnalyzerBench.Proofs.Extraction
import AnalyzerBench.Proofs.Migration.Migrate

/-!
# What the outcome of a migration depends on

The assignments and the domains of a migrated file, or the fault that is reported instead, are determined by the
payloads of the directives (`map_result_migrate`).  Neither the ordinary lines nor the marker, nor what stands before it
or at the end of a line have a part in them (`migrate_of_payloads_eq`).
-/

namespace AnalyzerBench.Migration

variable {m m₁ m₂ : Marker} {text text₁ text₂ : String}

/-- The assignments and the domains that a document says, or its fault. -/
def readDocument (document : String) : Except Fault (List Assignment × List String) := do
  let settings ← Settings.ofDocument document
  let assignments ← settings.assignments
  return (assignments, settings.domains)

theorem map_result_migrate (m : Marker) (r : Registry) (text : String) :
    (migrate m r text).result.map (fun mig => (mig.assignments, mig.domains)) =
      readDocument (documentOf (m.payloads (Text.lines text))) :=
  map_result_migrateBy Yaml.Value.ofText? m r text Prod.mk

/-- The document that a migration reports is that of all payloads. -/
theorem document_mem_log_iff {r : Registry} {document : String} :
    .document document ∈ (migrate m r text).log ↔
      m.payloads (Text.lines text) ≠ [] ∧ document = documentOf (m.payloads (Text.lines text)) := by
  cases hl : Layout.ofLines? m (Text.lines text) with
  | none => simp [log_migrate_of_none r hl, Layout.ofLines?_eq_none_iff.1 hl]
  | some l =>
    have hne : m.payloads (Text.lines text) ≠ [] := by
      rw [ne_eq, ← Layout.ofLines?_eq_none_iff, hl]
      simp
    -- What is said about the domains is no document.
    have hremark : ∀ name, r.remark name ≠ .document document := by
      intro name
      unfold Registry.remark
      split
      · simp
      · simp
    rw [log_migrate r hl, ← Layout.payloads_of_ofLines? hl]
    rw [← Layout.payloads_of_ofLines? hl] at hne
    cases Settings.ofDocument (documentOf l.payloads) with
    | error f => simp [hne]
    | ok settings => simp [hne, hremark]

/-- Texts with the same payloads are migrated to the same settings and domains or fail with the same fault, whatever
else stands in them; extraction gives the payloads of which that document is made. -/
theorem migrate_of_payloads_eq (r : Registry) (h : m₁.payloads (Text.lines text₁) = m₂.payloads (Text.lines text₂)) :
    (migrate m₁ r text₁).result.map (fun mig => (mig.keys, mig.assignments.map (·.value), mig.domains)) =
      (migrate m₂ r text₂).result.map (fun mig => (mig.keys, mig.assignments.map (·.value), mig.domains)) ∧
    ∀ ps, (extractText m₁ text₁).result = .ok ps →
      (∀ document, .document document ∈ (migrate m₁ r text₁).log ↔
        ps ≠ [] ∧ document = String.join (ps.map (· ++ "\n"))) ∧
      (migrate m₁ r text₁).result.map (fun mig => (mig.assignments, mig.domains)) =
        readDocument (String.join (ps.map (· ++ "\n"))) := by
  refine ⟨?_, ?_⟩
  · have hparts : ∀ m text,
        (migrate m r text).result.map (fun mig => (mig.keys, mig.assignments.map (·.value), mig.domains)) =
          (readDocument (documentOf (m.payloads (Text.lines text)))).map
            fun said => (said.1.map (·.key), said.1.map (·.value), said.2) := by
      intro m text
      rw [← map_result_migrate m r text]
      cases (migrate m r text).result with
      | error f => rfl
      | ok mig => rfl
    rw [hparts, hparts, h]
  · intro ps hps
    obtain ⟨-, rfl⟩ := result_extract_eq_ok_iff.1 hps
    exact ⟨fun document => document_mem_log_iff, map_result_migrate m₁ r text₁⟩

theorem migrate_of_payloads_eq_other_marker :
    Marker.payloads {} (Text.lines "// CONFIG: \x7bAbstractDomain: Zones,\n// CONFIG: depth: 3\x7d\n") =
      Marker.payloads ⟨"X"⟩ (Text.lines "int x;\r\n# X:\x7bAbstractDomain: Zones,\r\n\n;; X:  depth: 3\x7d \t") ∧
    (migrate ⟨"X"⟩ {} "int x;\r\n# X:\x7bAbstractDomain: Zones,\r\n\n;; X:  depth: 3\x7d \t").result.map
        (fun mig => (mig.keys, mig.assignments.map (·.value), mig.domains)) = .ok (["depth"], ["3"], ["Zones"]) := by
  have hpayloads :
      Marker.payloads {} (Text.lines "// CONFIG: \x7bAbstractDomain: Zones,\n// CONFIG: depth: 3\x7d\n") =
        Marker.payloads ⟨"X"⟩ (Text.lines "int x;\r\n# X:\x7bAbstractDomain: Zones,\r\n\n;; X:  depth: 3\x7d \t") := by
    decide +kernel
  refine ⟨hpayloads, ?_⟩
  rw [← (migrate_of_payloads_eq {} hpayloads).1]
  decide +kernel

end AnalyzerBench.Migration

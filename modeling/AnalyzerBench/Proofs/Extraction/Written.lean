import AnalyzerBench.Proofs.Extraction

/-!
# Payloads that are written out

Payloads can be written out as directives, each on a line of its own (`written`).  If they are trimmed and hold no line
feed, extraction gives them back (`extractText_written`), and what was extracted from a text is of that kind
(`trimmed_of_extractText`).  So payloads survive being written out and extracted again (`extractText_fixpoint`).
-/

namespace AnalyzerBench

open Text (LineEnd)
open Text.Chars (Trimmed)

variable {m : Marker} {opening payload text : String} {items : List (String × LineEnd)} {ps : List String}

/-- The payloads as directives, each behind the opening and a blank on a line with its line end. -/
def written (opening : String) (items : List (String × LineEnd)) : String :=
  String.join (items.map fun (payload, e) => opening ++ " " ++ payload ++ e.text)

theorem extractText_written (hopening : '\n' ∉ opening.toList) (hfind : m.find? opening = some { opening, payload })
    (hitems : ∀ i ∈ items, Trimmed i.1.toList ∧ '\n' ∉ i.1.toList) :
    (extractText m (written opening items)).result = .ok (items.map Prod.fst) := by
  have hlines : ∀ l ∈ items.map (fun (payload, e) => opening ++ " " ++ payload ++ e.text), Text.IsLine l := by
    intro l hl
    obtain ⟨⟨p, e⟩, hi, rfl⟩ := List.mem_map.1 hl
    exact Marker.isLine_written hopening (hitems _ hi).2 e
  have hpayloads : m.payloads (items.map fun (payload, e) => opening ++ " " ++ payload ++ e.text) =
      items.map Prod.fst := by
    refine Marker.payloads_map fun i hi => ?_
    rw [Marker.find?_written hfind (hitems i hi).1, Option.map_some]
  rw [extractText, written, Text.lines_join (Text.areLines_of_isLine hlines), extract,
    result_extractFrom fun l hl => (hlines l hl).isTerminated, hpayloads]

/-- What is extracted from a text can be written out, one payload a line. -/
theorem trimmed_of_extractText (h : (extractText m text).result = .ok ps) :
    ∀ p ∈ ps, Trimmed p.toList ∧ '\n' ∉ p.toList := by
  intro p hp
  refine ⟨?_, not_mem_of_extractText h p hp⟩
  obtain ⟨-, rfl⟩ := result_extract_eq_ok_iff.1 h
  exact Marker.trimmed_of_mem_payloads hp

/-- Payloads without blanks at their ends and without line feeds that are written out as directives, behind an opening
that ends in its first marker, are extracted as they were.  The payloads that are extracted from a text are of this kind,
so they can be written out, with that marker or another and with any line ends, and extracted again. -/
theorem extractText_fixpoint :
    (∀ (m : Marker) (opening payload : String), '\n' ∉ opening.toList → m.find? opening = some { opening, payload } →
      ∀ items : List (String × LineEnd), (∀ i ∈ items, Trimmed i.1.toList ∧ '\n' ∉ i.1.toList) →
        (extractText m (written opening items)).result = .ok (items.map Prod.fst)) ∧
    (∀ (m : Marker) (text : String) (ps : List String), (extractText m text).result = .ok ps →
      ∀ p ∈ ps, Trimmed p.toList ∧ '\n' ∉ p.toList) ∧
    ∀ (m : Marker) (text : String) (ps : List String), (extractText m text).result = .ok ps →
      ∀ (m' : Marker) (opening payload : String), '\n' ∉ opening.toList →
        m'.find? opening = some { opening, payload } → ∀ items : List (String × LineEnd), items.map Prod.fst = ps →
          (extractText m' (written opening items)).result = .ok ps := by
  refine ⟨?_, ?_, ?_⟩
  · intro m opening payload hopening hfind items hitems
    exact extractText_written hopening hfind hitems
  · intro m text ps h
    exact trimmed_of_extractText h
  · rintro m text ps h m' opening payload hopening hfind items rfl
    refine extractText_written hopening hfind fun i hi => ?_
    exact trimmed_of_extractText h i.1 (List.mem_map_of_mem hi)

/-- One payload is empty, the other one holds the marker that it was found behind and the one it is written behind. -/
theorem extractText_fixpoint_marker :
    (extractText { token := ":" } (written "a::" [("", .crlf), (":: b:", .lf)])).result = .ok ["", ":: b:"] ∧
    (extractText {} "a\n// CONFIG: #V: CONFIG:\r\n;CONFIG:\n").result = .ok ["#V: CONFIG:", ""] ∧
    (extractText { token := "V" } (written "#V:" [("#V: CONFIG:", .lf), ("", .crlf)])).result =
      .ok ["#V: CONFIG:", ""] := by
  obtain ⟨hback, -, hagain⟩ := extractText_fixpoint
  have hread : (extractText {} "a\n// CONFIG: #V: CONFIG:\r\n;CONFIG:\n").result = .ok ["#V: CONFIG:", ""] := by
    decide +kernel
  refine ⟨?_, hread, ?_⟩
  · have hitems : ∀ i ∈ [("", LineEnd.crlf), (":: b:", LineEnd.lf)], Trimmed i.1.toList ∧ '\n' ∉ i.1.toList := by
      decide
    exact hback _ "a::" "" (by decide) (by decide) _ hitems
  · exact hagain _ _ _ hread { token := "V" } "#V:" "" (by decide) (by decide) _ rfl

end AnalyzerBench

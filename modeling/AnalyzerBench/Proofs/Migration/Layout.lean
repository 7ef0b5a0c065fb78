import AnalyzerBench.Migration.Layout
import AnalyzerBench.Proofs.Marker

/-!
# The layout of a file with directives

A file has a layout exactly if it holds a directive (`ofLines?_eq_none_iff`), and the layout splits its lines at the
first one (`ofLines?_eq_some`).  In the layout of a text the leading lines are complete, the trailing lines are lines of
one text, and the opening of the block holds no line feed (`Layout.WellFormed`).
-/

namespace AnalyzerBench.Migration

open Text (AreLines IsLine)

variable {m : Marker} {lines : List String} {l : Layout}

namespace Layout

private theorem ofLinesFrom?_eq_some {number : Nat} (h : ofLinesFrom? m number lines = some l) :
    ∃ line after d, lines = l.leading ++ line :: after ∧ (∀ x ∈ l.leading, m.find? x = none) ∧
      m.find? line = some d ∧ l.opening = d.opening ∧ l.lineEnd = .ofLine line ∧
      l.payloads = m.payloads lines ∧ l.trailing = m.ordinary after := by
  induction lines generalizing number l with
  | nil => simp [ofLinesFrom?] at h
  | cons x lines ih =>
    unfold ofLinesFrom? at h
    split at h
    · next d hd =>
      obtain rfl := Option.some.inj h
      refine ⟨x, lines, d, rfl, by simp, hd, rfl, rfl, ?_, rfl⟩
      simp [Marker.payloads, hd]
    · next hx =>
      obtain ⟨k, hk, rfl⟩ := Option.map_eq_some_iff.1 h
      obtain ⟨line, after, d, hlines, hleading, hd, hopening, hend, hpayloads, htrailing⟩ := ih hk
      refine ⟨line, after, d, by simp [hlines], ?_, hd, hopening, hend, ?_, htrailing⟩
      · exact List.forall_mem_cons.2 ⟨hx, hleading⟩
      · simp only [Marker.payloads, List.filterMap_cons, hx, Option.map_none]
        exact hpayloads

/-- A layout splits the lines at the first directive. -/
theorem ofLines?_eq_some (h : ofLines? m lines = some l) :
    ∃ line after d, lines = l.leading ++ line :: after ∧ (∀ x ∈ l.leading, m.find? x = none) ∧
      m.find? line = some d ∧ l.opening = d.opening ∧ l.lineEnd = .ofLine line ∧
      l.payloads = m.payloads lines ∧ l.trailing = m.ordinary after :=
  ofLinesFrom?_eq_some h

/-- The payloads of a layout are those of all directives among the lines. -/
theorem payloads_of_ofLines? (h : ofLines? m lines = some l) : l.payloads = m.payloads lines := by
  obtain ⟨-, -, -, -, -, -, -, -, hpayloads, -⟩ := ofLines?_eq_some h
  exact hpayloads

private theorem ofLinesFrom?_eq_none_iff {number : Nat} :
    ofLinesFrom? m number lines = none ↔ m.payloads lines = [] := by
  induction lines generalizing number with
  | nil => simp [ofLinesFrom?, Marker.payloads]
  | cons x lines ih =>
    unfold ofLinesFrom?
    split
    · next d hd => simp [Marker.payloads, hd]
    · next hx =>
      rw [Option.map_eq_none_iff, ih]
      simp [Marker.payloads, hx]

/-- Lines without a directive have no layout. -/
theorem ofLines?_eq_none_iff : ofLines? m lines = none ↔ m.payloads lines = [] := ofLinesFrom?_eq_none_iff

/-- What holds of the layout of a text. -/
structure WellFormed (l : Layout) (m : Marker) : Prop where
  leading : ∀ x ∈ l.leading, IsLine x
  opening : '\n' ∉ l.opening.toList
  trailing : AreLines l.trailing
  /-- The opening is found again, whatever is written after it. -/
  found : ∀ s, m.find? (l.opening ++ s) = some { opening := l.opening, payload := Text.trim s }
  leading_ordinary : ∀ x ∈ l.leading, m.find? x = none
  trailing_ordinary : ∀ x ∈ l.trailing, m.find? x = none

theorem wellFormed_of_ofLines? (hlines : AreLines lines) (h : ofLines? m lines = some l) : l.WellFormed m := by
  obtain ⟨line, after, d, rfl, hleading, hd, hopening, -, -, htrailing⟩ := ofLines?_eq_some h
  have hafter : AreLines after := by
    have hsplit : AreLines (l.leading ++ [line] ++ after) := by simpa using hlines
    exact hsplit.of_append
  exact {
    leading := hlines.isLine_of_append
    opening := hopening ▸ Marker.not_mem_opening hlines (by simp) hd
    trailing := htrailing ▸ hafter.filter _
    found := fun s => hopening ▸ Marker.find?_opening_append hd s
    leading_ordinary := hleading
    trailing_ordinary := fun x hx => by
      rw [htrailing] at hx
      simpa [Marker.ordinary] using (List.mem_filter.1 hx).2 }

/-- An incomplete line stands after the directives exactly if it is an ordinary line at the end of the file. -/
theorem mem_trailing_open_iff (hlines : AreLines lines) (h : ofLines? m lines = some l) {x : String}
    (hx : Text.isTerminated x = false) : x ∈ l.trailing ↔ x ∈ lines.getLast? ∧ m.find? x = none := by
  obtain ⟨line, after, d, rfl, -, hd, -, -, -, htrailing⟩ := ofLines?_eq_some h
  have hmem : x ∈ l.trailing ↔ x ∈ after ∧ m.find? x = none := by
    rw [htrailing, Marker.ordinary, List.mem_filter, Option.isNone_iff_eq_none]
  rw [hmem]
  constructor
  · rintro ⟨hafter, hnone⟩
    obtain ⟨s, t, hst⟩ := List.append_of_mem hafter
    have hsplit : l.leading ++ line :: after = (l.leading ++ line :: s) ++ x :: t := by simp [hst]
    rw [hsplit] at hlines ⊢
    rw [hlines.eq_nil_of_open hx]
    exact ⟨List.getLast?_concat, hnone⟩
  · rintro ⟨hlast, hnone⟩
    refine ⟨?_, hnone⟩
    rcases List.mem_append.1 (List.mem_of_getLast? hlast) with hleading | hrest
    · have hterminated := (hlines.isLine_of_append x hleading).isTerminated
      rw [hx] at hterminated
      cases hterminated
    · rcases List.mem_cons.1 hrest with rfl | hafter
      · rw [hd] at hnone
        cases hnone
      · exact hafter

end Layout

end AnalyzerBench.Migration

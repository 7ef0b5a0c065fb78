import AnalyzerBench.Check.Entry
import AnalyzerBench.Proofs.Text.Blank
import AnalyzerBench.Proofs.Text.Search
import Mathlib.Data.List.Forall2

/-!
# Reading entries back

An entry is written as `<identifier> -> <value>`.  The lines that are read as an entry hold one in `Normal` form: both
parts are trimmed, and no arrow stands in the identifier (`normal_of_parse?`).  Such an entry is read back from its
line, whatever blanks are put around it (`parse?_surrounded`).  A line holds an entry exactly if it holds an arrow
(`parse?_eq_none_iff`), so it is blank, malformed or an entry, and only one of these (`line_cases`).
-/

namespace AnalyzerBench.Entry

open Text.Chars (FirstCut Trimmed)

/-- Both parts are trimmed, and no arrow stands in the identifier. -/
structure Normal (e : Entry) : Prop where
  identifier : Trimmed e.identifier.toList
  arrow : ¬ "->".toList <:+: e.identifier.toList
  value : Trimmed e.value.toList

/-- The line of an entry. -/
def print (e : Entry) : String := e.identifier ++ " -> " ++ e.value

variable {e : Entry} {line : String} {lines : List String}

/-- An entry is read back, whatever blanks are put around it. -/
theorem parse?_surrounded (h : e.Normal) {before after : String} (hbefore : ∀ c ∈ before.toList, Text.isBlank c = true)
    (hafter : ∀ c ∈ after.toList, Text.isBlank c = true) : parse? (before ++ e.print ++ after) = some e := by
  have hspace : ∀ c ∈ [' '], Text.isBlank c = true := List.all_eq_true.1 (by decide)
  have hnot : ¬ ['-', '>'] <:+: before.toList ++ e.identifier.toList := by
    have hdash : '-' ∉ before.toList := fun hmem => absurd (hbefore '-' hmem) (by decide)
    rw [Text.Chars.append_infix_iff rfl hdash]
    exact h.arrow
  -- The blank after the identifier keeps its last hyphen from being half of the arrow.
  have hfirst := FirstCut.of_separated (by decide : ' ' ∉ ['-', '>']) hnot ([' '] ++ e.value.toList ++ after.toList)
  have hcut : Text.Chars.cutAt? ['-', '>'] (before ++ e.print ++ after).toList =
      some (before.toList ++ e.identifier.toList ++ [' '], [' '] ++ e.value.toList ++ after.toList) := by
    rw [Text.Chars.cutAt?_eq_some_iff, print]
    simpa using hfirst
  have hneedle : "->".toList = ['-', '>'] := rfl
  rw [parse?, Text.cutAt?, hneedle, hcut]
  simp only [Option.map_some, Text.trim, String.toList_ofList, Text.Chars.trim_surrounded h.identifier hbefore hspace,
    Text.Chars.trim_surrounded h.value hspace hafter, String.ofList_toList]

theorem parse?_print (h : e.Normal) : parse? e.print = some e := by
  have hnone : ∀ c ∈ "".toList, Text.isBlank c = true := by simp
  simpa using parse?_surrounded h hnone hnone

theorem normal_of_parse? (h : parse? line = some e) : e.Normal := by
  obtain ⟨_, hsides, rfl⟩ := Option.map_eq_some_iff.1 h
  obtain ⟨⟨before, after⟩, hcut, rfl⟩ := Option.map_eq_some_iff.1 hsides
  have harrow : ¬ "->".toList <:+: before := (Text.Chars.firstCut_of_cutAt? hcut).not_occurs (by decide)
  have htrimmed : ∀ cs : List Char, Trimmed (Text.trim (String.ofList cs)).toList := by
    intro cs
    simpa [Text.trim] using Text.Chars.trimmed_trim cs
  refine ⟨htrimmed before, fun hinfix => ?_, htrimmed after⟩
  obtain ⟨b, a, -, -, hbefore⟩ := Text.Chars.exists_trim_surrounded before
  have hpart : Text.Chars.trim before <:+: before := ⟨b, a, hbefore.symm⟩
  exact harrow (List.IsInfix.trans (by simpa [Text.trim] using hinfix) hpart)

theorem parse_eq_ok (h : parse? line = some e) (number : Nat) :
    parse line number = .ok e := by
  rw [parse, h]

/-! ### Lines -/

/-- A line that is not blank and yet holds no arrow. -/
def Malformed (line : String) : Prop := Text.isAllBlank line = false ∧ ¬ "->".toList <:+: line.toList

/-- The entries that lines hold, in order. -/
def ofLines (lines : List String) : List Entry := lines.filterMap parse?

theorem parse?_eq_none_iff : parse? line = none ↔ ¬ "->".toList <:+: line.toList := by
  rw [parse?, Option.map_eq_none_iff, Text.cutAt?, Option.map_eq_none_iff, Text.Chars.cutAt?_eq_none_iff]

theorem exists_parse?_of_arrow (h : "->".toList <:+: line.toList) : ∃ e, parse? line = some e ∧ e.Normal := by
  cases hparse : parse? line with
  | none => exact absurd h (parse?_eq_none_iff.1 hparse)
  | some e => exact ⟨e, rfl, normal_of_parse? hparse⟩

theorem parse_eq_error (h : parse? line = none) (number : Nat) :
    parse line number = .error (.missingSeparator number (Text.trimEnd line)) := by
  rw [parse, h]

theorem parse?_of_isAllBlank (h : Text.isAllBlank line = true) : parse? line = none := by
  rw [parse?_eq_none_iff]
  intro harrow
  have hdash : '-' ∈ line.toList := harrow.subset (by decide)
  have hblank : Text.isBlank '-' = true := List.all_eq_true.1 h '-' hdash
  exact absurd hblank (by decide)

theorem not_malformed_of_parse? (h : parse? line = some e) : ¬ Malformed line := by
  rintro ⟨-, harrow⟩
  rw [parse?_eq_none_iff.2 harrow] at h
  cases h

theorem not_malformed_of_isAllBlank (h : Text.isAllBlank line = true) : ¬ Malformed line := by
  rintro ⟨hnot, -⟩
  rw [h] at hnot
  cases hnot

theorem line_cases (line : String) :
    Text.isAllBlank line = true ∨ Malformed line ∨ ∃ e, parse? line = some e := by
  by_cases hblank : Text.isAllBlank line = true
  · exact .inl hblank
  · cases hparse : parse? line with
    | none => exact .inr (.inl ⟨by simpa using hblank, parse?_eq_none_iff.1 hparse⟩)
    | some e => exact .inr (.inr ⟨e, rfl⟩)

theorem parse?_trimEnd (line : String) : parse? (Text.trimEnd line) = parse? line :=
  Text.map_cutAt?_trimEnd "->" (c := '>') rfl (by decide) (fun before => Entry.mk (Text.trim before)) line

/-- Blanks at the end of a line have no part in its entry, nor in the fault of a line without one. -/
theorem parse_trimEnd (line : String) (number : Nat) : parse (Text.trimEnd line) number = parse line number := by
  rw [parse, parse, parse?_trimEnd, Text.trimEnd_trimEnd]

theorem normal_of_mem_ofLines (h : e ∈ ofLines lines) : e.Normal := by
  obtain ⟨line, -, hline⟩ := List.mem_filterMap.1 h
  exact normal_of_parse? hline

theorem forall₂_ofLines (h : ∀ l ∈ lines, ∃ e, parse? l = some e) :
    List.Forall₂ (fun l e => parse? l = some e) lines (ofLines lines) := by
  induction lines with
  | nil => exact .nil
  | cons line lines ih =>
    obtain ⟨⟨e, he⟩, hrest⟩ := List.forall_mem_cons.1 h
    have hentries : ofLines (line :: lines) = e :: ofLines lines := by simp [ofLines, he]
    rw [hentries]
    exact .cons he (ih hrest)

theorem ofLines_filter (lines : List String) :
    ofLines (lines.filter fun l => !Text.isAllBlank l) = ofLines lines := by
  unfold ofLines
  rw [List.filterMap_filter]
  refine List.filterMap_congr fun l _ => ?_
  by_cases hblank : Text.isAllBlank l = true
  · simp [hblank, parse?_of_isAllBlank hblank]
  · simp [hblank]

/-- The first entry with a property stands on the first line that holds such an entry. -/
theorem find?_ofLines_eq_some_iff {p : Entry → Bool} :
    (ofLines lines).find? p = some e ↔
      ∃ before line after, lines = before ++ line :: after ∧ parse? line = some e ∧ p e = true ∧
        ∀ l ∈ before, ∀ e ∈ parse? l, p e = false := by
  rw [ofLines, List.find?_filterMap, Option.bind_eq_some_iff]
  constructor
  · rintro ⟨line, hline, he⟩
    obtain ⟨hp, before, after, hlines, hbefore⟩ := List.find?_eq_some_iff_append.1 hline
    rw [he] at hp
    refine ⟨before, line, after, hlines, he, hp, ?_⟩
    intro l hl e' he'
    have hnot := hbefore l hl
    rw [Option.mem_def.1 he'] at hnot
    simpa using hnot
  · rintro ⟨before, line, after, hlines, he, hp, hbefore⟩
    refine ⟨line, List.find?_eq_some_iff_append.2 ⟨by simp [he, hp], before, after, hlines, ?_⟩, he⟩
    intro l hl
    cases hparse : parse? l with
    | none => rfl
    | some e' => simp [hbefore l hl e' hparse]

end AnalyzerBench.Entry

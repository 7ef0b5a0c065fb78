import AnalyzerBench.Marker
import AnalyzerBench.Proofs.Text.Blank
import AnalyzerBench.Proofs.Text.Lines
import AnalyzerBench.Proofs.Text.Octets
import AnalyzerBench.Proofs.Text.Search
import Mathlib.Data.List.Basic

/-!
# Finding directives

A line is cut at the leftmost occurrence of the marker (`find?_eq_some_iff`), which is also the first one among its
octets (`opening_octets`).  So the same opening is found again if other text is put after its colon
(`find?_opening_append`), and a trimmed text there is the payload (`find?_written`).  The lines of a file are either
directives, which have payloads, or ordinary.
-/

namespace AnalyzerBench.Marker

open Text (AreLines IsLine OccursAt)
open Text.Chars (FirstCut)

variable {m : Marker} {line : String} {lines : List String} {d : Directive}

/-- The payloads of the directives among the lines. -/
def payloads (m : Marker) (lines : List String) : List String :=
  lines.filterMap fun l => (m.find? l).map Directive.payload

/-- The lines that are no directives. -/
def ordinary (m : Marker) (lines : List String) : List String := lines.filter fun l => (m.find? l).isNone

@[simp] theorem payloads_append (m : Marker) (ls ms : List String) :
    m.payloads (ls ++ ms) = m.payloads ls ++ m.payloads ms :=
  List.filterMap_append

/-- Directives that are written one by one have the payloads that were written. -/
theorem payloads_map {α : Type} {f g : α → String} {as : List α}
    (h : ∀ a ∈ as, (m.find? (f a)).map Directive.payload = some (g a)) : m.payloads (as.map f) = as.map g := by
  rw [payloads, List.filterMap_map, ← List.filterMap_eq_map]
  exact List.filterMap_congr h

theorem payloads_of_ordinary (h : ∀ l ∈ lines, m.find? l = none) : m.payloads lines = [] :=
  List.filterMap_eq_nil_iff.2 fun l hl => by rw [h l hl, Option.map_none]

/-- A directive is the line cut at the leftmost occurrence of the marker. -/
theorem find?_eq_some_iff :
    m.find? line = some d ↔
      ∃ before after, FirstCut m.needle.toList line.toList before after ∧
        d = { opening := String.ofList before ++ m.needle, payload := String.ofList (Text.Chars.trim after) } := by
  simp only [find?, Text.cutAt?, Option.map_map, Option.map_eq_some_iff, Text.Chars.cutAt?_eq_some_iff, Prod.exists,
    Function.comp, Text.trim, String.toList_ofList]
  constructor
  · rintro ⟨before, after, hcut, rfl⟩
    exact ⟨before, after, hcut, rfl⟩
  · rintro ⟨before, after, hcut, rfl⟩
    exact ⟨before, after, hcut, rfl⟩

theorem trimmed_of_mem_payloads {p : String} (hp : p ∈ m.payloads lines) : Text.Chars.Trimmed p.toList := by
  obtain ⟨line, -, hpayload⟩ := List.mem_filterMap.1 hp
  obtain ⟨d, hd, rfl⟩ := Option.map_eq_some_iff.1 hpayload
  obtain ⟨before, after, -, rfl⟩ := find?_eq_some_iff.1 hd
  rw [String.toList_ofList]
  exact Text.Chars.trimmed_trim after

theorem find?_eq_none_iff : m.find? line = none ↔ ¬ m.needle.toList <:+: line.toList := by
  simp only [find?, Text.cutAt?, Option.map_eq_none_iff, Text.Chars.cutAt?_eq_none_iff]

theorem exists_find?_iff : (∃ d, m.find? line = some d) ↔ m.needle.toList <:+: line.toList := by
  rw [← Option.isSome_iff_exists, ← Option.ne_none_iff_isSome, ne_eq, find?_eq_none_iff, not_not]

theorem isDirective_iff : m.isDirective line = true ↔ m.needle.toList <:+: line.toList := Text.Chars.contains_iff

theorem exists_rest (h : m.find? line = some d) : ∃ rest, line = d.opening ++ rest ∧ d.payload = Text.trim rest := by
  obtain ⟨before, after, hcut, rfl⟩ := find?_eq_some_iff.1 h
  refine ⟨String.ofList after, ?_, by rw [Text.trim, String.toList_ofList]⟩
  rw [← String.toList_inj, hcut.eq]
  simp

/-- The opening is the shortest part of the line that ends in the marker. -/
theorem opening_shortest (h : m.find? line = some d) :
    d.opening.toList <+: line.toList ∧ m.needle.toList <:+ d.opening.toList ∧
      ∀ p, p <+: line.toList → m.needle.toList <:+ p → d.opening.toList <+: p := by
  obtain ⟨before, after, hcut, rfl⟩ := find?_eq_some_iff.1 h
  simp only [String.toList_append, String.toList_ofList]
  exact ⟨⟨after, hcut.eq.symm⟩, ⟨before, rfl⟩, fun p hp hn => hcut.ends_first hp hn⟩

/-- Whatever text is put after the colon of a directive, the same opening is found. -/
theorem find?_opening_append (h : m.find? line = some d) (s : String) :
    m.find? (d.opening ++ s) = some { opening := d.opening, payload := Text.trim s } := by
  obtain ⟨before, after, hcut, rfl⟩ := find?_eq_some_iff.1 h
  rw [find?_eq_some_iff]
  refine ⟨before, s.toList, ?_, rfl⟩
  simpa using hcut.append s.toList

theorem isLine_written {opening payload : String} (hopening : '\n' ∉ opening.toList) (hpayload : '\n' ∉ payload.toList)
    (e : Text.LineEnd) : IsLine (opening ++ " " ++ payload ++ e.text) := by
  have hbody : '\n' ∉ (opening ++ " " ++ payload).toList := by simp [hopening, hpayload]
  exact Text.isLine_append_lineEnd hbody e

/-- A trimmed payload is found on the line that is written for it. -/
theorem find?_written (h : m.find? line = some d) {payload : String} (hpayload : Text.Chars.Trimmed payload.toList)
    (e : Text.LineEnd) :
    m.find? (d.opening ++ " " ++ payload ++ e.text) = some { opening := d.opening, payload } := by
  have hline : d.opening ++ " " ++ payload ++ e.text = d.opening ++ (" " ++ payload ++ e.text) := by
    simp [String.append_assoc]
  have hblank : ∀ c ∈ " ".toList, Text.isBlank c = true := List.all_eq_true.1 (by decide)
  have hend : ∀ c ∈ e.text.toList, Text.isBlank c = true := by
    cases e <;> exact List.all_eq_true.1 (by decide)
  have htrim : Text.trim (" " ++ payload ++ e.text) = payload := by
    rw [Text.trim, String.toList_append, String.toList_append, Text.Chars.trim_surrounded hpayload hblank hend,
      String.ofList_toList]
  rw [hline, find?_opening_append h, htrim]

/-- Blanks at the end of a line have no part in its directive. -/
theorem find?_trimEnd (m : Marker) (line : String) : m.find? (Text.trimEnd line) = m.find? line := by
  have hlast : m.needle.toList.getLast? = some ':' := by simp [needle]
  exact Text.map_cutAt?_trimEnd m.needle hlast (by decide) (fun before => Directive.mk (before ++ m.needle)) line

/-- In a line of a text, no line feed stands before the colon of a directive. -/
theorem not_mem_opening (hls : AreLines lines) (hline : line ∈ lines) (h : m.find? line = some d) :
    '\n' ∉ d.opening.toList := by
  obtain ⟨before, after, hcut, rfl⟩ := find?_eq_some_iff.1 h
  have hbody : line.toList.dropLast = before ++ (m.token.toList ++ (':' :: after).dropLast) := by
    have e : line.toList = (before ++ m.token.toList) ++ ':' :: after := by simp [hcut.eq, needle]
    rw [e, List.dropLast_append_of_ne_nil (by simp), List.append_assoc]
  have hno := hls.not_mem_dropLast hline
  rw [hbody] at hno
  simp only [List.mem_append, not_or] at hno
  simp [needle, hno.1, hno.2.1]

/-- In a line of a text, the payload of a directive holds no line feed. -/
theorem not_mem_payload (hls : AreLines lines) (hline : line ∈ lines) (h : m.find? line = some d) :
    '\n' ∉ d.payload.toList := by
  obtain ⟨before, after, hcut, rfl⟩ := find?_eq_some_iff.1 h
  rw [String.toList_ofList]
  intro hmem
  obtain ⟨u, v, htrim⟩ := List.append_of_mem hmem
  -- What is trimmed does not end in a line feed, so more of the line follows.
  have hv : v ≠ [] := by
    rintro rfl
    have hlast := (Text.Chars.trimmed_trim after).last '\n' (by simp [htrim])
    exact absurd hlast (by decide)
  obtain ⟨b, a, -, -, hafter⟩ := Text.Chars.exists_trim_surrounded after
  have hbody : line.toList = (before ++ m.needle.toList ++ b ++ u ++ ['\n']) ++ (v ++ a) := by
    rw [hcut.eq, hafter, htrim]
    simp
  have hno := hls.not_mem_dropLast hline
  rw [hbody, List.dropLast_append_of_ne_nil (by simp [hv])] at hno
  exact hno (by simp)

/-! ### The place of the marker -/

theorem needle_ne (m : Marker) : m.needle ≠ "" := by
  intro h
  have hlist := congrArg String.toList h
  simp [needle] at hlist

/-- A search through the octets finds the same opening, and it does not cut a character. -/
theorem opening_octets (h : m.find? line = some d) :
    ∃ pos, OccursAt m.needle line pos ∧ (∀ i, OccursAt m.needle line i → pos ≤ i) ∧
      d.opening.utf8ByteSize = pos + m.needle.utf8ByteSize ∧ d.opening.rawEndPos.IsValid line := by
  obtain ⟨-, ⟨before, hbefore⟩, hshortest⟩ := opening_shortest h
  obtain ⟨rest, hline, -⟩ := exists_rest h
  have hopening : d.opening = String.ofList before ++ m.needle := by
    rw [← String.toList_inj, ← hbefore]
    simp
  have hsize : d.opening.utf8ByteSize = (String.ofList before).utf8ByteSize + m.needle.utf8ByteSize := by
    rw [hopening, String.utf8ByteSize_append]
  refine ⟨(String.ofList before).utf8ByteSize, ?_, ?_, hsize, ?_⟩
  · exact (Text.occursAt_iff m.needle_ne).2 ⟨_, rest, by rw [hline, hopening], rfl⟩
  · intro i hi
    obtain ⟨b, a, hba, rfl⟩ := (Text.occursAt_iff m.needle_ne).1 hi
    -- The line up to the end of this occurrence ends in the marker too, so the opening is a part of it.
    have hpart : d.opening.toList <+: (b ++ m.needle).toList :=
      hshortest _ ⟨a.toList, by simp [hba]⟩ ⟨b.toList, by simp⟩
    have hle := Text.utf8ByteSize_le_of_prefix hpart
    rw [hsize, String.utf8ByteSize_append] at hle
    omega
  · exact String.Pos.Raw.isValid_iff_exists_append.2 ⟨d.opening, rest, hline, rfl⟩

/-- A line is a directive exactly if the token with its colon occurs in it.  The opening of a directive is the shortest
part of the line that ends so; it ends between two characters, and no occurrence among the octets of the line comes
before it.  The payload is the trimmed rest of the line, and with any other rest the same opening is found. -/
theorem find?_leftmost (m : Marker) (line : String) :
    (m.isDirective line = true ↔ ∃ d, m.find? line = some d) ∧
    (m.isDirective line = true ↔ (m.token ++ ":").toList <:+: line.toList) ∧
    ∀ d, m.find? line = some d →
      (d.opening.toList <+: line.toList ∧ (m.token ++ ":").toList <:+ d.opening.toList ∧
        ∀ p, p <+: line.toList → (m.token ++ ":").toList <:+ p → d.opening.toList <+: p) ∧
      (∃ rest, line = d.opening ++ rest ∧ d.payload = Text.trim rest) ∧
      (∃ pos, OccursAt (m.token ++ ":") line pos ∧ (∀ i, OccursAt (m.token ++ ":") line i → pos ≤ i) ∧
        d.opening.utf8ByteSize = pos + (m.token ++ ":").utf8ByteSize ∧ d.opening.rawEndPos.IsValid line) ∧
      ∀ s, m.find? (d.opening ++ s) = some { opening := d.opening, payload := Text.trim s } := by
  refine ⟨isDirective_iff.trans exists_find?_iff.symm, isDirective_iff, ?_⟩
  intro d h
  exact ⟨opening_shortest h, exists_rest h, opening_octets h, find?_opening_append h⟩

/-- The marker overlaps itself, and a character of two octets stands before it. -/
theorem find?_leftmost_overlapping :
    find? { token := "::" } "é:::: x\n" = some { opening := "é:::", payload := ": x" } ∧
    OccursAt ":::" "é:::: x\n" 2 ∧ (∀ i, OccursAt ":::" "é:::: x\n" i → 2 ≤ i) ∧
    find? { token := "::" } "é:::::::" = some { opening := "é:::", payload := "::::" } := by
  have hfound : find? { token := "::" } "é:::: x\n" = some { opening := "é:::", payload := ": x" } := by decide
  obtain ⟨-, -, hall⟩ := find?_leftmost { token := "::" } "é:::: x\n"
  obtain ⟨-, -, ⟨pos, hoccurs, hleast, hpos, -⟩, hagain⟩ := hall _ hfound
  obtain rfl : pos = 2 := Nat.add_right_cancel (m := 3) hpos.symm
  exact ⟨hfound, hoccurs, hleast, hagain "::::"⟩

end AnalyzerBench.Marker

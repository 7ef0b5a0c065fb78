import AnalyzerBench.Fixture
import AnalyzerBench.Proofs.Check.Scan
import AnalyzerBench.Proofs.Extraction
import AnalyzerBench.Proofs.SolverLiteral

/-!
# Fixtures are read back

A printed fixture is made of complete lines (`lines_text`).  Its checks are the directives of the file and nothing else
is one, if a name is neither a blank nor a colon (`payloads_text`).  Each payload is an entry for the name and the
literal of the value (`parse?_statement`), so a dump that holds the payloads passes the checks (`check_statements`).
-/

namespace AnalyzerBench.Fixture

open Text.Chars (Trimmed)

variable {m : Marker} {directive payload : String} {name : Char} {names : List Char} {values : List Binary64}

/-- The identifier of a name. -/
def identifier (name : Char) : String := "%" ++ String.singleton name

/-- What a check asks the analyzer to find. -/
def entry (name : Char) (x : Binary64) : Entry := { identifier := identifier name, value := x.encode }

/-- What a check says after the directive's marker. -/
def statement (name : Char) (x : Binary64) : String := identifier name ++ " -> " ++ x.encode

theorem identifier_inj {a b : Char} (h : identifier a = identifier b) : a = b := by
  have hchars := congrArg String.toList h
  simpa [identifier] using hchars

/-! ### Characters -/

private theorem not_mem_names (h : ∀ c ∈ names, Text.isBlank c = false) : '\n' ∉ names := by
  intro hmem
  exact absurd (h _ hmem) (by decide)

private theorem trimmed_identifier (h : Text.isBlank name = false) : Trimmed (identifier name).toList := by
  have hchars : (identifier name).toList = ['%', name] := by simp [identifier]
  rw [hchars]
  constructor
  · intro c hc
    obtain rfl : '%' = c := by simpa using hc
    decide
  · intro c hc
    obtain rfl : name = c := by simpa using hc
    exact h

theorem trimmed_encode (x : Binary64) : Trimmed x.encode.toList := by
  rw [Binary64.encode, SolverLiteral.print, String.toList_ofList]
  exact SolverLiteral.trimmed_chars _

private theorem not_mem_encode (x : Binary64) : '\n' ∉ x.encode.toList := by
  have hdigits : ∀ base width n, 0 < base → base ≤ 16 → '\n' ∉ Text.fixedDigits base width n := by
    intro base width n hpos hb hmem
    obtain ⟨d, hd, hchar⟩ := Text.mem_fixedDigits hpos hmem
    have hall : ∀ d < 16, '\n' ≠ Nat.digitChar d := by decide
    exact hall d (by omega) hchar
  rw [Binary64.encode, SolverLiteral.print, String.toList_ofList]
  simp [SolverLiteral.chars, hdigits]

private theorem not_mem_constant (x : Binary64) {c : Char} (hc : ∀ d < 16, c ≠ (Nat.digitChar d).toUpper) :
    c ∉ (constant x).toList := by
  rw [constant, String.toList_ofList, List.mem_map]
  rintro ⟨y, hy, rfl⟩
  obtain ⟨d, hd, rfl⟩ := Text.mem_fixedDigits (by decide) hy
  exact hc d hd rfl

/-! ### Lines -/

private theorem not_mem_check (hdirective : '\n' ∉ directive.toList) (hname : '\n' ≠ name) (x : Binary64) :
    '\n' ∉ (check directive name x).toList := by
  simp [check, hdirective, hname, not_mem_encode]

private theorem not_mem_instruction {c : Char} (hname : c ≠ name) (hc : ∀ d < 16, c ≠ (Nat.digitChar d).toUpper)
    (htext : c ∉ "% = fadd double 0.0, 0x".toList) (x : Binary64) : c ∉ (instruction name x).toList := by
  have hconstant := not_mem_constant x hc
  simp only [String.reduceToList, List.mem_cons, List.not_mem_nil, or_false, not_or] at htext
  simp [instruction, hname, hconstant, htext]

/-- The lines of a printed fixture. -/
theorem lines_text (hdirective : '\n' ∉ directive.toList) (hnames : '\n' ∉ names) :
    Text.lines (ofPairs directive names values).text =
      (((names.zip values).map fun p => check directive p.1 p.2) ++ [""] ++
        (names.zip values).map fun p => instruction p.1 p.2).map (· ++ "\n") := by
  have hname : ∀ p ∈ names.zip values, '\n' ≠ p.1 := by
    rintro p hp heq
    exact hnames (heq ▸ (List.of_mem_zip hp).1)
  have hlf : ∀ d < 16, '\n' ≠ (Nat.digitChar d).toUpper := by decide
  rw [text]
  refine Text.lines_join_lf fun s hs => ?_
  simp only [ofPairs, List.mem_append, List.mem_map, List.mem_singleton] at hs
  rcases hs with (⟨p, hp, rfl⟩ | rfl) | ⟨p, hp, rfl⟩
  · exact not_mem_check hdirective (hname p hp) p.2
  · simp
  · exact not_mem_instruction (hname p hp) hlf (by decide) p.2

/-! ### Directives -/

private theorem find?_check (hfind : m.find? directive = some { opening := directive, payload }) (name : Char)
    (x : Binary64) :
    m.find? (check directive name x ++ "\n") = some { opening := directive, payload := statement name x } := by
  have hline : check directive name x ++ "\n" = directive ++ " " ++ statement name x ++ Text.LineEnd.lf.text := by
    rw [← String.toList_inj]
    simp [check, statement, identifier, Text.LineEnd.text]
  have htrimmed : Trimmed (statement name x).toList := by
    constructor
    · intro c hc
      obtain rfl : '%' = c := by simpa [statement, identifier] using hc
      decide
    · intro c hc
      have hlast : (statement name x).toList.getLast? = x.encode.toList.getLast? := by
        have hne : x.encode.toList ≠ [] := by simp [Binary64.encode, SolverLiteral.print, SolverLiteral.chars]
        rw [statement, String.toList_append, List.getLast?_append_of_ne_nil _ hne]
      rw [hlast] at hc
      exact (trimmed_encode x).last c hc
  rw [hline, Marker.find?_written hfind htrimmed]

/-- Without a colon there is no directive. -/
private theorem find?_of_not_mem {line : String} (h : ':' ∉ line.toList) : m.find? line = none := by
  rw [Marker.find?_eq_none_iff]
  intro hneedle
  exact h (hneedle.subset (by simp [Marker.needle]))

/-- The payloads of a printed fixture are those of its checks. -/
theorem payloads_text (hdirective : '\n' ∉ directive.toList)
    (hfind : m.find? directive = some { opening := directive, payload })
    (hnames : ∀ c ∈ names, Text.isBlank c = false ∧ c ≠ ':') :
    m.payloads (Text.lines (ofPairs directive names values).text) =
      (names.zip values).map fun p => statement p.1 p.2 := by
  have hname : ∀ p ∈ names.zip values, Text.isBlank p.1 = false ∧ p.1 ≠ ':' :=
    fun p hp => hnames _ (List.of_mem_zip hp).1
  have hchecks : m.payloads (((names.zip values).map fun p => check directive p.1 p.2).map (· ++ "\n")) =
      (names.zip values).map fun p => statement p.1 p.2 := by
    rw [List.map_map]
    refine Marker.payloads_map fun p _ => ?_
    rw [Function.comp_apply, find?_check hfind, Option.map_some]
  have hcolon : ∀ d < 16, ':' ≠ (Nat.digitChar d).toUpper := by decide
  have hothers : ∀ l ∈ ([""] ++ (names.zip values).map fun p => instruction p.1 p.2).map (· ++ "\n"),
      m.find? l = none := by
    intro l hl
    obtain ⟨s, hs, rfl⟩ := List.mem_map.1 hl
    refine find?_of_not_mem ?_
    simp only [List.mem_append, List.mem_map, List.mem_singleton] at hs
    rcases hs with rfl | ⟨p, hp, rfl⟩
    · decide
    · have hinstruction := not_mem_instruction (Ne.symm (hname p hp).2) hcolon (by decide) p.2
      simp [hinstruction]
  rw [lines_text hdirective (not_mem_names fun c hc => (hnames c hc).1), List.append_assoc, List.map_append,
    Marker.payloads_append, hchecks, Marker.payloads_of_ordinary hothers, List.append_nil]

theorem extractText_text (hdirective : '\n' ∉ directive.toList)
    (hfind : m.find? directive = some { opening := directive, payload })
    (hnames : ∀ c ∈ names, Text.isBlank c = false ∧ c ≠ ':') :
    (extractText m (ofPairs directive names values).text).result =
      .ok ((names.zip values).map fun p => statement p.1 p.2) := by
  have hterminated : ∀ l ∈ Text.lines (ofPairs directive names values).text, Text.isTerminated l = true := by
    intro l hl
    rw [lines_text hdirective (not_mem_names fun c hc => (hnames c hc).1)] at hl
    obtain ⟨s, -, rfl⟩ := List.mem_map.1 hl
    simp [Text.isTerminated]
  rw [extractText, extract, result_extractFrom hterminated, payloads_text hdirective hfind hnames]

/-! ### Entries -/

/-- A payload is read as the entry that the check asks for. -/
theorem parse?_statement (h : Text.isBlank name = false) (x : Binary64) :
    Entry.parse? (statement name x) = some (entry name x) := by
  -- The name may be half an arrow, but the percent sign before it is none.
  have harrow : ¬ "->".toList <:+: (identifier name).toList := by
    rintro ⟨s, t, hst⟩
    have hlength := congrArg List.length hst
    simp only [identifier, String.toList_append, String.toList_singleton, List.length_append] at hlength
    have hs : s = [] := List.length_eq_zero_iff.1 (by simp at hlength; omega)
    simp [identifier, hs] at hst
  have hnormal : (entry name x).Normal := ⟨trimmed_identifier h, harrow, trimmed_encode x⟩
  have hline : statement name x = (entry name x).print := by rw [statement, Entry.print, entry]
  rw [hline, Entry.parse?_print hnormal]

/-- A literal is no word of the lattice. -/
private theorem encode_ne (x : Binary64) {s : String} (hs : '(' ∉ s.toList.head?) : x.encode ≠ s := by
  rintro rfl
  exact hs (by simp [Binary64.encode, SolverLiteral.print, SolverLiteral.chars])

private theorem isTop_entry (name : Char) (x : Binary64) : (entry name x).isTop = false := by
  rw [Bool.eq_false_iff, ne_eq, Entry.isTop_iff]
  exact encode_ne x (by decide)

private theorem isBottom_entry (name : Char) (x : Binary64) : (entry name x).isBottom = false := by
  rw [Bool.eq_false_iff, ne_eq, Entry.isBottom_iff]
  exact encode_ne x (by decide)

/-! ### Checks -/

/-- Checking a dump that holds the payloads is feeding the entries. -/
theorem result_check_statements (hnames : ∀ c ∈ names, Text.isBlank c = false) (x? : Option Expectation) :
    (AnalyzerBench.check ((names.zip values).map fun p => statement p.1 p.2) x?).result =
      .ok (({ expectation := x? } : Checker).feed ((names.zip values).map fun p => entry p.1 p.2)).finish := by
  have hparse : ∀ p ∈ names.zip values, Entry.parse? (statement p.1 p.2) = some (entry p.1 p.2) :=
    fun p hp => parse?_statement (hnames _ (List.of_mem_zip hp).1) p.2
  have hwell : ∀ l ∈ (names.zip values).map fun p => statement p.1 p.2, ¬ Entry.Malformed l := by
    intro l hl
    obtain ⟨p, hp, rfl⟩ := List.mem_map.1 hl
    exact Entry.not_malformed_of_parse? (hparse p hp)
  have hentries : Entry.ofLines ((names.zip values).map fun p => statement p.1 p.2) =
      (names.zip values).map fun p => entry p.1 p.2 := by
    rw [Entry.ofLines, List.filterMap_map, ← List.filterMap_eq_map]
    exact List.filterMap_congr hparse
  rw [Checker.result_check_of_forall_not_faultAt (Checker.not_faultAt_of_forall hwell), hentries]

/-- The first entry of a name passes the check of its value. -/
theorem check_statements (hnames : ∀ c ∈ names, Text.isBlank c = false) {i : Nat} {x : Binary64}
    (hi : (names.zip values)[i]? = some (name, x)) (hfirst : ∀ j < i, names[j]? ≠ some name) :
    ∃ report,
      (AnalyzerBench.check ((names.zip values).map fun p => statement p.1 p.2)
        (some { target := identifier name, expected := x.encode })).result = .ok report ∧
      report.verdict = .pass ∧ report.bottoms = [] ∧ report.scanned = i + 1 := by
  have hget : ((names.zip values).map fun p => entry p.1 p.2)[i]? = some (entry name x) := by simp [hi]
  have hothers : ∀ j < i, ∀ e, ((names.zip values).map fun p => entry p.1 p.2)[j]? = some e →
      e.identifier ≠ identifier name := by
    intro j hj e he hname
    rw [List.getElem?_map, Option.map_eq_some_iff] at he
    obtain ⟨p, hp, rfl⟩ := he
    have hsame : p.1 = name := identifier_inj hname
    exact hfirst j hj (hsame ▸ (List.getElem?_zip_eq_some.1 hp).1)
  have hbottoms : ∀ n, (((names.zip values).map fun p => entry p.1 p.2).take n).filter Entry.isBottom = [] := by
    intro n
    rw [List.filter_eq_nil_iff]
    intro e he
    obtain ⟨p, -, rfl⟩ := List.mem_map.1 (List.mem_of_mem_take he)
    simp [isBottom_entry]
  obtain ⟨hscanned, hfound, hverdict⟩ :=
    Checker.finish_feed_target (x := { target := identifier name, expected := x.encode }) hget rfl hothers
  refine ⟨_, result_check_statements hnames _, ?_, ?_, hscanned⟩
  · rw [hverdict, isTop_entry]
    simp [entry]
  · rw [hfound, hbottoms, List.map_nil]

/-- A printed fixture is read back through its directives: one payload for each check, the entry of its name and its
value bit for bit.  A dump of the payloads passes the check of every name that has its first value. -/
theorem extractText_checks (hdirective : '\n' ∉ directive.toList)
    (hfind : m.find? directive = some { opening := directive, payload })
    (hnames : ∀ c ∈ names, Text.isBlank c = false ∧ c ≠ ':') (values : List Binary64) :
    ∃ payloads,
      (extractText m (ofPairs directive names values).text).result = .ok payloads ∧
      payloads.length = (ofPairs directive names values).checks.length ∧
      ∀ i name x, names[i]? = some name → values[i]? = some x →
        (∃ p e l, payloads[i]? = some p ∧ (∀ number, Entry.parse p number = .ok e) ∧
          e.identifier = "%" ++ String.singleton name ∧ SolverLiteral.parse e.value = .ok l ∧ l.toBits = x.bits) ∧
        ((∀ j < i, names[j]? ≠ some name) →
          ∃ report,
            (AnalyzerBench.check payloads
              (some { target := "%" ++ String.singleton name, expected := x.encode })).result = .ok report ∧
            report.verdict = .pass ∧ report.bottoms = [] ∧ report.scanned = i + 1) := by
  have hblank : ∀ c ∈ names, Text.isBlank c = false := fun c hc => (hnames c hc).1
  refine ⟨_, extractText_text hdirective hfind hnames, by simp [ofPairs], fun i name x hname hx => ⟨?_, ?_⟩⟩
  · have hi : (names.zip values)[i]? = some (name, x) := List.getElem?_zip_eq_some.2 ⟨hname, hx⟩
    have hread := parse?_statement (hblank name (List.mem_of_getElem? hname)) x
    exact ⟨statement name x, entry name x, .ofDouble x, by simp [hi], fun number => Entry.parse_eq_ok hread number, rfl,
      SolverLiteral.parse_encode x, SolverLiteral.toBits_ofDouble x⟩
  · intro hfirst
    exact check_statements hblank (List.getElem?_zip_eq_some.2 ⟨hname, hx⟩) hfirst

/-- Two of the names are the same and a third one is half an arrow; the values are a NaN with a payload, a negative zero
and a subnormal. -/
theorem extractText_checks_repeated_name :
    ∃ payloads,
      (extractText ⟨"V"⟩ (ofPairs "; V:" ['a', '-', 'a'] [⟨0x7FF8000000000001⟩, ⟨0x8000000000000000⟩, ⟨1⟩]).text).result =
        .ok payloads ∧
      (∃ p e l, payloads[2]? = some p ∧ (∀ number, Entry.parse p number = .ok e) ∧ e.identifier = "%a" ∧
        SolverLiteral.parse e.value = .ok l ∧ l.toBits = 1) ∧
      ∃ report,
        (AnalyzerBench.check payloads (some ⟨"%-", "(fp #b1 #b00000000000 #x0000000000000)"⟩)).result = .ok report ∧
        report.verdict = .pass ∧ report.bottoms = [] ∧ report.scanned = 2 := by
  have hfind : Marker.find? ⟨"V"⟩ "; V:" = some { opening := "; V:", payload := "" } := by decide
  have hnames : ∀ c ∈ ['a', '-', 'a'], Text.isBlank c = false ∧ c ≠ ':' :=
    List.forall_mem_cons.2 ⟨by decide, List.forall_mem_cons.2 ⟨by decide, List.forall_mem_singleton.2 (by decide)⟩⟩
  obtain ⟨payloads, hextract, -, hall⟩ :=
    extractText_checks (by decide) hfind hnames [⟨0x7FF8000000000001⟩, ⟨0x8000000000000000⟩, ⟨1⟩]
  have hencode : (⟨0x8000000000000000⟩ : Binary64).encode = "(fp #b1 #b00000000000 #x0000000000000)" := by
    decide +kernel
  obtain ⟨hread, -⟩ := hall 2 'a' ⟨1⟩ rfl rfl
  obtain ⟨-, hcheck⟩ := hall 1 '-' ⟨0x8000000000000000⟩ rfl rfl
  rw [hencode] at hcheck
  exact ⟨payloads, hextract, hread, hcheck (by decide)⟩

end AnalyzerBench.Fixture

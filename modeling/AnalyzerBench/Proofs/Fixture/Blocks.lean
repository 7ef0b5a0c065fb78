import AnalyzerBench.Proofs.Fixture

/-!
# The two blocks of a fixture

The check and the instruction at one place of a fixture spell the same bits for the same name, once as a literal and once
as a row of digits.  There are as many checks as instructions, so the empty line between them stands in the middle of the
printed text, even if neither block has a line, and the text determines the fixture (`ofPairs_blocks`).
-/

namespace AnalyzerBench.Fixture

open Text (valueOf)

variable {directive directive' : String} {names names' : List Char} {values values' : List Binary64} {x y : Binary64}

/-! ### Constants -/

private theorem mem_constant {c : Char} (hc : c ∈ (constant x).toList) : c ∈ "0123456789ABCDEF".toList := by
  have hall : ∀ d < 16, (Nat.digitChar d).toUpper ∈ "0123456789ABCDEF".toList := by decide
  rw [constant, String.toList_ofList, List.mem_map] at hc
  obtain ⟨digit, hdigit, rfl⟩ := hc
  obtain ⟨d, hd, rfl⟩ := Text.mem_fixedDigits (by decide) hdigit
  exact hall d hd

private theorem length_constant (x : Binary64) : (constant x).toList.length = 16 := by
  rw [constant, String.toList_ofList, List.length_map, Text.length_fixedDigits]

private theorem valueOf_constant (x : Binary64) : valueOf 16 (constant x).toList = x.bits.toNat := by
  have hall : ∀ d < 16, (Nat.digitChar d).toUpper.toLower = (Nat.digitChar d).toLower := by decide
  have hcase : ((Text.fixedDigits 16 16 x.bits.toNat).map Char.toUpper).map Char.toLower =
      (Text.fixedDigits 16 16 x.bits.toNat).map Char.toLower := by
    rw [List.map_map]
    refine List.map_congr_left fun digit hdigit => ?_
    obtain ⟨d, hd, rfl⟩ := Text.mem_fixedDigits (by decide) hdigit
    exact hall d hd
  have hfits : x.bits.toNat < 16 ^ 16 := UInt64.toNat_lt x.bits
  rw [constant, String.toList_ofList, Text.valueOf_congr 16 hcase, Text.valueOf_fixedDigits (by decide) hfits]

private theorem instruction_inj {a b : Char} (h : instruction a x = instruction b y) : a = b ∧ x = y := by
  have hchars := congrArg String.toList h
  simp only [instruction, String.toList_append, String.toList_singleton, List.append_assoc] at hchars
  obtain ⟨hname, hrest⟩ := List.append_inj (List.append_cancel_left hchars) rfl
  have hconstant : (constant x).toList = (constant y).toList := List.append_cancel_left hrest
  have hbits : x.bits.toNat = y.bits.toNat := by rw [← valueOf_constant x, hconstant, valueOf_constant y]
  obtain ⟨bits⟩ := x
  obtain ⟨bits'⟩ := y
  exact ⟨List.singleton_inj.1 hname, congrArg Binary64.mk (UInt64.toNat_inj.1 hbits)⟩

/-! ### Blocks -/

/-- Two rows of one length on either side of an empty line are told apart by that line. -/
private theorem blocks_inj {as bs cs ds : List String} (h : as ++ [""] ++ bs = cs ++ [""] ++ ds)
    (hl : as.length = bs.length) (hl' : cs.length = ds.length) : as = cs ∧ bs = ds := by
  have hlength := congrArg List.length h
  simp only [List.length_append, List.length_singleton] at hlength
  have hsame : as.length = cs.length := by omega
  obtain ⟨hleft, hright⟩ := List.append_inj h (by simp [hsame])
  exact ⟨(List.append_inj hleft hsame).1, hright⟩

/-- Fixtures that are printed alike have the same blocks. -/
private theorem blocks_of_text (hlf : '\n' ∉ directive.toList ∧ '\n' ∉ names)
    (hlf' : '\n' ∉ directive'.toList ∧ '\n' ∉ names')
    (h : (ofPairs directive names values).text = (ofPairs directive' names' values').text) :
    ((names.zip values).map fun p => check directive p.1 p.2) =
        ((names'.zip values').map fun p => check directive' p.1 p.2) ∧
      ((names.zip values).map fun p => instruction p.1 p.2) =
        ((names'.zip values').map fun p => instruction p.1 p.2) := by
  have hlines := congrArg Text.lines h
  rw [lines_text hlf.1 hlf.2, lines_text hlf'.1 hlf'.2] at hlines
  have hblocks := (List.map_inj_right fun _ _ hsame => (String.append_left_inj "\n").1 hsame).1 hlines
  exact blocks_inj hblocks (by simp) (by simp)

private theorem directive_eq {p : Char × Binary64} {ps : List (Char × Binary64)}
    (h : (p :: ps).map (fun p => check directive p.1 p.2) = (p :: ps).map fun p => check directive' p.1 p.2) :
    directive = directive' := by
  have hhead : check directive p.1 p.2 = check directive' p.1 p.2 := (List.cons.inj h).1
  simp only [check, String.append_assoc] at hhead
  exact (String.append_left_inj _).1 hhead

/-- A fixture has as many checks as instructions, one of both for each pair of a name and a value.  They name the same
name; the literal of the one and the digits of the other spell the bits of the value.  Printed, the checks and the
instructions are lines of their own with one empty line between them, so fixtures that are printed alike are equal, and
so are the pairs and, if there are any, the directives that they were made from. -/
theorem ofPairs_blocks (directive : String) (names : List Char) (values : List Binary64) :
    (ofPairs directive names values).checks.length = min names.length values.length ∧
    (ofPairs directive names values).instructions.length = min names.length values.length ∧
    (∀ (i : Nat) (name : Char) (x : Binary64), names[i]? = some name → values[i]? = some x →
      ∃ literal l digits,
        (ofPairs directive names values).checks[i]? =
          some (directive ++ " %" ++ String.singleton name ++ " -> " ++ literal) ∧
        (ofPairs directive names values).instructions[i]? =
          some ("%" ++ String.singleton name ++ " = fadd double 0.0, 0x" ++ digits) ∧
        SolverLiteral.parse literal = .ok l ∧ l.toBits = x.bits ∧
        digits.toList.length = 16 ∧ (∀ c ∈ digits.toList, c ∈ "0123456789ABCDEF".toList) ∧
        valueOf 16 digits.toList = x.bits.toNat) ∧
    ('\n' ∉ directive.toList → '\n' ∉ names →
      Text.lines (ofPairs directive names values).text =
        ((ofPairs directive names values).checks ++ [""] ++ (ofPairs directive names values).instructions).map
          (· ++ "\n") ∧
      ∀ (directive' : String) (names' : List Char) (values' : List Binary64),
        '\n' ∉ directive'.toList → '\n' ∉ names' →
        (ofPairs directive names values).text = (ofPairs directive' names' values').text →
        ofPairs directive names values = ofPairs directive' names' values' ∧
          names.zip values = names'.zip values' ∧ (names.zip values ≠ [] → directive = directive')) := by
  refine ⟨by simp [ofPairs], by simp [ofPairs], ?_, ?_⟩
  · intro i name x hname hx
    have hi : (names.zip values)[i]? = some (name, x) := List.getElem?_zip_eq_some.2 ⟨hname, hx⟩
    refine ⟨x.encode, .ofDouble x, constant x, ?_, ?_, SolverLiteral.parse_encode x, SolverLiteral.toBits_ofDouble x,
      length_constant x, fun c => mem_constant, valueOf_constant x⟩
    · simp [ofPairs, hi, check]
    · simp [ofPairs, hi, instruction]
  · intro hdirective hnames
    refine ⟨lines_text hdirective hnames, ?_⟩
    intro directive' names' values' hdirective' hnames' htext
    obtain ⟨hchecks, hinstructions⟩ := blocks_of_text ⟨hdirective, hnames⟩ ⟨hdirective', hnames'⟩ htext
    have hpairs : names.zip values = names'.zip values' := by
      refine (List.map_inj_right fun p q hsame => ?_).1 hinstructions
      obtain ⟨hname, hx⟩ := instruction_inj hsame
      exact Prod.ext hname hx
    have hfixtures : ofPairs directive names values = ofPairs directive' names' values' := by
      show Fixture.mk _ _ = Fixture.mk _ _
      exact congrArg₂ Fixture.mk hchecks hinstructions
    refine ⟨hfixtures, hpairs, ?_⟩
    intro hne
    obtain ⟨p, ps, hcons⟩ := List.exists_cons_of_ne_nil hne
    rw [← hpairs, hcons] at hchecks
    exact directive_eq hchecks

/-- A name too many and a value too many make the same fixture; the name is a percent sign and the value a NaN with a
payload. -/
theorem ofPairs_blocks_surplus :
    (∃ literal l digits,
      (ofPairs ";" ['%', 'b'] [⟨0xFFF80000000000AB⟩]).checks[0]? = some ("; %% -> " ++ literal) ∧
      (ofPairs ";" ['%', 'b'] [⟨0xFFF80000000000AB⟩]).instructions[0]? = some ("%% = fadd double 0.0, 0x" ++ digits) ∧
      SolverLiteral.parse literal = .ok l ∧ l.toBits = 0xFFF80000000000AB ∧
      valueOf 16 digits.toList = 0xFFF80000000000AB) ∧
    ofPairs ";" ['%', 'b'] [⟨0xFFF80000000000AB⟩] = ofPairs ";" ['%'] [⟨0xFFF80000000000AB⟩, ⟨0⟩] := by
  obtain ⟨-, -, hall, htext⟩ := ofPairs_blocks ";" ['%', 'b'] [⟨0xFFF80000000000AB⟩]
  obtain ⟨literal, l, digits, hcheck, hinstruction, hparse, hbits, -, -, hvalue⟩ := hall 0 '%' _ rfl rfl
  obtain ⟨-, hsame⟩ := htext (by decide) (by decide)
  obtain ⟨hfixtures, -, -⟩ := hsame ";" ['%'] [⟨0xFFF80000000000AB⟩, ⟨0⟩] (by decide) (by decide) (by decide +kernel)
  exact ⟨⟨literal, l, digits, hcheck, hinstruction, hparse, hbits, hvalue⟩, hfixtures⟩

end AnalyzerBench.Fixture

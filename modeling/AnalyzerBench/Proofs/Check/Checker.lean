import AnalyzerBench.Check.Checker

/-!
# What a checker has found out

Feeding entries to a new checker leaves it in a state that can be written down (`feed_eq`): it has looked at the
entries up to the first one of the target, has reported the bottoms among them, and after them the finding about the
target if that entry was there.  The verdict is read off the last finding, so it is that of the first entry of the
target (`verdict_finish_feed`).
-/

namespace AnalyzerBench

/-- Whether an entry is that of the target; without an expectation none is. -/
def Expectation.isTarget (x? : Option Expectation) (e : Entry) : Bool := x?.any fun x => e.identifier == x.target

namespace Report

variable {ds : List Diagnostic} {f : Diagnostic} {v : Verdict}

theorem verdict_concat (hf : f.verdict? = some v) (scanned : Nat) :
    Report.verdict { diagnostics := ds ++ [f], scanned } = v := by
  simp [verdict, hf]

theorem verdict_of_bottoms (h : ∀ d ∈ ds, d.verdict? = none) (scanned : Nat) :
    Report.verdict { diagnostics := ds, scanned } = .unchecked := by
  have hnone : ds.reverse.findSome? Diagnostic.verdict? = none := by simpa using h
  simp [verdict, hnone]

end Report

theorem Entry.isTop_iff {e : Entry} : e.isTop = true ↔ e.value = "top" := by simp [isTop, top]

theorem Entry.isBottom_iff {e : Entry} : e.isBottom = true ↔ e.value = "bottom" := by simp [isBottom, bottom]

theorem Entry.filter_isBottom (es : List Entry) : es.filter isBottom = es.filter fun e => e.value = "bottom" := by
  refine List.filter_congr fun e _ => ?_
  rw [Bool.eq_iff_iff, isBottom_iff, decide_eq_true_iff]

/-- The verdict on a target that has the value of an entry. -/
theorem Expectation.verdict?_compare (x : Expectation) (e : Entry) :
    (x.compare e).verdict? = some (if e.isTop then .sound else if e.value = x.expected then .pass else .fail) := by
  unfold Expectation.compare
  by_cases htop : e.isTop = true
  · simp [htop, Diagnostic.verdict?]
  · by_cases hvalue : e.value = x.expected
    · simp [htop, hvalue, Diagnostic.verdict?]
    · simp [htop, hvalue, Diagnostic.verdict?]

theorem Expectation.bottom?_compare (x : Expectation) (e : Entry) : (x.compare e).bottom? = none := by
  unfold Expectation.compare
  split
  · rfl
  · split
    · rfl
    · rfl

namespace Checker

variable {x? : Option Expectation} {es : List Entry} {e : Entry}

/-- How many of the entries are looked at. -/
def countLooked (x? : Option Expectation) (es : List Entry) : Nat :=
  match es.findIdx? (Expectation.isTarget x?) with
  | some i => i + 1
  | none => es.length

/-- The findings about bottoms among entries. -/
def bottomsAmong (es : List Entry) : List Diagnostic := (es.filter Entry.isBottom).map fun e => .bottom e.identifier

/-- The finding about the target, if one of the entries is that of the target. -/
def targetFinding? (x? : Option Expectation) (es : List Entry) : Option Diagnostic :=
  x?.bind fun x => (es.find? fun e => e.identifier == x.target).map x.compare

theorem countLooked_cons_target (h : Expectation.isTarget x? e = true) (es : List Entry) :
    countLooked x? (e :: es) = 1 := by
  simp [countLooked, List.findIdx?_cons, h]

theorem countLooked_cons_other (h : Expectation.isTarget x? e = false) (es : List Entry) :
    countLooked x? (e :: es) = countLooked x? es + 1 := by
  unfold countLooked
  rw [List.findIdx?_cons, h]
  cases es.findIdx? (Expectation.isTarget x?) with
  | none => rfl
  | some i => rfl

theorem countLooked_none (es : List Entry) : countLooked none es = es.length := by
  have hnone : es.findIdx? (Expectation.isTarget none) = none := by
    simp [List.findIdx?_eq_none_iff, Expectation.isTarget]
  rw [countLooked, hnone]

theorem countLooked_le_length (x? : Option Expectation) (es : List Entry) : countLooked x? es ≤ es.length := by
  unfold countLooked
  split
  · next i hi =>
    obtain ⟨hlt, -⟩ := List.findIdx?_eq_some_iff_getElem.1 hi
    omega
  · exact Nat.le_refl _

theorem targetFinding?_cons_other (h : Expectation.isTarget x? e = false) (es : List Entry) :
    targetFinding? x? (e :: es) = targetFinding? x? es := by
  cases x? with
  | none => rfl
  | some x =>
    have hne : (e.identifier == x.target) = false := by simpa [Expectation.isTarget] using h
    simp [targetFinding?, hne]

theorem isSome_targetFinding?_iff :
    (targetFinding? x? es).isSome = true ↔ ∃ x, x? = some x ∧ ∃ e ∈ es, e.identifier = x.target := by
  cases x? with
  | none => simp [targetFinding?]
  | some x => simp [targetFinding?]

/-! ### Steps and runs -/

/-- A checker that is done ignores entries. -/
theorem step_done {c : Checker} (h : c.state = .done) (e : Entry) : c.step e = c := by
  unfold step
  rw [h]

theorem feed_done {c : Checker} (h : c.state = .done) (es : List Entry) : c.feed es = c := by
  induction es with
  | nil => rfl
  | cons e es ih =>
    have hstep : c.feed (e :: es) = (c.step e).feed es := rfl
    rw [hstep, step_done h, ih]

theorem step_scanning (x? : Option Expectation) (r : Report) (e : Entry) :
    Checker.step { expectation := x?, state := .scanning, report := r } e =
      { expectation := x?
        state := if (targetFinding? x? [e]).isSome then .done else .scanning
        report :=
          { diagnostics := r.diagnostics ++ bottomsAmong [e] ++ (targetFinding? x? [e]).toList
            scanned := r.scanned + 1 } } := by
  have hfinding : finding? { expectation := x?, state := .scanning, report := r } e = targetFinding? x? [e] := by
    cases x? with
    | none => rfl
    | some x =>
      by_cases htarget : e.identifier = x.target
      · simp [finding?, targetFinding?, htarget]
      · simp [finding?, targetFinding?, htarget]
  have hbottoms : (if e.isBottom = true then [Diagnostic.bottom e.identifier] else []) = bottomsAmong [e] := by
    by_cases hbottom : e.isBottom = true
    · simp [bottomsAmong, hbottom]
    · simp [bottomsAmong, hbottom]
  simp only [step, hfinding, hbottoms]

@[simp] theorem expectation_step (c : Checker) (e : Entry) : (c.step e).expectation = c.expectation := by
  unfold step
  split <;> rfl

/-- Only an entry of the target ends a check. -/
theorem state_step (c : Checker) (e : Entry) :
    (c.step e).state = if Expectation.isTarget c.expectation e then .done else c.state := by
  obtain ⟨x?, state, report⟩ := c
  cases state with
  | done => simp [step]
  | scanning =>
    rw [step_scanning]
    cases x? with
    | none => rfl
    | some x =>
      by_cases hx : e.identifier = x.target
      · simp [targetFinding?, Expectation.isTarget, hx]
      · simp [targetFinding?, Expectation.isTarget, hx]

theorem feed_append (c : Checker) (es fs : List Entry) : c.feed (es ++ fs) = (c.feed es).feed fs :=
  List.foldl_append

/-- What entries add to a check that is not decided yet.  The induction is on the entries: the entry of the target ends
the check, any other one adds its bottom to the report. -/
private theorem feed_scanning (x? : Option Expectation) (r : Report) (es : List Entry) :
    Checker.feed { expectation := x?, state := .scanning, report := r } es =
      { expectation := x?
        state := if (targetFinding? x? es).isSome then .done else .scanning
        report :=
          { diagnostics :=
              r.diagnostics ++ bottomsAmong (es.take (countLooked x? es)) ++ (targetFinding? x? es).toList
            scanned := r.scanned + countLooked x? es } } := by
  induction es generalizing r with
  | nil =>
    have hnone : targetFinding? x? [] = none := by cases x? <;> rfl
    simp [feed, hnone, countLooked, bottomsAmong]
  | cons e es ih =>
    have hfeed : ∀ c : Checker, c.feed (e :: es) = (c.step e).feed es := fun _ => rfl
    rw [hfeed, step_scanning]
    by_cases htarget : Expectation.isTarget x? e = true
    · obtain ⟨x, rfl, hx⟩ : ∃ x, x? = some x ∧ e.identifier = x.target := by
        simpa [Expectation.isTarget, Option.any_eq_true] using htarget
      have hfinding : ∀ fs, targetFinding? (some x) (e :: fs) = some (x.compare e) := by
        intro fs
        simp [targetFinding?, hx]
      -- From here on the checker is done and ignores the rest.
      rw [hfinding, feed_done rfl, countLooked_cons_target htarget, hfinding]
      rfl
    · rw [Bool.not_eq_true] at htarget
      have hnone : targetFinding? x? [e] = none := by
        rw [targetFinding?_cons_other htarget]
        cases x? <;> rfl
      have hsplit : bottomsAmong ((e :: es).take (countLooked x? (e :: es))) =
          bottomsAmong [e] ++ bottomsAmong (es.take (countLooked x? es)) := by
        rw [countLooked_cons_other htarget, List.take_succ_cons, bottomsAmong, bottomsAmong, bottomsAmong,
          ← List.map_append, ← List.filter_append]
        rfl
      rw [hnone, hsplit, countLooked_cons_other htarget, targetFinding?_cons_other htarget]
      simp only [Option.isSome_none, Bool.false_eq_true, if_false, Option.toList_none, List.append_nil]
      rw [ih]
      simp only [List.append_assoc, Nat.add_assoc, Nat.add_comm 1]

/-- The state that a new checker is in after any entries. -/
theorem feed_eq (x? : Option Expectation) (es : List Entry) :
    ({ expectation := x? } : Checker).feed es =
      { expectation := x?
        state := if (targetFinding? x? es).isSome then .done else .scanning
        report :=
          { diagnostics := bottomsAmong (es.take (countLooked x? es)) ++ (targetFinding? x? es).toList
            scanned := countLooked x? es } } := by
  have hfeed := feed_scanning x? {} es
  simpa using hfeed

/-! ### Verdicts -/

private theorem verdict?_of_mem_bottomsAmong {d : Diagnostic} (h : d ∈ bottomsAmong es) : d.verdict? = none := by
  obtain ⟨e, -, rfl⟩ := List.mem_map.1 h
  rfl

/-- The first entry of the target decides. -/
theorem verdict_finish_feed (x? : Option Expectation) (es : List Entry) :
    (({ expectation := x? } : Checker).feed es).finish.verdict =
      match x? with
      | none => .unchecked
      | some x =>
        match es.find? fun e => e.identifier == x.target with
        | none => .missing
        | some e => if e.isTop then .sound else if e.value = x.expected then .pass else .fail := by
  rw [feed_eq]
  cases x? with
  | none =>
    have hbottoms : ∀ d ∈ bottomsAmong (es.take (countLooked none es)), d.verdict? = none :=
      fun _ => verdict?_of_mem_bottomsAmong
    have hverdict := Report.verdict_of_bottoms hbottoms (countLooked none es)
    simpa [targetFinding?, finish] using hverdict
  | some x =>
    dsimp only
    cases hfind : es.find? fun e => e.identifier == x.target with
    | none =>
      have hmissing : (Diagnostic.targetMissing x.target).verdict? = some .missing := rfl
      simp [targetFinding?, finish, hfind, Report.verdict_concat hmissing]
    | some e => simp [targetFinding?, finish, hfind, Report.verdict_concat (x.verdict?_compare e)]

theorem isFailure_verdict_none (es : List Entry) :
    (({ expectation := none } : Checker).feed es).finish.verdict.isFailure = false := by
  rw [verdict_finish_feed]
  rfl

/-- The verdict is no failure exactly if the first entry of the target is a top or has the expected value. -/
theorem not_isFailure_verdict_iff {x : Expectation} :
    (({ expectation := some x } : Checker).feed es).finish.verdict.isFailure = false ↔
      ∃ e, (es.find? fun e => e.identifier == x.target) = some e ∧ (e.value = "top" ∨ e.value = x.expected) := by
  rw [verdict_finish_feed]
  dsimp only
  cases es.find? fun e => e.identifier == x.target with
  | none => simp [Verdict.isFailure]
  | some e =>
    by_cases hvalue : e.value = "top"
    · simp [Entry.isTop_iff, hvalue, Verdict.isFailure]
    · by_cases hexpected : e.value = x.expected
      · simp [Entry.isTop_iff, hexpected ▸ hvalue, hexpected, Verdict.isFailure]
      · simp [Entry.isTop_iff, hvalue, hexpected, Verdict.isFailure]

private theorem filterMap_bottom?_bottomsAmong (es : List Entry) :
    (bottomsAmong es).filterMap Diagnostic.bottom? = (es.filter Entry.isBottom).map (·.identifier) := by
  unfold bottomsAmong
  rw [List.filterMap_map, ← List.filterMap_eq_map]
  rfl

private theorem isNone_bottom?_targetFinding? {f : Diagnostic} (h : f ∈ targetFinding? x? es) : f.bottom? = none := by
  obtain ⟨x, -, hx⟩ := Option.bind_eq_some_iff.1 h
  obtain ⟨e, -, rfl⟩ := Option.map_eq_some_iff.1 hx
  exact x.bottom?_compare e

/-! ### Reports -/

theorem state_feed_eq_done_iff :
    (({ expectation := x? } : Checker).feed es).state = .done ↔ (targetFinding? x? es).isSome = true := by
  rw [feed_eq]
  cases targetFinding? x? es with
  | none => simp
  | some f => simp

theorem scanned_feed (x? : Option Expectation) (es : List Entry) :
    (({ expectation := x? } : Checker).feed es).report.scanned = countLooked x? es := by
  rw [feed_eq]

theorem diagnostics_feed (x? : Option Expectation) (es : List Entry) :
    (({ expectation := x? } : Checker).feed es).report.diagnostics =
      bottomsAmong (es.take (countLooked x? es)) ++ (targetFinding? x? es).toList := by
  rw [feed_eq]

theorem bottoms_feed (x? : Option Expectation) (es : List Entry) :
    (({ expectation := x? } : Checker).feed es).report.bottoms =
      ((es.take (countLooked x? es)).filter Entry.isBottom).map (·.identifier) := by
  have htarget : (targetFinding? x? es).toList.filterMap Diagnostic.bottom? = [] := by
    rw [List.filterMap_eq_nil_iff]
    intro f hf
    exact isNone_bottom?_targetFinding? (by simpa using hf)
  rw [Report.bottoms, diagnostics_feed, List.filterMap_append, htarget, List.append_nil,
    filterMap_bottom?_bottomsAmong]

theorem scanned_finish (c : Checker) : c.finish.scanned = c.report.scanned := by
  unfold finish
  split <;> rfl

theorem bottoms_finish (c : Checker) : c.finish.bottoms = c.report.bottoms := by
  unfold finish
  split
  · simp [Report.bottoms, Diagnostic.bottom?]
  · rfl

theorem scanned_finish_feed (x? : Option Expectation) (es : List Entry) :
    (({ expectation := x? } : Checker).feed es).finish.scanned = countLooked x? es := by
  rw [scanned_finish, scanned_feed]

theorem bottoms_finish_feed (x? : Option Expectation) (es : List Entry) :
    (({ expectation := x? } : Checker).feed es).finish.bottoms =
      ((es.take (countLooked x? es)).filter Entry.isBottom).map (·.identifier) := by
  rw [bottoms_finish, bottoms_feed]

/-- The report of a check whose target has its first entry in the place `i`. -/
theorem finish_feed_target {x : Expectation} {i : Nat} (hi : es[i]? = some e) (he : e.identifier = x.target)
    (hfirst : ∀ j < i, ∀ f, es[j]? = some f → f.identifier ≠ x.target) :
    let report := (({ expectation := some x } : Checker).feed es).finish
    report.scanned = i + 1 ∧
      report.bottoms = ((es.take (i + 1)).filter Entry.isBottom).map (·.identifier) ∧
      report.verdict = if e.isTop then .sound else if e.value = x.expected then .pass else .fail := by
  intro report
  obtain ⟨hlt, hget⟩ := List.getElem?_eq_some_iff.1 hi
  have hbefore : ∀ j (hj : j < i), es[j].identifier ≠ x.target := by
    intro j hj
    exact hfirst j hj _ (List.getElem?_eq_getElem (Nat.lt_trans hj hlt))
  have hindex : es.findIdx? (Expectation.isTarget (some x)) = some i := by
    rw [List.findIdx?_eq_some_iff_getElem]
    refine ⟨hlt, by simp [Expectation.isTarget, hget, he], fun j hj => ?_⟩
    simpa [Expectation.isTarget] using hbefore j hj
  have hfind : (es.find? fun e => e.identifier == x.target) = some e := by
    rw [List.find?_eq_some_iff_getElem]
    refine ⟨by simpa using he, i, hlt, hget, fun j hj => ?_⟩
    simpa using hbefore j hj
  have hcount : countLooked (some x) es = i + 1 := by rw [countLooked, hindex]
  refine ⟨?_, ?_, ?_⟩
  · rw [scanned_finish_feed, hcount]
  · rw [bottoms_finish_feed, hcount]
  · simp only [report, verdict_finish_feed, hfind]

/-- At every point of a check: the entries up to the first one of the target have been looked at, their bottoms are
reported in order, and then comes the finding about the target.  It is there exactly if the checker is done, that is if
an entry of the target was fed, and from then on nothing changes.  To end the check there gives the verdict on the
first entry of the target. -/
theorem feed_invariant (x? : Option Expectation) (es : List Entry) :
    let c := ({ expectation := x? } : Checker).feed es
    let looked := es.take c.report.scanned
    (∃ finding : Option Diagnostic,
      c.report.diagnostics =
        (looked.filter fun e => e.value = "bottom").map (fun e => .bottom e.identifier) ++ finding.toList ∧
      (∀ f ∈ finding, f.bottom? = none) ∧ (c.state = .done ↔ finding.isSome = true)) ∧
    (c.state = .done ↔ ∃ x, x? = some x ∧ ∃ e ∈ es, e.identifier = x.target) ∧
    c.report.scanned = (match es.findIdx? (Expectation.isTarget x?) with
      | some i => i + 1
      | none => es.length) ∧
    c.report.bottoms = (looked.filter fun e => e.value = "bottom").map (·.identifier) ∧
    (c.state = .done → ∀ e, c.step e = c) ∧
    (c.finish.verdict = .unchecked ↔ x? = none) ∧
    (c.finish.verdict = .missing ↔ ∃ x, x? = some x ∧ ∀ e ∈ es, e.identifier ≠ x.target) ∧
    (c.finish.verdict = .sound ↔
      ∃ x e, x? = some x ∧ es.find? (fun e => e.identifier == x.target) = some e ∧ e.value = "top") ∧
    (c.finish.verdict = .pass ↔
      ∃ x e, x? = some x ∧ es.find? (fun e => e.identifier == x.target) = some e ∧ e.value ≠ "top" ∧
        e.value = x.expected) ∧
    (c.finish.verdict = .fail ↔
      ∃ x e, x? = some x ∧ es.find? (fun e => e.identifier == x.target) = some e ∧ e.value ≠ "top" ∧
        e.value ≠ x.expected) := by
  intro c looked
  have hscanned : c.report.scanned = countLooked x? es := scanned_feed x? es
  have hdone : c.state = .done ↔ (targetFinding? x? es).isSome = true := state_feed_eq_done_iff
  have hdiagnostics : c.report.diagnostics =
      (looked.filter fun e => e.value = "bottom").map (fun e => .bottom e.identifier) ++
        (targetFinding? x? es).toList := by
    rw [← Entry.filter_isBottom]
    simp only [looked, hscanned]
    exact diagnostics_feed x? es
  have hbottoms : c.report.bottoms = (looked.filter fun e => e.value = "bottom").map (·.identifier) := by
    rw [← Entry.filter_isBottom]
    simp only [looked, hscanned]
    exact bottoms_feed x? es
  refine ⟨⟨targetFinding? x? es, hdiagnostics, fun f => isNone_bottom?_targetFinding?, hdone⟩,
    hdone.trans isSome_targetFinding?_iff, hscanned, hbottoms, step_done, ?_⟩
  simp only [c, verdict_finish_feed]
  cases x? with
  | none => simp
  | some x =>
    cases hfind : es.find? fun e => e.identifier == x.target with
    | none =>
      have hnone : ∀ e ∈ es, e.identifier ≠ x.target := by simpa using hfind
      simpa [hfind] using hnone
    | some e =>
      have hmem : ∃ e ∈ es, e.identifier = x.target :=
        ⟨e, List.mem_of_find?_eq_some hfind, by simpa using List.find?_some hfind⟩
      by_cases hvalue : e.value = "top"
      · simp [hfind, Entry.isTop_iff, hvalue, hmem]
      · by_cases hexpected : e.value = x.expected
        · simp [hfind, Entry.isTop_iff, hexpected ▸ hvalue, hexpected, hmem]
        · simp [hfind, Entry.isTop_iff, hvalue, hexpected, hmem]

end Checker

end AnalyzerBench

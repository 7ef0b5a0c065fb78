import AnalyzerBench.Proofs.Check.Scan
import AnalyzerBench.Proofs.Command.Arguments
import AnalyzerBench.Proofs.Command.Outcome

/-!
# Strict runs of the result checker

What the checker prints does not depend on the strict flag, which only decides the status after a report.  Without the
flag a run fails only if there is no report; a strict run also fails if the check does not get to an entry of the target
that is a top or has the expected value (`run_strict`).  The same command line with the flag in front asks for the strict
run (`asked_strict`).
-/

namespace AnalyzerBench.Command

/-- The name that asks for a choice. -/
def ColorChoice.name : ColorChoice → String
  | .auto => "auto"
  | .always => "always"
  | .never => "never"

theorem ColorChoice.ofName?_name (color : ColorChoice) : ofName? color.name = some color := by
  cases color <;> rfl

namespace CheckRequest

open Checker (FaultAt ReachesTarget)

variable {r : CheckRequest} {d : Directory} {content : Except ReadFault String} {report : Report} {f : Fault}
  {g g' : Given} {item : Argument} {items : List (Option Argument)} {arguments : List String}

/-! ### Command lines -/

/-- The command line that spells a request out. -/
def spelled (r : CheckRequest) : List String :=
  (if r.strict then ["--strict"] else []) ++ (if r.verbose then ["--verbose"] else []) ++
    ["--color=" ++ r.color.name, "--", r.file] ++ r.expectation.toList.flatMap fun x => [x.target, x.expected]

private theorem read_strict (rest : List String) :
    rules.read ("--strict" :: rest) = some (.flag "strict") :: rules.read rest :=
  Rules.read_flag "strict" (by decide) (by decide) (by decide) (by decide) rest

theorem ofArguments_spelled (r : CheckRequest) (h : r.file ≠ "") : ofArguments r.spelled = .request r := by
  obtain ⟨file, x?, strict, color, verbose⟩ := r
  have hverbose := Rules.read_verbose (r := rules) (by decide)
  have hcolor : ∀ rest, rules.read (("--color=" ++ color.name) :: "--" :: rest) =
      some (.option "color" color.name) :: rest.map fun text => some (.operand text) := by
    intro rest
    have hread := Rules.read_valued (r := rules) "color" (by decide) (by decide) color.name ("--" :: rest)
    rw [Rules.read_operands, ← String.append_assoc, ← String.append_assoc] at hread
    exact hread
  have hname := ColorChoice.ofName?_name color
  unfold ofArguments spelled
  cases strict <;> cases verbose <;> cases x? <;>
    simp [read_strict, hverbose, hcolor, hname, ask, Given.add, Given.addOperand, Given.request?, setOnce, giveOnce, h]

theorem asked_spelled (r : CheckRequest) (h : r.file ≠ "") : Tool.check.asked r.spelled = .request (.check r) := by
  show (ofArguments r.spelled).map Request.check = .request (.check r)
  rw [ofArguments_spelled r h]
  rfl

private theorem setOnce_eq_some {old new : Bool} (h : setOnce old = some new) : new = true := by
  cases old with
  | false => exact (Option.some.inj h).symm
  | true => cases h

/-- The strict flag has no part in any other item. -/
private theorem add_strict (h : g.add item = some g') (hg' : g'.strict = false) :
    g.strict = false ∧ ({ g with strict := true } : Given).add item = some { g' with strict := true } := by
  unfold Given.add at h
  split at h
  · obtain ⟨strict, hstrict, rfl⟩ := Option.map_eq_some_iff.1 h
    rw [setOnce_eq_some hstrict] at hg'
    cases hg'
  · obtain ⟨verbose, hverbose, rfl⟩ := Option.map_eq_some_iff.1 h
    exact ⟨hg', by simp [Given.add, hverbose]⟩
  · obtain ⟨choice, hchoice, h⟩ := Option.bind_eq_some_iff.1 h
    obtain ⟨color, hcolor, h⟩ := Option.bind_eq_some_iff.1 h
    obtain rfl := Option.some.inj h
    exact ⟨hg', by simp [Given.add, hchoice, hcolor]⟩
  · next text =>
    show _ ∧ ({ g with strict := true } : Given).addOperand text = _
    unfold Given.addOperand at h ⊢
    by_cases hfile : g.file.isNone = true
    · by_cases htext : text = ""
      · simp [hfile, htext] at h
      · obtain rfl : { g with file := some text } = g' := by simpa [hfile, htext] using h
        exact ⟨hg', by simp [hfile, htext]⟩
    · by_cases htarget : g.target.isNone = true
      · obtain rfl : { g with target := some text } = g' := by simpa [hfile, htarget] using h
        exact ⟨hg', by simp [hfile, htarget]⟩
      · by_cases hexpected : g.expected.isNone = true
        · obtain rfl : { g with expected := some text } = g' := by simpa [hfile, htarget, hexpected] using h
          exact ⟨hg', by simp [hfile, htarget, hexpected]⟩
        · simp [hfile, htarget, hexpected] at h
  · cases h

private theorem request?_strict (h : g.request? = some r) :
    g.strict = r.strict ∧ ({ g with strict := true } : Given).request? = some { r with strict := true } := by
  obtain ⟨file?, target, expected, strict, color, verbose⟩ := g
  cases file? with
  | none => cases h
  | some file =>
    cases target with
    | none =>
      cases expected with
      | none =>
        obtain rfl := Option.some.inj h
        exact ⟨rfl, rfl⟩
      | some expected => cases h
    | some target =>
      cases expected with
      | none => cases h
      | some expected =>
        obtain rfl := Option.some.inj h
        exact ⟨rfl, rfl⟩

/-- The induction is on the items; the flag cannot have been set before them, as no item takes it back. -/
private theorem ask_strict (h : ask Given.add Given.request? g items = .request r) (hr : r.strict = false) :
    g.strict = false ∧
      ask Given.add Given.request? { g with strict := true } items = .request { r with strict := true } := by
  induction items generalizing g with
  | nil =>
    obtain ⟨hstrict, hrequest⟩ := request?_strict (ask_nil_eq_request_iff.1 h)
    exact ⟨hstrict.trans hr, ask_nil_eq_request_iff.2 hrequest⟩
  | cons item? items ih =>
    obtain ⟨item, g', hitem, hhelp, hversion, hadd, hask⟩ := ask_cons_eq_request_iff.1 h
    obtain ⟨hg', hask'⟩ := ih hask
    obtain ⟨hg, hadd'⟩ := add_strict hadd hg'
    exact ⟨hg, ask_cons_eq_request_iff.2 ⟨item, _, hitem, hhelp, hversion, hadd', hask'⟩⟩

/-- With the flag in front, a command line asks for the strict run of what it asked for. -/
theorem asked_strict (h : Tool.check.asked arguments = .request (.check r)) (hr : r.strict = false) :
    Tool.check.asked ("--strict" :: arguments) = .request (.check { r with strict := true }) := by
  have hasked : ∀ arguments, Tool.check.asked arguments = (ofArguments arguments).map Request.check := fun _ => rfl
  rw [hasked, Asked.map_eq_request_iff] at h ⊢
  obtain ⟨r', hplain, hsame⟩ := h
  obtain rfl := Request.check.inj hsame
  refine ⟨{ r' with strict := true }, ?_, rfl⟩
  rw [ofArguments, read_strict]
  exact ask_cons_eq_request_iff.2 ⟨_, _, rfl, by decide, by decide, rfl, (ask_strict hplain hr).2⟩

/-! ### Runs -/

theorem shows_outcome (h : (r.run content).result = .ok report) :
    (r.outcome content).Shows (if r.strict && report.verdict.isFailure then 1 else 0)
      (String.join (report.diagnostics.map r.line)) none :=
  Outcome.shows_of_ok h

theorem shows_outcome_of_error (h : (r.run content).result = .error f) : (r.outcome content).Shows 1 "" none :=
  Outcome.shows_of_error h

theorem run_check (r : CheckRequest) (d : Directory) :
    Request.run d (.check r) = (r.outcome (d.read r.file), d) := by
  have houtcome : Request.outcome (Request.content d (.check r)) (.check r) = r.outcome (d.read r.file) := rfl
  apply Request.run_of_none houtcome
  cases hresult : (r.run (d.read r.file)).result with
  | ok report => exact (shows_outcome hresult).replacement
  | error f => exact (shows_outcome_of_error hresult).replacement

theorem exit_cases (r : CheckRequest) (content : Except ReadFault String) :
    (r.outcome content).exit = 0 ∨ (r.outcome content).exit = 1 := by
  cases hresult : (r.run content).result with
  | ok report =>
    rw [(shows_outcome hresult).exit]
    by_cases hfailure : (r.strict && report.verdict.isFailure) = true
    · rw [if_pos hfailure]
      exact .inr rfl
    · rw [if_neg hfailure]
      exact .inl rfl
  | error f => exact .inr (shows_outcome_of_error hresult).exit

/-- Without the flag only a fault fails. -/
theorem exit_eq_one_iff (h : r.strict = false) :
    (r.outcome content).exit = 1 ↔ ∃ f, (r.run content).result = .error f := by
  cases hresult : (r.run content).result with
  | ok report => simp [(shows_outcome hresult).exit, h]
  | error f => simp [(shows_outcome_of_error hresult).exit]

theorem exit_eq_zero_iff (h : r.strict = true) :
    (r.outcome content).exit = 0 ↔ ∃ report, (r.run content).result = .ok report ∧ report.verdict.isFailure = false := by
  cases hresult : (r.run content).result with
  | ok report => simp [(shows_outcome hresult).exit, h]
  | error f => simp [(shows_outcome_of_error hresult).exit]

theorem stdout_of_error (h : (r.run content).result = .error f) : (r.outcome content).stdout = "" :=
  (shows_outcome_of_error h).stdout

/-- The flag has no part in what is printed. -/
theorem stdout_congr {s : CheckRequest} (hrun : s.run content = r.run content) (hcolor : s.color = r.color) :
    (s.outcome content).stdout = (r.outcome content).stdout := by
  have hline : s.line = r.line := by
    funext finding
    rw [line, line, hcolor]
  cases hresult : (r.run content).result with
  | ok report =>
    have hresult' : (s.run content).result = .ok report := by rw [hrun, hresult]
    rw [(shows_outcome hresult).stdout, (shows_outcome hresult').stdout, hline]
  | error f =>
    have hresult' : (s.run content).result = .error f := by rw [hrun, hresult]
    rw [stdout_of_error hresult, stdout_of_error hresult']

/-- A run fails without the flag if the file cannot be read or the check fails. -/
theorem exists_result_run_eq_error_iff :
    (∃ f, (r.run content).result = .error f) ↔
      (∃ reason, content = .error reason) ∨
        ∃ text n, content = .ok text ∧ FaultAt r.expectation (Text.lines text) n := by
  cases content with
  | error reason => simp [run]
  | ok text =>
    rw [run, checkText, Checker.exists_result_check_eq_error_iff]
    constructor
    · rintro ⟨n, hn⟩
      exact .inr ⟨text, n, rfl, hn⟩
    · rintro (⟨reason, hreason⟩ | ⟨_, n, htext, hn⟩)
      · cases hreason
      · obtain rfl := Except.ok.inj htext
        exact ⟨n, hn⟩

theorem exists_result_run_not_failure_iff {x : Expectation} (hx : r.expectation = some x) :
    (∃ report, (r.run content).result = .ok report ∧ report.verdict.isFailure = false) ↔
      ∃ text e, content = .ok text ∧ ReachesTarget x (Text.lines text) e ∧
        (e.value = "top" ∨ e.value = x.expected) := by
  cases content with
  | error reason => simp [run]
  | ok text =>
    rw [run, checkText, hx, Checker.exists_result_check_not_failure_iff]
    constructor
    · rintro ⟨e, he⟩
      exact ⟨text, e, rfl, he⟩
    · rintro ⟨_, e, htext, he⟩
      obtain rfl := Except.ok.inj htext
      exact ⟨e, he⟩

theorem isFailure_of_expectation_none (hx : r.expectation = none) (h : (r.run content).result = .ok report) :
    report.verdict.isFailure = false := by
  cases content with
  | error reason => cases h
  | ok text =>
    rw [run, checkText, hx, Checker.result_check_eq_ok_iff] at h
    obtain ⟨-, rfl⟩ := h
    exact Checker.isFailure_verdict_none _

/-- Without a target the flag has no part in the status either. -/
theorem exit_congr_of_none {s : CheckRequest} (hx : r.expectation = none) (hrun : s.run content = r.run content) :
    (s.outcome content).exit = (r.outcome content).exit := by
  cases hresult : (r.run content).result with
  | ok report =>
    have hresult' : (s.run content).result = .ok report := by rw [hrun, hresult]
    have hverdict := isFailure_of_expectation_none hx hresult
    rw [(shows_outcome hresult).exit, (shows_outcome hresult').exit, hverdict, Bool.and_false, Bool.and_false]
  | error f =>
    have hresult' : (s.run content).result = .error f := by rw [hrun, hresult]
    rw [(shows_outcome_of_error hresult).exit, (shows_outcome_of_error hresult').exit]

/-- A strict run of the checker and one without the flag print the same and leave the directory as it was.  The one
without the flag ends with status 1 exactly if the file cannot be read, or a malformed line comes before the first entry
of the target or, without a target, anywhere; then nothing is printed.  The strict one with a target ends with status 0
exactly if the check gets to an entry of the target that is a top or has the expected value, and without a target it
ends as the other one does.  This holds of every command line that asks for the two.  The flag in front of a command line
turns the one into the other, and every path but the empty one can be asked for. -/
theorem run_strict (d : Directory) (file : String) (x? : Option Expectation) (color : ColorChoice)
    (verbose verbose' : Bool) :
    let plain : CheckRequest := { file, expectation := x?, strict := false, color, verbose }
    let strict : CheckRequest := { file, expectation := x?, strict := true, color, verbose := verbose' }
    (let (o, left) := Request.run d (.check plain)
      let (o', left') := Request.run d (.check strict)
      (left = d ∧ left' = d) ∧ o'.stdout = o.stdout ∧
      ((o.exit = 0 ∨ o.exit = 1) ∧ (o'.exit = 0 ∨ o'.exit = 1)) ∧
      (o.exit = 1 ↔ (∃ reason, d.read file = .error reason) ∨
        ∃ text n, d.read file = .ok text ∧ FaultAt x? (Text.lines text) n) ∧
      (o.exit = 1 → o.stdout = "") ∧
      (∀ x, x? = some x →
        (o'.exit = 0 ↔ ∃ text e, d.read file = .ok text ∧ ReachesTarget x (Text.lines text) e ∧
          (e.value = "top" ∨ e.value = x.expected))) ∧
      (x? = none → o'.exit = o.exit)) ∧
    (∀ r ∈ [plain, strict],
      (file ≠ "" → Tool.check.asked r.spelled = .request (.check r)) ∧
      ∀ arguments, Tool.check.asked arguments = .request (.check r) →
        Tool.check.run arguments d = Request.run d (.check r)) ∧
    ∀ arguments, Tool.check.asked arguments = .request (.check plain) →
      Tool.check.asked ("--strict" :: arguments) = .request (.check { plain with strict := true }) := by
  intro plain strict
  refine ⟨?_, ?_, fun arguments h => asked_strict h rfl⟩
  · -- The check depends on the file and the expectation only, so it is the same for both requests.
    have hsame : strict.run (d.read file) = plain.run (d.read file) := by
      cases d.read file with
      | error reason => rfl
      | ok text => rfl
    have hplain : (plain.outcome (d.read file)).exit = 1 ↔ _ := exit_eq_one_iff rfl
    have hstrict : (strict.outcome (d.read file)).exit = 0 ↔ _ := exit_eq_zero_iff rfl
    rw [run_check, run_check]
    show (d = d ∧ d = d) ∧ (strict.outcome (d.read file)).stdout = (plain.outcome (d.read file)).stdout ∧ _
    refine ⟨⟨rfl, rfl⟩, stdout_congr hsame rfl, ⟨exit_cases plain _, exit_cases strict _⟩, ?_, ?_, ?_, ?_⟩
    · exact hplain.trans exists_result_run_eq_error_iff
    · intro h
      obtain ⟨f, hf⟩ := hplain.1 h
      exact stdout_of_error hf
    · intro x hx
      exact hstrict.trans (exists_result_run_not_failure_iff hx)
    · intro hx
      exact exit_congr_of_none (r := plain) hx hsame
  · intro r hr
    have hfile : r.file = file := by
      rcases List.mem_cons.1 hr with rfl | hr
      · rfl
      · obtain rfl := List.mem_singleton.1 hr
        rfl
    refine ⟨?_, fun arguments h => run_of_asked h d⟩
    intro hne
    rw [← hfile] at hne
    exact asked_spelled r hne

private def dumpFile : Directory := { files := [(["f"], .text "b -> bottom\n\nt -> 5\nt = 6\nt -> 7\n")] }

/-- Behind the entry of the target stand a malformed line and an entry with another value. -/
theorem run_strict_malformed_behind :
    ∃ o o', Tool.check.run ["--color=always", "--", "f", "t", "5"] dumpFile = (o, dumpFile) ∧
      Tool.check.run ["--strict", "--color=always", "--", "f", "t", "5"] dumpFile = (o', dumpFile) ∧
      o'.exit = 0 ∧ o'.stdout = o.stdout := by
  obtain ⟨hruns, hasked, hflag⟩ := run_strict dumpFile "f" (some ⟨"t", "5"⟩) .always false false
  have hbottom : Entry.parse? "b -> bottom\n" = some ⟨"b", "bottom"⟩ := by decide +kernel
  have hblank : Text.isAllBlank "\n" = true := by decide
  have hreaches : ReachesTarget ⟨"t", "5"⟩ (Text.lines "b -> bottom\n\nt -> 5\nt = 6\nt -> 7\n") ⟨"t", "5"⟩ := by
    refine ⟨["b -> bottom\n", "\n"], "t -> 5\n", ["t = 6\n", "t -> 7\n"], by decide +kernel, by decide +kernel, rfl,
      ?_⟩
    refine List.forall_mem_cons.2 ⟨⟨Entry.not_malformed_of_parse? hbottom, ?_⟩,
      List.forall_mem_singleton.2 ⟨Entry.not_malformed_of_isAllBlank hblank, ?_⟩⟩
    · intro e he
      obtain rfl := Option.some.inj (hbottom.symm.trans he)
      decide
    · simp [Entry.parse?_of_isAllBlank hblank]
  have hplain := (hasked _ (List.mem_cons_self ..)).1 (by decide)
  have hrun := (hasked _ (List.mem_cons_self ..)).2 _ hplain
  have hrun' := (hasked _ (List.mem_cons_of_mem _ (List.mem_cons_self ..))).2 _ (hflag _ hplain)
  rcases hp : Request.run dumpFile (.check ⟨"f", some ⟨"t", "5"⟩, false, .always, false⟩) with ⟨o, left⟩
  rcases hs : Request.run dumpFile (.check ⟨"f", some ⟨"t", "5"⟩, true, .always, false⟩) with ⟨o', left'⟩
  rw [hp, hs] at hruns
  obtain ⟨⟨rfl, rfl⟩, hstdout, -, -, -, hexit, -⟩ := hruns
  exact ⟨o, o', hrun.trans hp, hrun'.trans hs, (hexit _ rfl).2 ⟨_, _, rfl, hreaches, .inr rfl⟩, hstdout⟩

end CheckRequest

end AnalyzerBench.Command

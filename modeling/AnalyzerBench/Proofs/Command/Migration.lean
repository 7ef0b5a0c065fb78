import AnalyzerBench.Proofs.Command.Arguments
import AnalyzerBench.Proofs.Command.Outcome
import AnalyzerBench.Proofs.Session

/-!
# Dry runs of the configuration migrator

A dry run and a migration in place succeed or fail together: both come to what the file at the path can be migrated to
(`MigrationRequest.result`).  What the dry run prints is what the other one leaves in the file (`run_dry_agrees`).
-/

namespace AnalyzerBench.Command

variable {d : Directory} {file : String}

namespace MigrationRequest

/-- What the file of a request is migrated to, given what reading it gave. -/
def result (r : MigrationRequest) : Except ReadFault String → Except Fault Migration
  | .error reason => .error (.unreadable r.file reason)
  | .ok text => (migrate r.marker .builtin text).result

variable {r : MigrationRequest} {content : Except ReadFault String} {mig : Migration} {f : Fault}

theorem shows_dryOutcome (h : r.result content = .ok mig) : (r.dryOutcome content).Shows 0 mig.text none := by
  cases content with
  | error reason => cases h
  | ok text => exact Outcome.shows_of_ok h

theorem shows_dryOutcome_of_error (h : r.result content = .error f) : (r.dryOutcome content).Shows 1 "" none := by
  cases content with
  | error reason => exact ⟨rfl, rfl, rfl⟩
  | ok text => exact Outcome.shows_of_error h

theorem shows_inPlaceOutcome (h : r.result content = .ok mig) :
    (r.inPlaceOutcome content).Shows 0 "" (some mig.text) := by
  cases content with
  | error reason => cases h
  | ok text => exact Outcome.shows_of_ok ((result_migrateAt r.marker .builtin r.file text).trans h)

theorem shows_inPlaceOutcome_of_error (h : r.result content = .error f) :
    (r.inPlaceOutcome content).Shows 1 "" none := by
  cases content with
  | error reason => exact ⟨rfl, rfl, rfl⟩
  | ok text => exact Outcome.shows_of_error ((result_migrateAt r.marker .builtin r.file text).trans h)

/-! ### Command lines -/

/-- The command line that spells a request out. -/
def spelled (r : MigrationRequest) : List String :=
  (if r.dryRun then ["--dry-run"] else []) ++ (if r.verbose then ["--verbose"] else []) ++
    ["--marker=" ++ r.marker.token, "--", r.file]

theorem ofArguments_spelled (r : MigrationRequest) (h : r.file ≠ "") : ofArguments r.spelled = .request r := by
  obtain ⟨file, ⟨token⟩, dryRun, verbose⟩ := r
  have hdry : ∀ rest, rules.read ("--dry-run" :: rest) = some (.flag "dry-run") :: rules.read rest :=
    Rules.read_flag "dry-run" (by decide) (by decide) (by decide) (by decide)
  have hverbose := Rules.read_verbose (r := rules) (by decide)
  have hmarker := Rules.read_marker (r := rules) (by decide) token file
  unfold ofArguments spelled
  cases dryRun <;> cases verbose <;>
    simp [hdry, hverbose, hmarker, ask, Given.add, Given.request?, setOnce, giveOnce, h]

theorem asked_spelled (r : MigrationRequest) (h : r.file ≠ "") :
    Tool.migration.asked r.spelled = .request (.migration r) := by
  show (ofArguments r.spelled).map Request.migration = .request (.migration r)
  rw [ofArguments_spelled r h]
  rfl

/-! ### Runs -/

theorem run_dry (h : r.dryRun = true) (d : Directory) :
    ∃ o, Request.run d (.migration r) = (o, d) ∧
      match r.result (d.read r.file) with
      | .ok mig => o.Shows 0 mig.text none
      | .error _ => o.Shows 1 "" none := by
  have houtcome : r.outcome (d.read r.file) = r.dryOutcome (d.read r.file) := if_pos h
  cases hresult : r.result (d.read r.file) with
  | ok mig =>
    have hshows := shows_dryOutcome hresult
    exact ⟨_, Request.run_of_none houtcome hshows.replacement, hshows⟩
  | error f =>
    have hshows := shows_dryOutcome_of_error hresult
    exact ⟨_, Request.run_of_none houtcome hshows.replacement, hshows⟩

theorem run_inPlace (h : r.dryRun = false) (d : Directory) :
    ∃ o, match r.result (d.read r.file) with
      | .ok mig => Request.run d (.migration r) = (o, d.replace r.file mig.text) ∧ o.Shows 0 "" (some mig.text)
      | .error _ => Request.run d (.migration r) = (o, d) ∧ o.Shows 1 "" none := by
  have houtcome : r.outcome (d.read r.file) = r.inPlaceOutcome (d.read r.file) := if_neg (by simp [h])
  cases hresult : r.result (d.read r.file) with
  | ok mig =>
    have hshows := shows_inPlaceOutcome hresult
    exact ⟨_, Request.run_of_some houtcome rfl hshows.replacement, hshows⟩
  | error f =>
    have hshows := shows_inPlaceOutcome_of_error hresult
    exact ⟨_, Request.run_of_none houtcome hshows.replacement, hshows⟩

theorem exists_file_of_result (h : r.result (d.read r.file) = .ok mig) :
    ∃ place old, d.find r.file = .ok place ∧ d.content? place = some (.text old) := by
  cases hread : d.read r.file with
  | error reason =>
    rw [hread] at h
    cases h
  | ok text =>
    obtain ⟨place, hplace, hcontent⟩ := Directory.read_eq_ok_iff.1 hread
    exact ⟨place, text, hplace, hcontent⟩

/-- A dry run and a migration in place of the same file, with whatever marker, succeed or fail together.  If they
succeed, the dry run prints what the other one leaves in the file, and no other file is changed.  If they fail, both end
with status 1 and print nothing.  Neither a dry run nor a failed migration changes the directory.  This holds of every
command line that asks for the two, and every path but the empty one can be asked for. -/
theorem run_dry_agrees (d : Directory) (file : String) (m : Marker) (verbose verbose' : Bool) :
    let dry : MigrationRequest := { file, marker := m, dryRun := true, verbose }
    let inPlace : MigrationRequest := { file, marker := m, dryRun := false, verbose := verbose' }
    (let (o, left) := Request.run d (.migration dry)
      let (o', left') := Request.run d (.migration inPlace)
      (o.exit = 0 ↔ o'.exit = 0) ∧
      (o.exit = 0 → o'.exit = 0 → left'.read file = .ok o.stdout ∧
        ∃ place, d.find file = .ok place ∧ Directory.Replaced d left' place (.text o.stdout)) ∧
      (o.exit ≠ 0 → o'.exit ≠ 0 → (o.exit = 1 ∧ o.stdout = "") ∧ o'.exit = 1 ∧ o'.stdout = "") ∧
      left = d ∧ (o'.exit ≠ 0 → left' = d)) ∧
    ∀ r ∈ [dry, inPlace],
      (file ≠ "" → Tool.migration.asked r.spelled = .request (.migration r)) ∧
      ∀ arguments, Tool.migration.asked arguments = .request (.migration r) →
        Tool.migration.run arguments d = Request.run d (.migration r) := by
  intro dry inPlace
  refine ⟨?_, ?_⟩
  · obtain ⟨o, hrun, ho⟩ := run_dry (r := dry) rfl d
    obtain ⟨o', ho'⟩ := run_inPlace (r := inPlace) rfl d
    -- The result depends on the file and the marker only, so it is the same for both requests.
    have hsame : dry.result (d.read file) = inPlace.result (d.read file) := by
      cases d.read file with
      | error reason => rfl
      | ok text => rfl
    have hfile : dry.file = file := rfl
    have hfile' : inPlace.file = file := rfl
    rw [hfile, hsame] at ho
    rw [hfile'] at ho'
    cases hresult : inPlace.result (d.read file) with
    | ok mig =>
      rw [hresult] at ho ho'
      obtain ⟨hrun', ho'⟩ := ho'
      obtain ⟨place, old, hplace, hold⟩ := exists_file_of_result hresult
      have hreplaced := Directory.replaced_replace hplace hold mig.text
      rw [hrun, hrun']
      dsimp only
      rw [ho.exit, ho'.exit, ho.stdout]
      refine ⟨Iff.rfl, ?_, ?_, rfl, ?_⟩
      · intro _ _
        exact ⟨hreplaced.read_eq hplace, place, hplace, hreplaced⟩
      · intro h
        exact absurd rfl h
      · intro h
        exact absurd rfl h
    | error f =>
      rw [hresult] at ho ho'
      obtain ⟨hrun', ho'⟩ := ho'
      rw [hrun, hrun']
      dsimp only
      rw [ho.exit, ho'.exit, ho.stdout, ho'.stdout]
      refine ⟨Iff.rfl, ?_, ?_, rfl, ?_⟩
      · intro h
        cases h
      · intro _ _
        exact ⟨⟨rfl, rfl⟩, rfl, rfl⟩
      · intro _
        rfl
  · intro r hr
    have hfile : r.file = file := by
      rcases List.mem_cons.1 hr with rfl | hr
      · rfl
      · obtain rfl := List.mem_singleton.1 hr
        rfl
    refine ⟨?_, ?_⟩
    · intro hne
      rw [← hfile] at hne
      exact asked_spelled r hne
    · intro arguments h
      exact run_of_asked h d

end MigrationRequest

end AnalyzerBench.Command

import AnalyzerBench.Proofs.Directory
import AnalyzerBench.Proofs.Log
import AnalyzerBench.Session

/-!
# What sessions change

A migration in place either succeeds, and then the text of the file is replaced by the migrated one
(`replaced_migrateFile`), or it fails, and then the directory is as before (`migrateFile_of_error`).  A session takes
its steps one after the other (`run_append`), so this holds of every step of every session, and steps that only read
change nothing (`run_frame`).
-/

namespace AnalyzerBench

variable {d : Directory} {m : Marker} {r : Registry} {path : String}

/-! ### Migrating a file -/

theorem result_migrateAt (m : Marker) (r : Registry) (path text : String) :
    (migrateAt m r path text).result = (migrate m r text).result := by
  rw [migrateAt, Run.result_bind]
  cases (migrate m r text).result with
  | error f => rfl
  | ok mig => rfl

/-- Migrating a file fails if the file cannot be read or its text cannot be migrated. -/
theorem result_migrateFile (d : Directory) (m : Marker) (r : Registry) (path : String) :
    (migrateFile d m r path).1.result =
      match d.read path with
      | .error reason => .error (.unreadable path reason)
      | .ok text => (migrate m r text).result := by
  unfold migrateFile
  cases d.read path with
  | error reason => rfl
  | ok text =>
    dsimp only
    rw [← result_migrateAt m r path text]
    cases hresult : (migrateAt m r path text).result with
    | error f => simp [hresult]
    | ok mig => simp [hresult]

theorem migrateFile_of_error {f : Fault} (h : (migrateFile d m r path).1.result = .error f) :
    (migrateFile d m r path).2 = d := by
  unfold migrateFile at h ⊢
  cases hread : d.read path with
  | error reason => rfl
  | ok text =>
    cases hresult : (migrateAt m r path text).result with
    | error g => simp [hresult]
    | ok mig => simp [hread, hresult] at h

theorem migrateFile_of_ok {mig : Migration} (h : (migrateFile d m r path).1.result = .ok mig) :
    (migrateFile d m r path).2 = d.replace path mig.text := by
  unfold migrateFile at h ⊢
  cases hread : d.read path with
  | error reason => simp [hread] at h
  | ok text =>
    cases hresult : (migrateAt m r path text).result with
    | error g => simp [hread, hresult] at h
    | ok mig' =>
      obtain rfl : mig' = mig := by simpa [hread, hresult] using h
      simp [hresult]

/-- A file that is migrated held a text that can be migrated, and holds the migrated one afterwards. -/
theorem replaced_migrateFile {mig : Migration} (h : (migrateFile d m r path).1.result = .ok mig) :
    ∃ place text, d.find path = .ok place ∧ d.content? place = some (.text text) ∧
      (migrate m r text).result = .ok mig ∧
      Directory.Replaced d (migrateFile d m r path).2 place (.text mig.text) ∧
      ∀ name, d.content? (place.dropLast ++ [name]) = none →
        (migrateFile d m r path).2 = d.replaceThrough name place mig.text := by
  rw [migrateFile_of_ok h]
  rw [result_migrateFile] at h
  cases hread : d.read path with
  | error reason => simp [hread] at h
  | ok text =>
    obtain ⟨place, hplace, htext⟩ := Directory.read_eq_ok_iff.1 hread
    rw [hread] at h
    exact ⟨place, text, hplace, htext, h, Directory.replaced_replace hplace htext mig.text,
      fun name hname => Directory.replace_eq_replaceThrough hplace hname mig.text⟩

namespace Session

/-! ### Steps and runs -/

theorem run_append (d : Directory) (before after : List Step) :
    run d (before ++ after) =
      ((run d before).1 ++ (run (run d before).2 after).1, (run (run d before).2 after).2) := by
  induction before generalizing d with
  | nil => rfl
  | cons s before ih => simp [run, ih]

/-- In every session, a migration that fails leaves all files and folders as they were.  One that succeeds replaces the
text of its file by the migrated one and changes nothing else, whatever unused name its temporary file has.  Extraction
and checking change nothing. -/
theorem run_frame (d : Directory) (before : List Step) (s : Step) (after : List Step) :
    let d₀ := (run d before).2
    let (answer, d₁) := step d₀ s
    run d (before ++ s :: after) = ((run d before).1 ++ answer :: (run d₁ after).1, (run d₁ after).2) ∧
    (∀ m r path, s = .migrate m r path → ∃ outcome, answer = .migrated outcome ∧
      outcome.result = (match d₀.read path with
        | .error reason => .error (.unreadable path reason)
        | .ok text => (migrate m r text).result) ∧
      (∀ f, outcome.result = .error f → d₁ = d₀) ∧
      ∀ mig, outcome.result = .ok mig → ∃ place text, d₀.find path = .ok place ∧
        d₀.content? place = some (.text text) ∧ (migrate m r text).result = .ok mig ∧
        Directory.Replaced d₀ d₁ place (.text mig.text) ∧
        ∀ name, d₀.content? (place.dropLast ++ [name]) = none → d₁ = d₀.replaceThrough name place mig.text) ∧
    (∀ m path, s = .extract m path → d₁ = d₀) ∧ (∀ path x?, s = .check path x? → d₁ = d₀) := by
  intro d₀
  have hrun : run d (before ++ s :: after) =
      ((run d before).1 ++ (step d₀ s).1 :: (run (step d₀ s).2 after).1, (run (step d₀ s).2 after).2) := by
    rw [run_append]
    rfl
  refine ⟨hrun, ?_, ?_, ?_⟩
  · rintro m r path rfl
    exact ⟨_, rfl, result_migrateFile d₀ m r path, fun f => migrateFile_of_error, fun mig => replaced_migrateFile⟩
  · rintro m path rfl
    rfl
  · rintro path x? rfl
    rfl

end Session

end AnalyzerBench

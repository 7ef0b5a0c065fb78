import AnalyzerBench.Command.Tool

/-!
# What a request comes to

A command line that asks for something is answered like the request itself (`run_of_asked`).  What is seen of an
operation besides its log does not depend on the verbose flag: a fault ends with status 1, prints nothing and replaces
nothing (`Outcome.shows_of_error`).
-/

namespace AnalyzerBench.Command

variable {α : Type} {t : Tool} {arguments : List String} {r : Request} {o : Outcome} {d : Directory}
variable {path text : String}

/-- The outcome of a request in a directory, together with the directory that is left. -/
def Request.run (d : Directory) (r : Request) : Outcome × Directory :=
  (r.outcome (r.content d), r.left d (r.outcome (r.content d)))

theorem Asked.map_eq_request_iff {β : Type} {f : α → β} {a : Asked α} {b : β} :
    a.map f = .request b ↔ ∃ x, a = .request x ∧ f x = b := by
  cases a <;> simp [Asked.map]

theorem run_of_asked (h : t.asked arguments = .request r) (d : Directory) : t.run arguments d = r.run d := by
  unfold Tool.run
  rw [h]
  rfl

/-- An outcome that asks for no new text leaves the directory as it was. -/
theorem Request.run_of_none (ho : r.outcome (r.content d) = o) (h : o.replacement = none) : r.run d = (o, d) := by
  unfold run left
  rw [ho, h]
  cases r.file? with
  | none => rfl
  | some path => rfl

theorem Request.run_of_some (ho : r.outcome (r.content d) = o) (hfile : r.file? = some path)
    (h : o.replacement = some text) : r.run d = (o, d.replace path text) := by
  unfold run left
  rw [ho, hfile, h]

namespace Outcome

/-- What is seen of an outcome besides what is logged and reported. -/
structure Shows (o : Outcome) (exit : Nat) (stdout : String) (replacement : Option String) : Prop where
  exit : o.exit = exit
  stdout : o.stdout = stdout
  replacement : o.replacement = replacement

variable {verbose : Bool} {context : List String} {run : Run α} {success : α → Outcome}

theorem shows_of_ok {a : α} (h : run.result = .ok a) :
    (ofRun verbose context run success).Shows (success a).exit (success a).stdout (success a).replacement := by
  unfold ofRun
  rw [h]
  exact ⟨rfl, rfl, rfl⟩

theorem shows_of_error {f : Fault} (h : run.result = .error f) :
    (ofRun verbose context run success).Shows 1 "" none := by
  unfold ofRun
  rw [h]
  exact ⟨rfl, rfl, rfl⟩

end Outcome

end AnalyzerBench.Command

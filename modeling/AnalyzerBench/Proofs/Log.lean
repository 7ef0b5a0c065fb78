import AnalyzerBench.Log
import AnalyzerBench.Proofs.Except
import AnalyzerBench.Proofs.Text.Digits

/-!
# Results and logs of operations

The result of a sequence of operations does not depend on what they say, and its log is what they say in turn, up to the
first fault.  The warning about a moved directive differs from all other records (`Event.record_eq_regathered_iff`).
-/

namespace AnalyzerBench

/-- The warning about a moved directive is known by its level and its text, and the text names the line. -/
theorem Event.record_eq_regathered_iff {e : Event} {n : Nat} :
    (e.level, e.message) =
        (.warn, "line " ++ Text.decimal n ++ ": directive after ordinary lines; merging it into the first block") ↔
      e = .regathered n := by
  constructor
  · intro h
    obtain ⟨hlevel, hmessage⟩ := Prod.mk.inj h
    cases e with
    | regathered line =>
      dsimp only [message] at hmessage
      rw [String.append_left_inj, String.append_right_inj] at hmessage
      rw [Text.decimal_inj hmessage]
    -- The other warnings start with another letter.
    | unknownDomain name known =>
      dsimp only [message] at hmessage
      simp [← String.toList_inj] at hmessage
    | dropped kept surplus =>
      dsimp only [message] at hmessage
      simp [← String.toList_inj] at hmessage
    | _ => cases hlevel
  · rintro rfl
    rfl

namespace Run

variable {α β : Type}

@[simp] theorem result_pure (a : α) : (pure a : Run α).result = .ok a := rfl

@[simp] theorem result_fault (f : Fault) : (fault f : Run α).result = .error f := rfl

@[simp] theorem result_ofExcept (x : Except Fault α) : (ofExcept x).result = x := rfl

@[simp] theorem result_say (e : Event) : (say e).result = .ok () := rfl

@[simp] theorem result_sayAll (es : List Event) : (sayAll es).result = .ok () := rfl

@[simp] theorem result_bind (r : Run α) (next : α → Run β) :
    (r >>= next).result = r.result >>= fun a => (next a).result := by
  obtain ⟨log, result⟩ := r
  cases result <;> rfl

@[simp] theorem log_pure (a : α) : (pure a : Run α).log = [] := rfl

@[simp] theorem log_fault (f : Fault) : (fault f : Run α).log = [] := rfl

@[simp] theorem log_ofExcept (x : Except Fault α) : (ofExcept x).log = [] := rfl

@[simp] theorem log_say (e : Event) : (say e).log = [e] := rfl

@[simp] theorem log_sayAll (es : List Event) : (sayAll es).log = es := rfl

theorem log_bind (r : Run α) (next : α → Run β) :
    (r >>= next).log = r.log ++ match r.result with
      | .ok a => (next a).log
      | .error _ => [] := by
  obtain ⟨log, result⟩ := r
  cases result with
  | error f => exact (List.append_nil log).symm
  | ok a => rfl

end Run

end AnalyzerBench

import Mathlib.Data.List.Forall2

/-!
# Results of operations that may fail

When a sequence of operations succeeds and when it fails, and that success with a given result can be decided.
-/

namespace AnalyzerBench

variable {ε α β : Type}

@[simp] theorem ok_bind (a : α) (f : α → Except ε β) : (.ok a : Except ε α) >>= f = f a := rfl

@[simp] theorem error_bind (e : ε) (f : α → Except ε β) : (.error e : Except ε α) >>= f = .error e := rfl

theorem bind_eq_ok_iff {x : Except ε α} {f : α → Except ε β} {b : β} :
    x >>= f = .ok b ↔ ∃ a, x = .ok a ∧ f a = .ok b := by
  cases x with
  | error e => simp
  | ok a => simp

theorem map_eq_map_iff {f : α → β} (hf : Function.Injective f) {x y : Except ε α} : x.map f = y.map f ↔ x = y := by
  cases x with
  | error e => cases y <;> simp [Except.map]
  | ok a => cases y <;> simp [Except.map, hf.eq_iff]

/-- Operating on a list succeeds exactly if each item gives the result in its place. -/
theorem mapM_eq_ok_iff {f : α → Except ε β} {as : List α} {bs : List β} :
    as.mapM f = .ok bs ↔ List.Forall₂ (fun a b => f a = .ok b) as bs := by
  induction as generalizing bs with
  | nil => simp [pure, Except.pure, eq_comm]
  | cons a as ih =>
    simp only [List.mapM_cons, bind_eq_ok_iff, List.forall₂_cons_left_iff, ih]
    constructor
    · rintro ⟨b, hb, bs', hbs, e⟩
      exact ⟨b, bs', hb, hbs, by simpa [pure, Except.pure, eq_comm] using e⟩
    · rintro ⟨b, bs', hb, hbs, rfl⟩
      exact ⟨b, hb, bs', hbs, rfl⟩

/-- An operation that undoes `g` succeeds exactly on lists of results of `g`. -/
theorem mapM_eq_ok_iff_map {f : α → Except ε β} {g : β → α} (hf : ∀ a b, f a = .ok b ↔ a = g b) {as : List α}
    {bs : List β} : as.mapM f = .ok bs ↔ as = bs.map g := by
  simp only [mapM_eq_ok_iff, hf]
  rw [← List.forall₂_map_right_iff, List.forall₂_eq_eq_eq]

/-- Operating on a list fails exactly with the first item that fails. -/
theorem mapM_eq_error_iff {f : α → Except ε β} {as : List α} {e : ε} :
    as.mapM f = .error e ↔
      ∃ before a after, as = before ++ a :: after ∧ (∀ x ∈ before, ∃ b, f x = .ok b) ∧ f a = .error e := by
  induction as with
  | nil => simp [pure, Except.pure]
  | cons a as ih =>
    rw [List.mapM_cons]
    constructor
    · intro h
      cases ha : f a with
      | error e' =>
        rw [ha, error_bind] at h
        exact ⟨[], a, as, rfl, by simp, ha.trans (by rw [Except.error.inj h])⟩
      | ok b =>
        cases has : as.mapM f with
        | error e' =>
          rw [ha, ok_bind, has, error_bind] at h
          obtain ⟨before, a', after, rfl, hbefore, ha'⟩ := ih.1 (has.trans (by rw [Except.error.inj h]))
          exact ⟨a :: before, a', after, rfl, List.forall_mem_cons.2 ⟨⟨b, ha⟩, hbefore⟩, ha'⟩
        | ok bs =>
          rw [ha, ok_bind, has] at h
          cases h
    · rintro ⟨before, a', after, has, hbefore, ha'⟩
      cases before with
      | nil =>
        obtain ⟨rfl, rfl⟩ := List.cons.inj has
        rw [ha', error_bind]
      | cons x before =>
        obtain ⟨rfl, rfl⟩ := List.cons.inj has
        obtain ⟨⟨b, hb⟩, hbefore⟩ := List.forall_mem_cons.1 hbefore
        rw [hb, ok_bind, ih.2 ⟨before, a', after, rfl, hbefore, ha'⟩, error_bind]

theorem exists_mapM_eq_ok_iff {f : α → Except ε β} {as : List α} :
    (∃ bs, as.mapM f = .ok bs) ↔ ∀ a ∈ as, ∃ b, f a = .ok b := by
  constructor
  · rintro ⟨bs, h⟩
    rw [mapM_eq_ok_iff] at h
    induction h with
    | nil => simp
    | cons hab _ ih => exact List.forall_mem_cons.2 ⟨⟨_, hab⟩, ih⟩
  · intro h
    cases has : as.mapM f with
    | ok bs => exact ⟨bs, rfl⟩
    | error e =>
      obtain ⟨before, a, after, rfl, -, ha⟩ := mapM_eq_error_iff.1 has
      obtain ⟨b, hb⟩ := h a (by simp)
      rw [ha] at hb
      cases hb

instance decidableEqOk [DecidableEq α] (x : Except ε α) (a : α) : Decidable (x = .ok a) :=
  match x with
  | .ok b => decidable_of_iff (b = a) (by simp)
  | .error _ => isFalse (by simp)

end AnalyzerBench

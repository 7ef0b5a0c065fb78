import AnalyzerBench.Text.Quoted

/-!
# Closed texts

A value is written without line feeds, and with backslashes and equals signs only between double quotes.  Such a text
is read by a machine that knows whether it is outside quotes, inside, or inside after a backslash, and that stops where
one of these rules is broken.  A text is closed if reading it from outside leads back outside, while reading it from
inside never leads outside (`Closed`): the machine that starts on the wrong side of a quote stays on the wrong side.

The main fact: in an assignment whose value is closed, the value starts after the last `= ` that stands outside quotes,
so the key and the value can be told apart, whatever the key is (`Closed.assignment_inj`).
-/

namespace AnalyzerBench.Text.Chars

/-- Where a reader of quoted text stands. -/
inductive Side where
  | outside
  | inside
  /-- Inside, after a backslash. -/
  | escaped
  deriving DecidableEq, Repr

/-- Reads one character. -/
def Side.next? (side : Side) (c : Char) : Option Side :=
  if c = '\n' then none
  else match side with
    | .outside => if c = '"' then some .inside else if c = '\\' ∨ c = '=' then none else some .outside
    | .inside => if c = '"' then some .outside else if c = '\\' then some .escaped else some .inside
    | .escaped => some .inside

/-- Reads a text. -/
def Side.after? (side : Side) : List Char → Option Side
  | [] => some side
  | c :: cs => (side.next? c).bind fun s => s.after? cs

@[simp] theorem Side.after?_nil (side : Side) : side.after? [] = some side := rfl

theorem Side.after?_append (side : Side) (cs ds : List Char) :
    side.after? (cs ++ ds) = (side.after? cs).bind fun s => s.after? ds := by
  induction cs generalizing side with
  | nil => rfl
  | cons c cs ih =>
    simp only [List.cons_append, Side.after?, Option.bind_assoc]
    congr 1
    funext s
    exact ih s

/-- A line feed is never read. -/
theorem Side.not_mem_of_after? {side s : Side} {cs : List Char} (h : side.after? cs = some s) : '\n' ∉ cs := by
  induction cs generalizing side with
  | nil => simp
  | cons c cs ih =>
    simp only [Side.after?, Option.bind_eq_some_iff] at h
    obtain ⟨t, ht, hs⟩ := h
    have hc : c ≠ '\n' := by
      rintro rfl
      simp [Side.next?] at ht
    simp only [List.mem_cons, not_or]
    exact ⟨Ne.symm hc, ih hs⟩

/-- A text that leads from outside back outside, and from inside nowhere but inside. -/
structure Closed (cs : List Char) : Prop where
  outside : Side.outside.after? cs = some .outside
  inside : ∀ s ∈ Side.inside.after? cs, s = .inside

/-- A text that may stand between quotes: it leads from inside back inside, and from outside nowhere but outside. -/
structure Enclosed (cs : List Char) : Prop where
  inside : Side.inside.after? cs = some .inside
  outside : ∀ s ∈ Side.outside.after? cs, s = .outside

variable {cs ds k₁ k₂ v₁ v₂ : List Char}

theorem Closed.not_mem (h : Closed cs) : '\n' ∉ cs := Side.not_mem_of_after? h.outside

theorem Closed.append (h : Closed cs) (h' : Closed ds) : Closed (cs ++ ds) where
  outside := by rw [Side.after?_append, h.outside, Option.bind_some, h'.outside]
  inside := by
    intro s hs
    rw [Side.after?_append, Option.mem_def, Option.bind_eq_some_iff] at hs
    obtain ⟨t, ht, hs⟩ := hs
    obtain rfl := h.inside t ht
    exact h'.inside s hs

theorem Enclosed.append (h : Enclosed cs) (h' : Enclosed ds) : Enclosed (cs ++ ds) where
  inside := by rw [Side.after?_append, h.inside, Option.bind_some, h'.inside]
  outside := by
    intro s hs
    rw [Side.after?_append, Option.mem_def, Option.bind_eq_some_iff] at hs
    obtain ⟨t, ht, hs⟩ := hs
    obtain rfl := h.outside t ht
    exact h'.outside s hs

theorem Enclosed.flatMap {α : Type} {f : α → List Char} (h : ∀ a, Enclosed (f a)) (as : List α) :
    Enclosed (as.flatMap f) := by
  induction as with
  | nil => exact ⟨rfl, by simp⟩
  | cons a as ih => simpa using (h a).append ih

/-- A text between quotes is closed. -/
theorem Enclosed.quoted (h : Enclosed cs) : Closed ('"' :: (cs ++ ['"'])) where
  outside := by simp [Side.after?, Side.next?, Side.after?_append, h.inside]
  inside := by
    intro s hs
    simp only [Side.after?, Side.next?, Side.after?_append, Option.mem_def, Option.bind_eq_some_iff] at hs
    obtain ⟨t, ht, u, hu, w, hw, hs⟩ := hs
    obtain rfl : Side.outside = t := by simpa using ht
    obtain rfl := h.outside u hu
    obtain rfl : Side.inside = w := by simpa using hw
    simpa using hs.symm

/-- The characters that mean the same on either side of a quote. -/
def isInert (c : Char) : Bool := c != '\n' && c != '"' && c != '\\' && c != '='

private theorem Side.after?_of_inert {side : Side} (hside : side ≠ .escaped) (h : ∀ c ∈ cs, isInert c = true) :
    side.after? cs = some side := by
  induction cs with
  | nil => rfl
  | cons c cs ih =>
    have hc : isInert c = true := h c (by simp)
    have hnext : side.next? c = some side := by
      simp only [isInert, Bool.and_eq_true, bne_iff_ne] at hc
      cases side with
      | outside => simp [Side.next?, hc]
      | inside => simp [Side.next?, hc]
      | escaped => exact absurd rfl hside
    rw [Side.after?, hnext, Option.bind_some, ih fun c hc => h c (by simp [hc])]

theorem Closed.of_inert (h : ∀ c ∈ cs, isInert c = true) : Closed cs := by
  have hin : Side.inside.after? cs = some .inside := Side.after?_of_inert (by decide) h
  exact ⟨Side.after?_of_inert (by decide) h, by simp [hin]⟩

theorem Closed.literal (h : cs.all isInert = true) : Closed cs := .of_inert (List.all_eq_true.1 h)

theorem Enclosed.of_inert (h : ∀ c ∈ cs, isInert c = true) : Enclosed cs := by
  have hout : Side.outside.after? cs = some .outside := Side.after?_of_inert (by decide) h
  exact ⟨Side.after?_of_inert (by decide) h, by simp [hout]⟩

theorem Enclosed.singleton {c : Char} (hn : c ≠ '\n') (hq : c ≠ '"') (hb : c ≠ '\\') : Enclosed [c] where
  inside := by simp [Side.after?, Side.next?, hn, hq, hb]
  outside := by
    by_cases he : c = '='
    · simp [Side.after?, Side.next?, he]
    · simp [Side.after?, Side.next?, hn, hq, hb, he]

/-- A backslash and the character that it escapes may stand between quotes. -/
theorem Enclosed.backslash {c : Char} (hc : c ≠ '\n') (h : Enclosed cs) : Enclosed ('\\' :: c :: cs) where
  inside := by simp [Side.after?, Side.next?, hc, h.inside]
  outside := by simp [Side.after?, Side.next?]

/-- A closed text has no end that is closed and follows an equals sign and a blank. -/
theorem Closed.not_assignment (h₁ : Closed v₁) (h₂ : Closed v₂) (x : List Char) : v₁ ≠ x ++ '=' :: ' ' :: v₂ := by
  rintro rfl
  have hread := h₁.outside
  rw [Side.after?_append, Option.bind_eq_some_iff] at hread
  obtain ⟨s, -, hs⟩ := hread
  simp only [Side.after?, Option.bind_eq_some_iff] at hs
  obtain ⟨t, ht, u, hu, hv⟩ := hs
  -- The equals sign stands inside quotes, so the end is read from inside.
  obtain rfl : t = .inside := by
    cases s with
    | outside => simp [Side.next?] at ht
    | inside => simpa [Side.next?] using ht.symm
    | escaped => simpa [Side.next?] using ht.symm
  obtain rfl : Side.inside = u := by simpa [Side.next?] using hu
  exact absurd (h₂.inside _ hv) (by decide)

private theorem Closed.eq_nil_of_separated (h₁ : Closed v₁) (h₂ : Closed v₂) {u : List Char}
    (h : [' ', '=', ' '] ++ v₁ = u ++ ([' ', '=', ' '] ++ v₂)) : u = [] := by
  rcases u with _ | ⟨a, _ | ⟨b, _ | ⟨c, x⟩⟩⟩
  · rfl
  · simp at h
  · simp only [List.cons_append, List.nil_append, List.cons.injEq] at h
    exact absurd h.2.2.2 (h₁.not_assignment h₂ [])
  · simp only [List.cons_append, List.nil_append, List.cons.injEq] at h
    exact absurd (h.2.2.2.trans (by simp)) (h₁.not_assignment h₂ (x ++ [' ']))

/-- An assignment of a closed value determines its key and its value. -/
theorem Closed.assignment_inj (h₁ : Closed v₁) (h₂ : Closed v₂)
    (h : k₁ ++ ([' ', '=', ' '] ++ v₁) = k₂ ++ ([' ', '=', ' '] ++ v₂)) : k₁ = k₂ ∧ v₁ = v₂ := by
  rcases List.append_eq_append_iff.1 h with ⟨u, rfl, e⟩ | ⟨u, rfl, e⟩
  · obtain rfl := h₁.eq_nil_of_separated h₂ e
    exact ⟨by simp, by simpa using e⟩
  · obtain rfl := h₂.eq_nil_of_separated h₁ e
    exact ⟨by simp, by simpa using e.symm⟩

end AnalyzerBench.Text.Chars

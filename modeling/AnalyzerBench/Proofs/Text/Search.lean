import AnalyzerBench.Proofs.Text.Blank
import AnalyzerBench.Text.Search

/-!
# Leftmost occurrences

`FirstCut needle cs before after` says that `cs` is cut at the leftmost occurrence of `needle`.  The search finds such a
cut exactly if the needle occurs (`cutAt?_eq_some_iff`, `cutAt?_eq_none_iff`).  There is at most one
(`FirstCut.unique`), and it stays where it is whatever text is put in place of the one after it (`FirstCut.append`).  A
character that is not in the needle keeps it from beginning in the text before that character
(`FirstCut.of_separated`), and a needle that ends in no blank is found alike whatever blanks end the text
(`map_cutAt?_trimEnd`).
-/

namespace AnalyzerBench.Text.Chars

/-- What stands before and after the leftmost occurrence of the needle. -/
structure FirstCut (needle cs before after : List Char) : Prop where
  eq : cs = before ++ needle ++ after
  least : ∀ b a, cs = b ++ needle ++ a → before.length ≤ b.length

variable {needle cs before after : List Char}

theorem afterStart?_eq_some_iff {start cs rest : List Char} :
    afterStart? start cs = some rest ↔ cs = start ++ rest := by
  induction start generalizing cs with
  | nil => simp [afterStart?]
  | cons a start ih =>
    cases cs with
    | nil => simp [afterStart?]
    | cons c cs =>
      simp only [afterStart?, List.cons_append, List.cons.injEq]
      split
      · next h => simp [h, ih]
      · next h => simp [Ne.symm h]

theorem FirstCut.unique {b a : List Char} (h : FirstCut needle cs before after) (h' : FirstCut needle cs b a) :
    before = b ∧ after = a := by
  have hlen : before.length = b.length := Nat.le_antisymm (h.least _ _ h'.eq) (h'.least _ _ h.eq)
  have e : before ++ (needle ++ after) = b ++ (needle ++ a) := by
    rw [← List.append_assoc, ← List.append_assoc, ← h.eq, h'.eq]
  obtain ⟨hb, ha⟩ := List.append_inj e hlen
  exact ⟨hb, List.append_cancel_left ha⟩

private theorem FirstCut.of_start (h : cs = needle ++ after) : FirstCut needle cs [] after :=
  ⟨by simpa using h, fun _ _ _ => Nat.zero_le _⟩

private theorem FirstCut.cons {c : Char} (h : FirstCut needle cs before after) (hc : ¬ needle <+: c :: cs) :
    FirstCut needle (c :: cs) (c :: before) after := by
  refine ⟨by simp [h.eq], fun b a e => ?_⟩
  cases b with
  | nil => exact absurd ⟨a, by simpa using e.symm⟩ hc
  | cons x b =>
    simp only [List.cons_append, List.cons.injEq] at e
    simpa using h.least b a e.2

/-- The search finds the leftmost occurrence. -/
theorem firstCut_of_cutAt? (h : cutAt? needle cs = some (before, after)) : FirstCut needle cs before after := by
  induction cs generalizing before with
  | nil =>
    simp only [cutAt?, Option.map_eq_some_iff, Prod.mk.injEq] at h
    obtain ⟨rest, hrest, rfl, rfl⟩ := h
    exact .of_start (afterStart?_eq_some_iff.1 hrest)
  | cons c cs ih =>
    unfold cutAt? at h
    split at h
    · next rest hrest =>
      simp only [Option.some.injEq, Prod.mk.injEq] at h
      obtain ⟨rfl, rfl⟩ := h
      exact .of_start (afterStart?_eq_some_iff.1 hrest)
    · next hstart =>
      simp only [Option.map_eq_some_iff, Prod.mk.injEq, Prod.exists] at h
      obtain ⟨b, a, hcut, rfl, rfl⟩ := h
      refine (ih hcut).cons ?_
      rintro ⟨rest, e⟩
      rw [afterStart?_eq_some_iff.2 e.symm] at hstart
      cases hstart

theorem cutAt?_eq_none_iff : cutAt? needle cs = none ↔ ¬ needle <:+: cs := by
  constructor
  · intro h
    induction cs with
    | nil =>
      simp only [cutAt?, Option.map_eq_none_iff] at h
      rw [List.infix_nil]
      rintro rfl
      simp [afterStart?] at h
    | cons c cs ih =>
      unfold cutAt? at h
      split at h
      · cases h
      · next hstart =>
        rw [List.infix_cons_iff]
        rintro (⟨rest, e⟩ | hin)
        · rw [afterStart?_eq_some_iff.2 e.symm] at hstart
          cases hstart
        · exact ih (Option.map_eq_none_iff.1 h) hin
  · intro h
    cases hcut : cutAt? needle cs with
    | none => rfl
    | some cut => exact absurd ⟨cut.1, cut.2, (firstCut_of_cutAt? hcut).eq.symm⟩ h

/-- The test whether the needle occurs agrees with the search. -/
theorem contains_iff : contains needle cs = true ↔ needle <:+: cs := by
  induction cs with
  | nil => simp [contains]
  | cons c cs ih => rw [contains, Bool.or_eq_true, List.isPrefixOf_iff_prefix, ih, List.infix_cons_iff]

theorem cutAt?_eq_some_iff : cutAt? needle cs = some (before, after) ↔ FirstCut needle cs before after := by
  refine ⟨firstCut_of_cutAt?, fun h => ?_⟩
  cases hcut : cutAt? needle cs with
  | none => exact absurd ⟨before, after, h.eq.symm⟩ (cutAt?_eq_none_iff.1 hcut)
  | some cut =>
    obtain ⟨hb, ha⟩ := (firstCut_of_cutAt? hcut).unique h
    rw [← hb, ← ha]

/-- The leftmost occurrence does not depend on the text after it. -/
theorem FirstCut.append (h : FirstCut needle cs before after) (s : List Char) :
    FirstCut needle (before ++ needle ++ s) before s := by
  refine ⟨rfl, fun b a e => ?_⟩
  by_cases hlt : b.length < before.length
  · have hlen : (b ++ needle).length ≤ (before ++ needle).length := by
      rw [List.length_append, List.length_append]
      omega
    have hpre : b ++ needle <+: before ++ needle :=
      List.prefix_of_prefix_length_le ⟨a, e.symm⟩ (List.prefix_append _ s) hlen
    obtain ⟨t, ht⟩ := hpre
    exact h.least b (t ++ after) (by rw [h.eq, ← ht]; simp)
  · omega

/-- Behind a character that is not in it, the needle occurs for the first time if it does not occur before. -/
theorem FirstCut.of_separated {c : Char} (hc : c ∉ needle) (h : ¬ needle <:+: before) (after : List Char) :
    FirstCut needle (before ++ [c] ++ needle ++ after) (before ++ [c]) after := by
  refine ⟨rfl, fun b a e => Nat.le_of_not_lt fun hlt => ?_⟩
  have hle : b.length ≤ before.length := by
    rw [List.length_append, List.length_singleton] at hlt
    omega
  have hsplit : before ++ c :: (needle ++ after) = b ++ (needle ++ a) := by simpa using e
  obtain ⟨t, rfl⟩ : b <+: before := List.prefix_of_prefix_length_le ⟨_, hsplit.symm⟩ (List.prefix_append _ _) hle
  have hrest : t ++ c :: (needle ++ after) = needle ++ a := by simpa using hsplit
  rcases List.append_eq_append_iff.1 hrest with ⟨u, hneedle, hu⟩ | ⟨u, rfl, -⟩
  · cases u with
    | nil => exact h ⟨b, [], by simp [hneedle]⟩
    | cons x u =>
      obtain rfl : c = x := (List.cons.inj hu).1
      exact hc (by simp [hneedle])
  · exact h ⟨b, u, by simp⟩

theorem FirstCut.not_occurs (h : FirstCut needle cs before after) (hne : needle ≠ []) : ¬ needle <:+: before := by
  rintro ⟨b, a, hbefore⟩
  have hleast := h.least b (a ++ needle ++ after) (by rw [h.eq, ← hbefore]; simp)
  have hpos : 0 < needle.length := List.length_pos_iff.2 hne
  rw [← hbefore, List.length_append, List.length_append] at hleast
  omega

/-- The needle ends for the first time where the cut is. -/
theorem FirstCut.ends_first (h : FirstCut needle cs before after) {p : List Char} (hp : p <+: cs)
    (hn : needle <:+ p) : before ++ needle <+: p := by
  obtain ⟨b, rfl⟩ := hn
  obtain ⟨a, ha⟩ := hp
  have hlen : (before ++ needle).length ≤ (b ++ needle).length := by
    have hleast := h.least b a ha.symm
    rw [List.length_append, List.length_append]
    omega
  exact List.prefix_of_prefix_length_le ⟨after, h.eq.symm⟩ ⟨a, ha⟩ hlen

/-! ### Text at the ends -/

/-- The needle does not reach into a text without the character that it ends in. -/
theorem infix_append_iff {c : Char} (hlast : needle.getLast? = some c) (hc : c ∉ after) :
    needle <:+: cs ++ after ↔ needle <:+: cs := by
  constructor
  · rintro ⟨b, a, e⟩
    rcases List.append_eq_append_iff.1 e with ⟨u, hcs, -⟩ | ⟨u, hu, hafter⟩
    · exact ⟨b, u, hcs.symm⟩
    · cases hend : u.getLast? with
      | none =>
        rw [List.getLast?_eq_none_iff.1 hend, List.append_nil] at hu
        exact ⟨b, [], by rw [List.append_nil, hu]⟩
      | some d =>
        have hsame := congrArg List.getLast? hu
        rw [List.getLast?_append, List.getLast?_append, hlast, hend] at hsame
        obtain rfl : c = d := Option.some.inj hsame
        exact absurd (by simp [hafter, List.mem_of_getLast? hend]) hc
  · intro h
    exact h.trans (List.prefix_append cs after).isInfix

/-- The needle does not reach back into a text without the character that it begins with. -/
theorem append_infix_iff {c : Char} (hhead : needle.head? = some c) (hc : c ∉ before) :
    needle <:+: before ++ cs ↔ needle <:+: cs := by
  have hlast : needle.reverse.getLast? = some c := by rw [List.getLast?_reverse, hhead]
  have hreversed : c ∉ before.reverse := by simpa using hc
  rw [← List.reverse_infix, List.reverse_append, infix_append_iff hlast hreversed, List.reverse_infix]

theorem cutAt?_append {c : Char} (hlast : needle.getLast? = some c) (hc : c ∉ after) (cs : List Char) :
    cutAt? needle (cs ++ after) = (cutAt? needle cs).map fun cut => (cut.1, cut.2 ++ after) := by
  cases hcut : cutAt? needle cs with
  | none =>
    rw [Option.map_none, cutAt?_eq_none_iff, infix_append_iff hlast hc]
    exact cutAt?_eq_none_iff.1 hcut
  | some cut =>
    have hfirst := firstCut_of_cutAt? hcut
    rw [Option.map_some, cutAt?_eq_some_iff, hfirst.eq, List.append_assoc]
    exact hfirst.append (cut.2 ++ after)

end AnalyzerBench.Text.Chars

namespace AnalyzerBench.Text

/-- Blanks at the end of a text have no part in where it is cut, and are trimmed away from what stands after the cut. -/
theorem map_cutAt?_trimEnd {α : Type} (needle : String) {c : Char} (hlast : needle.toList.getLast? = some c)
    (hc : isBlank c = false) (f : String → String → α) (s : String) :
    ((cutAt? needle (trimEnd s)).map fun cut => f cut.1 (trim cut.2)) =
      (cutAt? needle s).map fun cut => f cut.1 (trim cut.2) := by
  obtain ⟨after, hafter, hs⟩ := Chars.exists_trimEnd_append s.toList
  have hnot : c ∉ after := by
    intro hmem
    rw [hafter c hmem] at hc
    cases hc
  have hcut := Chars.cutAt?_append hlast hnot (Chars.trimEnd s.toList)
  rw [← hs] at hcut
  simp [cutAt?, trimEnd, hcut, trim, Function.comp_def, Chars.trim_append_blank hafter]

end AnalyzerBench.Text

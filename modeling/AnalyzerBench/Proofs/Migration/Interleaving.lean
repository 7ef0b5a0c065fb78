import AnalyzerBench.Proofs.Migration.Frame

/-!
# Directives between ordinary lines

A line is moved by a migration if it is a directive and an ordinary line stands between it and a directive before it
(`Interleaved`).  The layout of a file names the first such line (`regathered_eq_some_iff`), a migration says so before
anything else and only once, and without one the directives stand together, so that the block takes their place and all
ordinary lines stay where they are (`migrateBy_interleaving`).
-/

namespace AnalyzerBench.Migration

variable {m : Marker} {r : Registry} {text : String} {lines : List String} {l : Layout}

/-- The line at an index is a directive. -/
def DirectiveAt (m : Marker) (lines : List String) (i : Nat) : Prop := ∃ line ∈ lines[i]?, m.find? line ≠ none

/-- The line at an index is no directive. -/
def OrdinaryAt (m : Marker) (lines : List String) (i : Nat) : Prop := ∃ line ∈ lines[i]?, m.find? line = none

/-- The line at the index `k` is a directive, and an ordinary line stands between it and a directive before it. -/
def Interleaved (m : Marker) (lines : List String) (k : Nat) : Prop :=
  ∃ i j, i < j ∧ j < k ∧ DirectiveAt m lines i ∧ OrdinaryAt m lines j ∧ DirectiveAt m lines k

/-- The line at the index `k` is a directive after an ordinary line; `gap` tells whether there was one before. -/
private def AfterGap (m : Marker) (gap : Bool) (lines : List String) (k : Nat) : Prop :=
  DirectiveAt m lines k ∧ (gap = true ∨ ∃ j < k, OrdinaryAt m lines j)

/-- Counted from `number`, the given number is that of the first index with a property; none if no index has it. -/
private def IsFirst (P : Nat → Prop) (number : Nat) : Option Nat → Prop
  | some n => ∃ k, n = number + k ∧ P k ∧ ∀ j < k, ¬ P j
  | none => ∀ k, ¬ P k

/-! ### Indices -/

private theorem IsFirst.succ {P Q : Nat → Prop} {number : Nat} {n? : Option Nat} (hzero : ¬ P 0)
    (hsucc : ∀ k, P (k + 1) ↔ Q k) (h : IsFirst Q (number + 1) n?) : IsFirst P number n? := by
  cases n? with
  | none =>
    intro k
    cases k with
    | zero => exact hzero
    | succ k => exact fun hk => h k ((hsucc k).1 hk)
  | some n =>
    obtain ⟨k, hn, hk, hfirst⟩ := h
    refine ⟨k + 1, by omega, (hsucc k).2 hk, ?_⟩
    intro j hj
    cases j with
    | zero => exact hzero
    | succ j => exact fun hPj => hfirst j (by omega) ((hsucc j).1 hPj)

private theorem IsFirst.eq_some_iff {P : Nat → Prop} {number n : Nat} {n? : Option Nat} (h : IsFirst P number n?) :
    n? = some n ↔ ∃ k, n = number + k ∧ P k ∧ ∀ j < k, ¬ P j := by
  constructor
  · rintro rfl
    exact h
  · rintro ⟨k, rfl, hk, hfirst⟩
    cases n? with
    | none => exact absurd hk (h k)
    | some n' =>
      obtain ⟨k', rfl, hk', hfirst'⟩ := h
      rcases Nat.lt_trichotomy k k' with hlt | rfl | hlt
      · exact absurd hk (hfirst' k hlt)
      · rfl
      · exact absurd hk' (hfirst k' hlt)

private theorem directiveAt_zero (x : String) : DirectiveAt m (x :: lines) 0 ↔ m.find? x ≠ none := by
  simp [DirectiveAt]

private theorem directiveAt_succ (x : String) (k : Nat) :
    DirectiveAt m (x :: lines) (k + 1) ↔ DirectiveAt m lines k := by
  simp [DirectiveAt]

private theorem ordinaryAt_succ (x : String) (k : Nat) : OrdinaryAt m (x :: lines) (k + 1) ↔ OrdinaryAt m lines k := by
  simp [OrdinaryAt]

private theorem exists_ordinaryAt_succ (x : String) (k : Nat) :
    (∃ j < k + 1, OrdinaryAt m (x :: lines) j) ↔ m.find? x = none ∨ ∃ j < k, OrdinaryAt m lines j := by
  constructor
  · rintro ⟨j, hj, hordinary⟩
    cases j with
    | zero => exact .inl (by simpa [OrdinaryAt] using hordinary)
    | succ j => exact .inr ⟨j, by omega, (ordinaryAt_succ x j).1 hordinary⟩
  · rintro (hx | ⟨j, hj, hordinary⟩)
    · exact ⟨0, by omega, by simpa [OrdinaryAt] using hx⟩
    · exact ⟨j + 1, by omega, (ordinaryAt_succ x j).2 hordinary⟩

private theorem afterGap_succ (gap : Bool) (x : String) (k : Nat) :
    AfterGap m gap (x :: lines) (k + 1) ↔ AfterGap m (gap || (m.find? x).isNone) lines k := by
  unfold AfterGap
  rw [directiveAt_succ, exists_ordinaryAt_succ, Bool.or_eq_true, Option.isNone_iff_eq_none, or_assoc]

private theorem interleaved_succ_of_ordinary {x : String} (hx : m.find? x = none) (k : Nat) :
    Interleaved m (x :: lines) (k + 1) ↔ Interleaved m lines k := by
  constructor
  · rintro ⟨i, j, hij, hjk, hi, hj, hk⟩
    cases i with
    | zero => exact absurd hx ((directiveAt_zero x).1 hi)
    | succ i =>
      obtain ⟨j, rfl⟩ : ∃ j', j = j' + 1 := ⟨j - 1, by omega⟩
      exact ⟨i, j, by omega, by omega, (directiveAt_succ x i).1 hi, (ordinaryAt_succ x j).1 hj,
        (directiveAt_succ x k).1 hk⟩
  · rintro ⟨i, j, hij, hjk, hi, hj, hk⟩
    exact ⟨i + 1, j + 1, by omega, by omega, (directiveAt_succ x i).2 hi, (ordinaryAt_succ x j).2 hj,
      (directiveAt_succ x k).2 hk⟩

private theorem interleaved_succ_of_directive {x : String} (hx : m.find? x ≠ none) (k : Nat) :
    Interleaved m (x :: lines) (k + 1) ↔ AfterGap m false lines k := by
  constructor
  · rintro ⟨i, j, hij, hjk, -, hj, hk⟩
    obtain ⟨j, rfl⟩ : ∃ j', j = j' + 1 := ⟨j - 1, by omega⟩
    exact ⟨(directiveAt_succ x k).1 hk, .inr ⟨j, by omega, (ordinaryAt_succ x j).1 hj⟩⟩
  · rintro ⟨hk, hgap⟩
    rcases hgap with hgap | ⟨j, hj, hordinary⟩
    · cases hgap
    · exact ⟨0, j + 1, by omega, by omega, (directiveAt_zero x).2 hx, (ordinaryAt_succ x j).2 hordinary,
        (directiveAt_succ x k).2 hk⟩

private theorem not_interleaved_zero : ¬ Interleaved m lines 0 := by
  rintro ⟨i, j, -, hj, -⟩
  omega

/-! ### The first directive that is moved -/

private theorem first_directiveAfterGap (gap : Bool) (number : Nat) (lines : List String) :
    IsFirst (AfterGap m gap lines) number (directiveAfterGap? m gap number lines) := by
  induction lines generalizing gap number with
  | nil =>
    intro k hk
    simp [AfterGap, DirectiveAt] at hk
  | cons x lines ih =>
    unfold directiveAfterGap?
    cases hx : m.find? x with
    | none =>
      have hzero : ¬ AfterGap m gap (x :: lines) 0 := fun h => (directiveAt_zero x).1 h.1 hx
      refine IsFirst.succ hzero (fun k => ?_) (ih true (number + 1))
      rw [afterGap_succ, hx, Option.isNone_none, Bool.or_true]
    | some d =>
      cases gap with
      | true =>
        refine ⟨0, rfl, ⟨(directiveAt_zero x).2 (by simp [hx]), .inl rfl⟩, ?_⟩
        intro j hj
        omega
      | false =>
        have hzero : ¬ AfterGap m false (x :: lines) 0 := by
          rintro ⟨-, hgap | ⟨j, hj, -⟩⟩
          · cases hgap
          · omega
        refine IsFirst.succ hzero (fun k => ?_) (ih false (number + 1))
        rw [afterGap_succ, hx, Option.isNone_some, Bool.or_false]

private theorem first_ofLinesFrom {number : Nat} (h : Layout.ofLinesFrom? m number lines = some l) :
    IsFirst (Interleaved m lines) number l.regathered := by
  induction lines generalizing number l with
  | nil => cases h
  | cons x lines ih =>
    unfold Layout.ofLinesFrom? at h
    cases hx : m.find? x with
    | none =>
      simp only [hx] at h
      obtain ⟨k, hk, rfl⟩ := Option.map_eq_some_iff.1 h
      have hrest : IsFirst (Interleaved m lines) (number + 1) k.regathered := ih hk
      exact IsFirst.succ not_interleaved_zero (interleaved_succ_of_ordinary hx) hrest
    | some d =>
      simp only [hx] at h
      obtain rfl := Option.some.inj h
      exact IsFirst.succ not_interleaved_zero (interleaved_succ_of_directive (by simp [hx]))
        (first_directiveAfterGap false (number + 1) lines)

/-- The layout of a file names the first directive that an ordinary line keeps apart from those before it. -/
theorem regathered_eq_some_iff (h : Layout.ofLines? m lines = some l) {n : Nat} :
    l.regathered = some n ↔ ∃ k, n = k + 1 ∧ Interleaved m lines k ∧ ∀ j < k, ¬ Interleaved m lines j := by
  simpa only [Nat.add_comm 1] using (first_ofLinesFrom h).eq_some_iff (n := n)

theorem isSome_regathered_iff (h : Layout.ofLines? m lines = some l) :
    l.regathered.isSome = true ↔ ∃ k, Interleaved m lines k := by
  have hfirst := first_ofLinesFrom h
  constructor
  · intro hsome
    obtain ⟨n, hn⟩ := Option.isSome_iff_exists.1 hsome
    rw [hn] at hfirst
    obtain ⟨k, -, hk, -⟩ := hfirst
    exact ⟨k, hk⟩
  · rintro ⟨k, hk⟩
    by_contra hnone
    rw [Option.not_isSome_iff_eq_none.1 hnone] at hfirst
    exact hfirst k hk

/-- Lines without a layout hold no directive at all. -/
theorem not_interleaved_of_ofLines? (h : Layout.ofLines? m lines = none) (k : Nat) : ¬ Interleaved m lines k := by
  rintro ⟨i, -, -, -, ⟨line, hline, hfind⟩, -⟩
  obtain ⟨d, hd⟩ := Option.ne_none_iff_exists'.1 hfind
  have hnil : m.payloads lines = [] := Layout.ofLines?_eq_none_iff.1 h
  have hmem : d.payload ∈ m.payloads lines :=
    List.mem_filterMap.2 ⟨line, List.mem_of_getElem? hline, by rw [hd, Option.map_some]⟩
  rw [hnil] at hmem
  cases hmem

/-! ### Directives that stand together -/

private theorem ordinary_of_directiveAfterGap {number : Nat} (h : directiveAfterGap? m true number lines = none) :
    ∀ x ∈ lines, m.find? x = none := by
  induction lines generalizing number with
  | nil => simp
  | cons x lines ih =>
    unfold directiveAfterGap? at h
    split at h
    · cases h
    · next hx => exact List.forall_mem_cons.2 ⟨hx, ih h⟩

private theorem split_of_directiveAfterGap {number : Nat} (h : directiveAfterGap? m false number lines = none) :
    ∃ directives rest, lines = directives ++ rest ∧ (∀ x ∈ directives, m.find? x ≠ none) ∧
      ∀ x ∈ rest, m.find? x = none := by
  induction lines generalizing number with
  | nil => exact ⟨[], [], rfl, by simp, by simp⟩
  | cons x lines ih =>
    unfold directiveAfterGap? at h
    split at h
    · next d hd =>
      obtain ⟨directives, rest, rfl, hdirectives, hrest⟩ := ih h
      exact ⟨x :: directives, rest, rfl, List.forall_mem_cons.2 ⟨by simp [hd], hdirectives⟩, hrest⟩
    · next hx =>
      exact ⟨[], x :: lines, rfl, by simp, List.forall_mem_cons.2 ⟨hx, ordinary_of_directiveAfterGap h⟩⟩

private theorem regathered_ofLinesFrom {number : Nat} (h : Layout.ofLinesFrom? m number lines = some l) :
    ∃ line after start, lines = l.leading ++ line :: after ∧ l.regathered = directiveAfterGap? m false start after := by
  induction lines generalizing number l with
  | nil => cases h
  | cons x lines ih =>
    unfold Layout.ofLinesFrom? at h
    cases hx : m.find? x with
    | none =>
      simp only [hx] at h
      obtain ⟨k, hk, rfl⟩ := Option.map_eq_some_iff.1 h
      obtain ⟨line, after, start, hlines, hregathered⟩ := ih hk
      exact ⟨line, after, start, by simp [hlines], hregathered⟩
    | some d =>
      simp only [hx] at h
      obtain rfl := Option.some.inj h
      exact ⟨x, lines, number + 1, rfl, rfl⟩

/-- If no directive is moved, the directives stand together: the lines around them are the leading and the trailing
ones. -/
theorem Layout.directives_together (h : Layout.ofLines? m lines = some l) (hnone : l.regathered = none) :
    ∃ first more d, lines = l.leading ++ first :: more ++ l.trailing ∧ m.find? first = some d ∧
      (∀ x ∈ more, m.find? x ≠ none) ∧ l.opening = d.opening ∧ l.lineEnd = .ofLine first := by
  obtain ⟨line, after, d, hlines, -, hd, hopening, hend, -, htrailing⟩ := Layout.ofLines?_eq_some h
  obtain ⟨line', after', start, hlines', hregathered⟩ := regathered_ofLinesFrom h
  have hafter : after' = after := (List.cons.inj (List.append_cancel_left (hlines'.symm.trans hlines))).2
  rw [hnone, hafter] at hregathered
  obtain ⟨more, rest, rfl, hmore, hrest⟩ := split_of_directiveAfterGap hregathered.symm
  have hdrop : more.filter (fun x => (m.find? x).isNone) = [] := by
    rw [List.filter_eq_nil_iff]
    intro x hx
    simpa using hmore x hx
  have hkeep : rest.filter (fun x => (m.find? x).isNone) = rest := by
    rw [List.filter_eq_self]
    intro x hx
    simpa using hrest x hx
  have hrest' : l.trailing = rest := by
    rw [htrailing, Marker.ordinary, List.filter_append, hdrop, hkeep, List.nil_append]
  exact ⟨line, more, d, by simp [hlines, hrest'], hd, hmore, hopening, hend⟩

/-! ### What a migration says and does -/

/-- A migration says which directive is the first to be moved before it says anything else, and says it once. -/
private theorem log_eq (parse : String → Option Yaml.Value) (m : Marker) (r : Registry) (text : String) :
    ∃ n? rest, (migrateBy parse m r text).log = n?.toList.map .regathered ++ rest ∧ (∀ n, .regathered n ∉ rest) ∧
      ∀ n, n? = some n ↔
        ∃ k, n = k + 1 ∧ Interleaved m (Text.lines text) k ∧ ∀ j < k, ¬ Interleaved m (Text.lines text) j := by
  cases hl : Layout.ofLines? m (Text.lines text) with
  | none =>
    refine ⟨none, [], log_migrateBy_of_none parse r hl, by simp, ?_⟩
    intro n
    constructor
    · intro h
      cases h
    · rintro ⟨k, -, hk, -⟩
      exact absurd hk (not_interleaved_of_ofLines? hl k)
  | some l =>
    refine ⟨l.regathered, _, log_migrateBy parse r hl, ?_, fun n => regathered_eq_some_iff hl⟩
    intro n hmem
    rcases List.mem_cons.1 hmem with hdocument | hremark
    · cases hdocument
    · split at hremark
      · obtain ⟨name, -, he⟩ := List.mem_map.1 hremark
        unfold Registry.remark at he
        split at he
        · cases he
        · cases he
      · cases hremark

/-- Whether a migration succeeds or not and whatever reads the document, it says which directive is the first to be
moved over ordinary lines, exactly if there is one, before anything else and only once; nothing else in the log looks
like this warning.  If it succeeds and moves none, the directives stood together and the block has taken their place. -/
theorem migrateBy_interleaving (parse : String → Option Yaml.Value) (m : Marker) (r : Registry) (text : String) :
    (∀ e ∈ (migrateBy parse m r text).log, ∀ n, (e.level, e.message) =
        (.warn, "line " ++ Text.decimal n ++ ": directive after ordinary lines; merging it into the first block") ↔
      e = .regathered n) ∧
    (∀ n, .regathered n ∈ (migrateBy parse m r text).log ↔
      ∃ k, n = k + 1 ∧ Interleaved m (Text.lines text) k ∧ ∀ j < k, ¬ Interleaved m (Text.lines text) j) ∧
    (∀ before n after, (migrateBy parse m r text).log = before ++ .regathered n :: after →
      before = [] ∧ ∀ n', .regathered n' ∉ after) ∧
    ∀ mig, (migrateBy parse m r text).result = .ok mig →
      (mig.interleaved = true ↔ ∃ k, Interleaved m (Text.lines text) k) ∧
      (mig.interleaved = false → ∃ before first more after d,
        Text.lines text = before ++ (first :: more) ++ after ∧ (∀ x ∈ before ++ after, m.find? x = none) ∧
        m.find? first = some d ∧ (∀ x ∈ more, m.find? x ≠ none) ∧
        text = String.join before ++ String.join (first :: more) ++ String.join after ∧
        mig.text = String.join before ++
          String.join (blockLines d.opening (Text.LineEnd.ofLine first).text mig.assignments mig.domains) ++
          String.join after) := by
  obtain ⟨n?, rest, hlog, hrest, hfirst⟩ := log_eq parse m r text
  refine ⟨fun e _ n => Event.record_eq_regathered_iff, ?_, ?_, ?_⟩
  · intro n
    rw [hlog, ← hfirst n, List.mem_append]
    simp [hrest]
  · intro before n after h
    rw [hlog] at h
    cases n? with
    | none =>
      rw [Option.toList_none, List.map_nil, List.nil_append] at h
      have hmem : Event.regathered n ∈ rest := by simp [h]
      exact absurd hmem (hrest n)
    | some n₀ =>
      rw [Option.toList_some, List.map_singleton, List.singleton_append] at h
      cases before with
      | nil =>
        obtain rfl := (List.cons.inj h).2
        exact ⟨rfl, hrest⟩
      | cons e before =>
        have hmem : Event.regathered n ∈ rest := by simp [(List.cons.inj h).2]
        exact absurd hmem (hrest n)
  · intro mig h
    obtain ⟨l, settings, hl, -, -, -, htext, hinterleaved⟩ := migrateBy_eq_ok_iff.1 h
    refine ⟨by rw [hinterleaved, isSome_regathered_iff hl], ?_⟩
    intro hfalse
    have hnone : l.regathered = none := by
      rw [hinterleaved] at hfalse
      simpa using hfalse
    obtain ⟨first, more, d, hlines, hd, hmore, hopening, hend⟩ := Layout.directives_together hl hnone
    have hwell : l.WellFormed m := Layout.wellFormed_of_ofLines? (Text.areLines_lines text) hl
    refine ⟨l.leading, first, more, l.trailing, d, hlines, ?_, hd, hmore, ?_, ?_⟩
    · exact List.forall_mem_append.2 ⟨hwell.leading_ordinary, hwell.trailing_ordinary⟩
    · rw [← String.join_append, ← String.join_append, ← hlines, Text.join_lines]
    · rw [htext, Layout.assemble, Layout.block_eq, hopening, hend]

example : ((migrate ⟨"C"⟩ {} "a\n#C: x\nb\n#C: y\n").log.map fun e => (e.level, e.message)).head? =
    some (.warn, "line 4: directive after ordinary lines; merging it into the first block") := by
  decide +kernel

end AnalyzerBench.Migration

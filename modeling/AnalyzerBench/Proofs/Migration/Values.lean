import AnalyzerBench.Proofs.Migration.Unambiguous
import AnalyzerBench.Proofs.Yaml.PlainText
import AnalyzerBench.Proofs.Yaml.Value

/-!
# What a migrated file says about values

Two documents with the same keys migrate to the same text exactly if JSON keeps the same of their values under all keys
but the reserved one (`migrate_text_eq_iff`).  What JSON does not keep is lost without a fault: a number that is not
finite migrates like null (`migrate_loses_value`).
-/

namespace AnalyzerBench.Migration

open Yaml (Value)

variable {m : Marker} {r : Registry} {l l₁ l₂ : Layout} {text₁ text₂ : String} {mig₁ mig₂ : Migration}
  {as bs : List Assignment} {entries₁ entries₂ : List (String × Value)} {es₁ es₂ : List (Value × Value)}
  {v w x y : List Char}

/-! ### The block determines the values -/

namespace Layout

/-- What stands before a line end holds no line feed, so it can be told from the rest. -/
private theorem append_lineEnd_inj (e : Text.LineEnd) (hv : '\n' ∉ v) (hw : '\n' ∉ w)
    (h : v ++ (e.text.toList ++ x) = w ++ (e.text.toList ++ y)) : v = w ∧ x = y := by
  have hlonger : ∀ u, e.text.toList ++ x = u ++ (e.text.toList ++ y) ∨ e.text.toList ++ y = u ++ (e.text.toList ++ x) →
      '\n' ∉ u → u = [] := by
    intro u hu hnot
    by_contra hne
    -- What the longer one has more starts with a line end, so it holds a line feed.
    rcases hu with hu | hu
    · obtain ⟨t, rfl, -⟩ := lineEnd_apart e hne hu
      exact hnot (List.mem_append_left _ (mem_lineEnd e))
    · obtain ⟨t, rfl, -⟩ := lineEnd_apart e hne hu
      exact hnot (List.mem_append_left _ (mem_lineEnd e))
  rcases List.append_eq_append_iff.1 h with ⟨u, rfl, hrest⟩ | ⟨u, rfl, hrest⟩
  · obtain rfl := hlonger u (.inl hrest) fun hu => hw (List.mem_append_right _ hu)
    exact ⟨by simp, List.append_cancel_left hrest⟩
  · obtain rfl := hlonger u (.inr hrest) fun hu => hv (List.mem_append_right _ hu)
    exact ⟨by simp, (List.append_cancel_left hrest).symm⟩

/-- Blocks with the same keys are equal only if their values are. -/
theorem chars_inj_of_keys (has : ∀ a ∈ as, a.Written) (hbs : ∀ b ∈ bs, b.Written)
    (hkeys : as.map Assignment.key = bs.map Assignment.key) (e : l.chars as = l.chars bs) : as = bs := by
  induction as generalizing bs with
  | nil => exact (List.map_eq_nil_iff.1 hkeys.symm).symm
  | cons a as ih =>
    cases bs with
    | nil => cases hkeys
    | cons b bs =>
      obtain ⟨hkey, hkeys⟩ := List.cons.inj hkeys
      obtain ⟨ha, has⟩ := List.forall_mem_cons.1 has
      obtain ⟨hb, hbs⟩ := List.forall_mem_cons.1 hbs
      rw [chars_cons, chars_cons, Assignment.body, Assignment.body, hkey] at e
      simp only [List.append_assoc, List.append_cancel_left_eq] at e
      obtain ⟨hvalue, hrest⟩ := append_lineEnd_inj l.lineEnd ha.closed.not_mem hb.closed.not_mem e
      have hab : a = b := by
        obtain ⟨key, value⟩ := a
        obtain ⟨key', value'⟩ := b
        obtain rfl : key = key' := hkey
        obtain rfl : value = value' := String.toList_inj.1 hvalue
        rfl
      rw [hab, ih has hbs hkeys hrest]

end Layout

/-! ### Values and assignments -/

/-- A setting as an entry of the document. -/
private def entryOf (setting : String × Value) : Value × Value := (.string setting.1, setting.2)

/-- The entries that are no domain list are written as the assignments. -/
private def WrittenAs (entries : List (String × Value)) (assignments : List Assignment) : Prop :=
  List.Forall₂ (fun e a => a.key = e.1 ∧ e.2.json = .ok a.value)
    (entries.filter fun e => e.1 != "AbstractDomain") assignments

private theorem keys_of_writtenAs (h : WrittenAs entries₁ as) :
    as.map Assignment.key = (entries₁.map Prod.fst).filter (· != "AbstractDomain") := by
  rw [List.filter_map, Function.comp_def]
  exact keys_of_forall₂ h

/-- Assignments are equal exactly if JSON keeps the same of the values that they are written for. -/
private theorem assignments_eq_iff (h₁ : WrittenAs entries₁ as) (h₂ : WrittenAs entries₂ bs)
    (hkeys : entries₁.map Prod.fst = entries₂.map Prod.fst) :
    as = bs ↔ ∀ p ∈ (entries₁.map entryOf).zip (entries₂.map entryOf),
      p.1.1 ≠ .string "AbstractDomain" → p.1.2.plain = p.2.2.plain := by
  unfold WrittenAs at h₁ h₂
  induction entries₁ generalizing entries₂ as bs with
  | nil =>
    obtain rfl := List.map_eq_nil_iff.1 hkeys.symm
    rw [List.filter_nil, List.forall₂_nil_left_iff] at h₁ h₂
    simp [h₁, h₂]
  | cons e entries₁ ih =>
    cases entries₂ with
    | nil => cases hkeys
    | cons f entries₂ =>
      obtain ⟨hkey, hkeys⟩ := List.cons.inj hkeys
      rw [List.map_cons, List.map_cons, List.zip_cons_cons, List.forall_mem_cons]
      by_cases hdomain : e.1 = "AbstractDomain"
      · rw [List.filter_cons_of_neg (by simp [hdomain])] at h₁
        rw [List.filter_cons_of_neg (by simp [← hkey, hdomain])] at h₂
        rw [ih h₁ h₂ hkeys]
        exact ⟨fun h => ⟨fun hne => absurd (congrArg Value.string hdomain) hne, h⟩, fun h => h.2⟩
      · rw [List.filter_cons_of_pos (by simp [hdomain]), List.forall₂_cons_left_iff] at h₁
        rw [List.filter_cons_of_pos (by simp [← hkey, hdomain]), List.forall₂_cons_left_iff] at h₂
        obtain ⟨a, as, ⟨hakey, havalue⟩, has, rfl⟩ := h₁
        obtain ⟨b, bs, ⟨hbkey, hbvalue⟩, hbs, rfl⟩ := h₂
        have hfirst : a = b ↔ e.2.plain = f.2.plain := by
          rw [← Value.json_eq_json_iff, havalue, hbvalue]
          obtain ⟨key, value⟩ := a
          obtain ⟨key', value'⟩ := b
          dsimp only at hakey hbkey
          simp [hakey, hbkey, hkey]
        rw [List.cons.injEq, hfirst, ih has hbs hkeys]
        have hkey' : Value.string e.1 ≠ .string "AbstractDomain" := fun h => hdomain (Value.string.inj h)
        exact ⟨fun h => ⟨fun _ => h.1, h.2⟩, fun h => ⟨h.1 hkey', h.2⟩⟩

/-! ### Migrated files -/

/-- What a successful migration writes, in terms of the parsed document. -/
private theorem writtenAs_of_migrate (h : (migrate m r text₁).result = .ok mig₁)
    (hl : Layout.ofLines? m (Text.lines text₁) = some l)
    (hd : Value.ofText? (documentOf (m.payloads (Text.lines text₁))) = some (.mapping es₁)) :
    ∃ entries : List (String × Value), es₁ = entries.map entryOf ∧
      WrittenAs entries mig₁.assignments ∧ (∀ a ∈ mig₁.assignments, a.Written) ∧
      mig₁.text = l.assemble mig₁.assignments mig₁.domains := by
  obtain ⟨l', hl', -, hconfigures, htext⟩ := migrate_eq_ok h
  obtain rfl : l' = l := Option.some.inj (hl'.symm.trans hl)
  have hwritten : ∀ a ∈ mig₁.assignments, a.Written := fun a ha => hconfigures.written (List.mem_append_left _ ha)
  obtain ⟨entries, hdocument, hassignments, -⟩ := hconfigures
  rw [hd] at hdocument
  obtain rfl : es₁ = entries.map entryOf := Value.mapping.inj (Option.some.inj hdocument)
  exact ⟨entries, rfl, hassignments, hwritten, htext⟩

/-- Two texts that differ at most in the values of their settings migrate to the same text exactly if JSON keeps the
same of these values.  In particular, the migrated texts differ if two values differ that JSON can express. -/
theorem migrate_text_eq_iff
    (h₁ : (migrate m r text₁).result = .ok mig₁) (h₂ : (migrate m r text₂).result = .ok mig₂)
    (hl₁ : Layout.ofLines? m (Text.lines text₁) = some l₁) (hl₂ : Layout.ofLines? m (Text.lines text₂) = some l₂)
    (hleading : l₁.leading = l₂.leading) (htrailing : l₁.trailing = l₂.trailing) (hopening : l₁.opening = l₂.opening)
    (hlineEnd : l₁.lineEnd = l₂.lineEnd) (hdomains : mig₁.domains = mig₂.domains)
    (hd₁ : Value.ofText? (documentOf (m.payloads (Text.lines text₁))) = some (.mapping es₁))
    (hd₂ : Value.ofText? (documentOf (m.payloads (Text.lines text₂))) = some (.mapping es₂))
    (hkeys : es₁.map Prod.fst = es₂.map Prod.fst) :
    (mig₁.text = mig₂.text ↔
      ∀ e f, (e, f) ∈ es₁.zip es₂ → e.1 ≠ .string "AbstractDomain" → e.2.plain = f.2.plain) ∧
    ∀ e f, (e, f) ∈ es₁.zip es₂ → e.1 ≠ .string "AbstractDomain" → e.2.isPlain = true → f.2.isPlain = true →
      e.2 ≠ f.2 → mig₁.text ≠ mig₂.text := by
  obtain ⟨entries₁, rfl, hassignments₁, hwritten₁, htext₁⟩ := writtenAs_of_migrate h₁ hl₁ hd₁
  obtain ⟨entries₂, rfl, hassignments₂, hwritten₂, htext₂⟩ := writtenAs_of_migrate h₂ hl₂ hd₂
  have hnames : entries₁.map Prod.fst = entries₂.map Prod.fst := by
    have hinjective : Function.Injective Value.string := fun s t => Value.string.inj
    refine List.map_injective_iff.2 hinjective ?_
    simpa [List.map_map, Function.comp_def, entryOf] using hkeys
  have hframe : ∀ as ds, l₂.assemble as ds = l₁.assemble as ds := by
    intro as ds
    have hline : l₂.line = l₁.line := by
      funext a
      rw [Layout.line, Layout.line, hopening, hlineEnd]
    rw [Layout.assemble, Layout.assemble, Layout.block, Layout.block, hline, hleading, htrailing]
  have hassignments : mig₁.text = mig₂.text ↔ mig₁.assignments = mig₂.assignments := by
    rw [htext₁, htext₂, hframe, hdomains]
    constructor
    · intro h
      have hchars := Layout.chars_of_assemble h
      rw [Layout.chars, List.flatMap_append, Layout.chars, List.flatMap_append] at hchars
      refine Layout.chars_inj_of_keys hwritten₁ hwritten₂ ?_ (List.append_cancel_right hchars)
      rw [keys_of_writtenAs hassignments₁, keys_of_writtenAs hassignments₂, hnames]
    · intro h
      rw [h]
  have hvalues := hassignments.trans (assignments_eq_iff hassignments₁ hassignments₂ hnames)
  rw [Prod.forall] at hvalues
  refine ⟨hvalues, fun e f hmem hkey he hf hne htext => hne ?_⟩
  exact Value.eq_of_plain_eq he hf (hvalues.1 htext e f hmem hkey)

theorem migrate_text_eq_iff_neighbours :
    ∃ mig₁ mig₂, (migrate {} {} "// CONFIG: \x7ba: [0.3], AbstractDomain: []\x7d\n").result = .ok mig₁ ∧
      (migrate {} {} "// CONFIG: \x7ba: [0.30000000000000004], AbstractDomain: []\x7d\n").result = .ok mig₂ ∧
      mig₁.text ≠ mig₂.text := by
  have h₁ : (migrate {} {} "// CONFIG: \x7ba: [0.3], AbstractDomain: []\x7d\n").result = .ok {
      text := "// CONFIG: config.a = [0.3]\n// CONFIG: config.AbstractDomain = []\n",
      assignments := [⟨"a", "[0.3]"⟩], domains := [], interleaved := false } := by
    decide +kernel
  have h₂ : (migrate {} {} "// CONFIG: \x7ba: [0.30000000000000004], AbstractDomain: []\x7d\n").result = .ok {
      text := "// CONFIG: config.a = [0.30000000000000004]\n// CONFIG: config.AbstractDomain = []\n",
      assignments := [⟨"a", "[0.30000000000000004]"⟩], domains := [], interleaved := false } := by
    decide +kernel
  have hl₁ : Layout.ofLines? {} (Text.lines "// CONFIG: \x7ba: [0.3], AbstractDomain: []\x7d\n") = some {
      leading := [], opening := "// CONFIG:", lineEnd := .lf, trailing := [], regathered := none,
      payloads := ["\x7ba: [0.3], AbstractDomain: []\x7d"] } := by
    decide +kernel
  have hl₂ : Layout.ofLines? {}
      (Text.lines "// CONFIG: \x7ba: [0.30000000000000004], AbstractDomain: []\x7d\n") = some {
      leading := [], opening := "// CONFIG:", lineEnd := .lf, trailing := [], regathered := none,
      payloads := ["\x7ba: [0.30000000000000004], AbstractDomain: []\x7d"] } := by
    decide +kernel
  have hd₁ : Value.ofText? (documentOf (Marker.payloads {}
      (Text.lines "// CONFIG: \x7ba: [0.3], AbstractDomain: []\x7d\n"))) = some (.mapping [
        (.string "a", .sequence [.number (.real ⟨0x3FD3333333333333⟩)]),
        (.string "AbstractDomain", .sequence [])]) := by
    decide +kernel
  have hd₂ : Value.ofText? (documentOf (Marker.payloads {}
      (Text.lines "// CONFIG: \x7ba: [0.30000000000000004], AbstractDomain: []\x7d\n"))) = some (.mapping [
        (.string "a", .sequence [.number (.real ⟨0x3FD3333333333334⟩)]),
        (.string "AbstractDomain", .sequence [])]) := by
    decide +kernel
  have hapart := (migrate_text_eq_iff h₁ h₂ hl₁ hl₂ rfl rfl rfl rfl rfl hd₁ hd₂ rfl).2
  exact ⟨_, _, h₁, h₂, hapart _ _ (List.mem_cons_self ..) (by decide) (by decide) (by decide) (by decide)⟩

/-- A value that JSON cannot express may be lost: a NaN and a null are written as the same text. -/
theorem migrate_loses_value :
    ¬ ∀ (m : Marker) (r : Registry) (text₁ text₂ : String) (mig₁ mig₂ : Migration) (l₁ l₂ : Layout)
      (es₁ es₂ : List (Value × Value)),
      (migrate m r text₁).result = .ok mig₁ → (migrate m r text₂).result = .ok mig₂ →
      Layout.ofLines? m (Text.lines text₁) = some l₁ → Layout.ofLines? m (Text.lines text₂) = some l₂ →
      l₁.leading = l₂.leading → l₁.trailing = l₂.trailing → l₁.opening = l₂.opening → l₁.lineEnd = l₂.lineEnd →
      mig₁.domains = mig₂.domains →
      Value.ofText? (documentOf (m.payloads (Text.lines text₁))) = some (.mapping es₁) →
      Value.ofText? (documentOf (m.payloads (Text.lines text₂))) = some (.mapping es₂) →
      es₁.map Prod.fst = es₂.map Prod.fst →
      (∃ e f, (e, f) ∈ es₁.zip es₂ ∧ e.1 ≠ .string "AbstractDomain" ∧ e.2 ≠ f.2) → mig₁.text ≠ mig₂.text := by
  have h₁ : (migrate {} {} "// CONFIG: \x7ba: .nan, AbstractDomain: []\x7d\n").result = .ok {
      text := "// CONFIG: config.a = null\n// CONFIG: config.AbstractDomain = []\n",
      assignments := [⟨"a", "null"⟩], domains := [], interleaved := false } := by
    decide +kernel
  have h₂ : (migrate {} {} "// CONFIG: \x7ba: null, AbstractDomain: []\x7d\n").result = .ok {
      text := "// CONFIG: config.a = null\n// CONFIG: config.AbstractDomain = []\n",
      assignments := [⟨"a", "null"⟩], domains := [], interleaved := false } := by
    decide +kernel
  have hl₁ : Layout.ofLines? {} (Text.lines "// CONFIG: \x7ba: .nan, AbstractDomain: []\x7d\n") = some {
      leading := [], opening := "// CONFIG:", lineEnd := .lf, trailing := [], regathered := none,
      payloads := ["\x7ba: .nan, AbstractDomain: []\x7d"] } := by
    decide +kernel
  have hl₂ : Layout.ofLines? {} (Text.lines "// CONFIG: \x7ba: null, AbstractDomain: []\x7d\n") = some {
      leading := [], opening := "// CONFIG:", lineEnd := .lf, trailing := [], regathered := none,
      payloads := ["\x7ba: null, AbstractDomain: []\x7d"] } := by
    decide +kernel
  have hd₁ : Value.ofText? (documentOf (Marker.payloads {}
      (Text.lines "// CONFIG: \x7ba: .nan, AbstractDomain: []\x7d\n"))) = some (.mapping [
        (.string "a", .number (.real .quietNaN)), (.string "AbstractDomain", .sequence [])]) := by
    decide +kernel
  have hd₂ : Value.ofText? (documentOf (Marker.payloads {}
      (Text.lines "// CONFIG: \x7ba: null, AbstractDomain: []\x7d\n"))) = some (.mapping [
        (.string "a", .null), (.string "AbstractDomain", .sequence [])]) := by
    decide +kernel
  intro h
  exact h {} {} _ _ _ _ _ _ _ _ h₁ h₂ hl₁ hl₂ rfl rfl rfl rfl rfl hd₁ hd₂ rfl
    ⟨_, _, List.mem_cons_self .., by decide, by decide⟩ rfl

end AnalyzerBench.Migration

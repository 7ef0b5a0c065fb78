import AnalyzerBench.Migration.Migrate
import AnalyzerBench.Proofs.Log
import AnalyzerBench.Proofs.Migration.Block
import AnalyzerBench.Proofs.Yaml.Json

/-!
# What a migration makes of a file

Whatever reads the document, a migration succeeds exactly if the file has a layout and its document can be read and
written (`migrateBy_eq_ok_iff`).  The assignments and domains that come out are those of the parsed document
(`ConfiguresBy`, `Configures`), and their values are written as closed texts (`Configures.written`).
-/

namespace AnalyzerBench.Migration

/-- Read by `parse`, the document is a mapping with string keys; apart from the reserved one, its entries in order are
the assignments, their values written as JSON, and the entry of the reserved key lists the domains. -/
def ConfiguresBy (parse : String → Option Yaml.Value) (document : String) (assignments : List Assignment)
    (domains : List String) : Prop :=
  ∃ entries : List (String × Yaml.Value),
    parse document = some (.mapping (entries.map fun e => (.string e.1, e.2))) ∧
    List.Forall₂ (fun e a => a.key = e.1 ∧ e.2.json = .ok a.value)
      (entries.filter fun e => e.1 != "AbstractDomain") assignments ∧
    ∃ list, entries.lookup "AbstractDomain" = some list ∧ domainNames list = .ok domains

/-- The document configures the assignments and the domains. -/
def Configures (document : String) (assignments : List Assignment) (domains : List String) : Prop :=
  ConfiguresBy Yaml.Value.ofText? document assignments domains

variable {parse : String → Option Yaml.Value} {document text : String} {assignments : List Assignment}
  {domains : List String}

/-! ### Settings -/

theorem keyedEntry_eq_ok_iff {e : Yaml.Value × Yaml.Value} {entry : String × Yaml.Value} :
    keyedEntry e = .ok entry ↔ e = (.string entry.1, entry.2) := by
  obtain ⟨k, v⟩ := e
  obtain ⟨key, value⟩ := entry
  cases k <;> simp [keyedEntry]

theorem keyedEntry_eq_error_iff {e : Yaml.Value × Yaml.Value} {f : Fault} :
    keyedEntry e = .error f ↔ (∀ s, e.1 ≠ .string s) ∧ f = .invalidKey e.1 := by
  obtain ⟨k, v⟩ := e
  cases k <;> simp [keyedEntry, eq_comm]

theorem mapM_keyedEntry_eq_ok_iff {es : List (Yaml.Value × Yaml.Value)} {entries : List (String × Yaml.Value)} :
    es.mapM keyedEntry = .ok entries ↔ es = entries.map fun e => (.string e.1, e.2) :=
  mapM_eq_ok_iff_map fun _ _ => keyedEntry_eq_ok_iff

private theorem Settings.ofEntries_eq_ok {es : List (Yaml.Value × Yaml.Value)} {s : Settings}
    (h : Settings.ofEntries es = .ok s) :
    ∃ entries : List (String × Yaml.Value),
      es = entries.map (fun e => (.string e.1, e.2)) ∧ s.entries = entries.filter (·.1 != domainKey) ∧
      ∃ list, entries.lookup domainKey = some list ∧ domainNames list = .ok s.domains := by
  obtain ⟨entries, hentries, h⟩ := bind_eq_ok_iff.1 h
  refine ⟨entries, mapM_keyedEntry_eq_ok_iff.1 hentries, ?_⟩
  split at h
  · cases h
  · next list hlist =>
    obtain ⟨domains, hdomains, hs⟩ := bind_eq_ok_iff.1 h
    obtain rfl := Except.ok.inj hs
    exact ⟨rfl, list, hlist, hdomains⟩

private theorem Settings.ofDocumentBy_eq_ok {s : Settings} (h : Settings.ofDocumentBy parse document = .ok s) :
    ∃ entries : List (String × Yaml.Value),
      parse document = some (.mapping (entries.map fun e => (.string e.1, e.2))) ∧
      s.entries = entries.filter (·.1 != domainKey) ∧
      ∃ list, entries.lookup domainKey = some list ∧ domainNames list = .ok s.domains := by
  unfold Settings.ofDocumentBy at h
  split at h
  · cases h
  split at h
  · cases h
  next v hv =>
  rw [hv]
  unfold Settings.ofValue at h
  split at h
  · obtain ⟨entries, rfl, hs⟩ := Settings.ofEntries_eq_ok h
    exact ⟨entries, rfl, hs⟩
  · cases h
  · cases h

theorem Assignment.ofEntry_eq_ok_iff {e : String × Yaml.Value} {a : Assignment} :
    Assignment.ofEntry e = .ok a ↔ a.key = e.1 ∧ e.2.json = .ok a.value := by
  obtain ⟨key, value⟩ := a
  unfold Assignment.ofEntry
  split
  · next text htext => simp [htext, eq_comm]
  · next reason hreason => simp [hreason]

theorem Assignment.ofEntry_eq_error_iff {e : String × Yaml.Value} {f : Fault} :
    Assignment.ofEntry e = .error f ↔ ∃ reason, e.2.json = .error reason ∧ f = .render reason := by
  unfold Assignment.ofEntry
  split
  · next text htext => simp [htext]
  · next reason hreason => simp [hreason, eq_comm]

theorem Settings.assignments_eq_ok_iff {s : Settings} :
    s.assignments = .ok assignments ↔
      List.Forall₂ (fun e a => a.key = e.1 ∧ e.2.json = .ok a.value) s.entries assignments := by
  simp only [Settings.assignments, mapM_eq_ok_iff, Assignment.ofEntry_eq_ok_iff]

/-- Assignments have the keys of the entries that they are written for. -/
theorem keys_of_forall₂ {entries : List (String × Yaml.Value)}
    (h : List.Forall₂ (fun e a => a.key = e.1 ∧ e.2.json = .ok a.value) entries assignments) :
    assignments.map Assignment.key = entries.map Prod.fst := by
  induction h with
  | nil => rfl
  | cons hea _ ih => rw [List.map_cons, List.map_cons, hea.1, ih]

/-- What the settings of a document are written as is what the document configures. -/
theorem Settings.configuresBy {s : Settings} (h : Settings.ofDocumentBy parse document = .ok s)
    (ha : s.assignments = .ok assignments) : ConfiguresBy parse document assignments s.domains := by
  obtain ⟨entries, hdocument, hentries, hdomains⟩ := Settings.ofDocumentBy_eq_ok h
  refine ⟨entries, hdocument, ?_, hdomains⟩
  rw [Settings.assignments_eq_ok_iff, hentries] at ha
  exact ha

private theorem exists_of_mem_right {α β : Type} {R : α → β → Prop} {as : List α} {bs : List β}
    (h : List.Forall₂ R as bs) {b : β} (hb : b ∈ bs) : ∃ a, R a b := by
  induction h with
  | nil => simp at hb
  | @cons a x _ _ hax _ ih =>
    rcases List.mem_cons.1 hb with rfl | hb
    · exact ⟨a, hax⟩
    · exact ih hb

/-- The assignments that a document configures are written as closed texts. -/
theorem Configures.written (h : Configures document assignments domains) {a : Assignment}
    (ha : a ∈ assignments ++ [Assignment.ofDomains domains]) : a.Written := by
  obtain ⟨entries, -, hassignments, -⟩ := h
  rcases List.mem_append.1 ha with ha | ha
  · obtain ⟨e, -, hvalue⟩ := exists_of_mem_right hassignments ha
    exact ⟨Yaml.Value.closed_json hvalue, Yaml.Value.getLast?_json hvalue⟩
  · obtain rfl := List.mem_singleton.1 ha
    exact Assignment.written_ofDomains domains

/-- What holds of the keys and of the reserved key holds of all assignments in the block. -/
theorem Configures.forall_block {mig : Migration} {P : String → Prop}
    (h : Configures document mig.assignments mig.domains) (hkeys : ∀ k ∈ mig.keys, P k) (hdomain : P domainKey) :
    ∀ a ∈ mig.assignments ++ [Assignment.ofDomains mig.domains], a.Written ∧ P a.key := by
  intro a ha
  refine ⟨h.written ha, ?_⟩
  rcases List.mem_append.1 ha with hmem | hmem
  · exact hkeys _ (List.mem_map_of_mem hmem)
  · obtain rfl := List.mem_singleton.1 hmem
    exact hdomain

end Migration

/-! ### Migrations -/

variable {parse : String → Option Yaml.Value} {m : Marker} {r : Registry} {text : String} {mig : Migration}

/-- The result of a migration, without what is said on the way. -/
theorem result_migrateBy (parse : String → Option Yaml.Value) (m : Marker) (r : Registry) (text : String) :
    (migrateBy parse m r text).result =
      match Migration.Layout.ofLines? m (Text.lines text) with
      | none => .error (.missingKey Migration.domainKey)
      | some l => do
        let settings ← Migration.Settings.ofDocumentBy parse (Migration.documentOf l.payloads)
        let assignments ← settings.assignments
        return {
          text := l.assemble assignments settings.domains
          assignments
          domains := settings.domains
          interleaved := l.regathered.isSome } := by
  unfold migrateBy
  cases Migration.Layout.ofLines? m (Text.lines text) with
  | none => rfl
  | some l =>
    simp only [Run.result_bind, Run.result_sayAll, Run.result_say, Run.result_ofExcept, ok_bind]
    rfl

/-- The assignments and the domains of a migrated file come from the document of all payloads.  Without payloads there is
no document, but the fault is that of the empty document. -/
theorem map_result_migrateBy {α : Type} (parse : String → Option Yaml.Value) (m : Marker) (r : Registry) (text : String)
    (g : List Migration.Assignment → List String → α) :
    (migrateBy parse m r text).result.map (fun mig => g mig.assignments mig.domains) = do
      let settings ← Migration.Settings.ofDocumentBy parse (Migration.documentOf (m.payloads (Text.lines text)))
      let assignments ← settings.assignments
      return g assignments settings.domains := by
  rw [result_migrateBy]
  split
  · next hnone =>
    rw [Migration.Layout.ofLines?_eq_none_iff.1 hnone]
    rfl
  · next l hl =>
    rw [← Migration.Layout.payloads_of_ofLines? hl]
    cases Migration.Settings.ofDocumentBy parse (Migration.documentOf l.payloads) with
    | error f => rfl
    | ok settings =>
      rw [ok_bind, ok_bind]
      cases settings.assignments <;> rfl

/-- What a migration says: first whether directives are moved, then the document, then a remark on each domain. -/
theorem log_migrateBy (parse : String → Option Yaml.Value) (r : Registry) {l : Migration.Layout}
    (h : Migration.Layout.ofLines? m (Text.lines text) = some l) :
    (migrateBy parse m r text).log =
      l.regathered.toList.map .regathered ++ .document (Migration.documentOf l.payloads) ::
        match Migration.Settings.ofDocumentBy parse (Migration.documentOf l.payloads) with
        | .ok settings => settings.domains.map r.remark
        | .error _ => [] := by
  unfold migrateBy
  rw [h]
  simp only [Run.log_bind, Run.log_sayAll, Run.result_sayAll, Run.log_say, Run.result_say, Run.log_ofExcept,
    Run.result_ofExcept, Run.log_pure, List.nil_append]
  cases Migration.Settings.ofDocumentBy parse (Migration.documentOf l.payloads) with
  | error f => rfl
  | ok settings =>
    cases hassignments : settings.assignments with
    | error f => simp [hassignments]
    | ok assignments => simp [hassignments]

theorem log_migrateBy_of_none (parse : String → Option Yaml.Value) (r : Registry)
    (h : Migration.Layout.ofLines? m (Text.lines text) = none) : (migrateBy parse m r text).log = [] := by
  unfold migrateBy
  rw [h]
  rfl

theorem log_migrate (r : Registry) {l : Migration.Layout}
    (h : Migration.Layout.ofLines? m (Text.lines text) = some l) :
    (migrate m r text).log =
      l.regathered.toList.map .regathered ++ .document (Migration.documentOf l.payloads) ::
        match Migration.Settings.ofDocument (Migration.documentOf l.payloads) with
        | .ok settings => settings.domains.map r.remark
        | .error _ => [] :=
  log_migrateBy Yaml.Value.ofText? r h

theorem log_migrate_of_none (r : Registry) (h : Migration.Layout.ofLines? m (Text.lines text) = none) :
    (migrate m r text).log = [] :=
  log_migrateBy_of_none Yaml.Value.ofText? r h

/-- A migration succeeds exactly if the file has a layout and the document of its payloads can be read and written. -/
theorem migrateBy_eq_ok_iff :
    (migrateBy parse m r text).result = .ok mig ↔
      ∃ l settings, Migration.Layout.ofLines? m (Text.lines text) = some l ∧
        Migration.Settings.ofDocumentBy parse (Migration.documentOf l.payloads) = .ok settings ∧
        settings.assignments = .ok mig.assignments ∧ mig.domains = settings.domains ∧
        mig.text = l.assemble mig.assignments mig.domains ∧ mig.interleaved = l.regathered.isSome := by
  rw [result_migrateBy]
  constructor
  · intro h
    split at h
    · cases h
    · next l hl =>
      obtain ⟨settings, hsettings, h⟩ := bind_eq_ok_iff.1 h
      obtain ⟨assignments, hassignments, h⟩ := bind_eq_ok_iff.1 h
      obtain rfl := Except.ok.inj h
      exact ⟨l, settings, hl, hsettings, hassignments, rfl, rfl, rfl⟩
  · rintro ⟨l, settings, hl, hsettings, hassignments, hdomains, htext, hinterleaved⟩
    obtain ⟨text, assignments, domains, interleaved⟩ := mig
    dsimp only at hassignments hdomains htext hinterleaved
    simp only [hl, hsettings, hassignments, ok_bind, htext, hdomains, hinterleaved]
    rfl

/-- What a successful migration says about the layout and the document of the file. -/
theorem migrateBy_eq_ok (h : (migrateBy parse m r text).result = .ok mig) :
    ∃ l, Migration.Layout.ofLines? m (Text.lines text) = some l ∧ l.WellFormed m ∧
      Migration.ConfiguresBy parse (Migration.documentOf (m.payloads (Text.lines text))) mig.assignments mig.domains ∧
      mig.text = l.assemble mig.assignments mig.domains := by
  obtain ⟨l, settings, hl, hsettings, hassignments, hdomains, htext, -⟩ := migrateBy_eq_ok_iff.1 h
  refine ⟨l, hl, Migration.Layout.wellFormed_of_ofLines? (Text.areLines_lines text) hl, ?_, htext⟩
  rw [hdomains, ← Migration.Layout.payloads_of_ofLines? hl]
  exact Migration.Settings.configuresBy hsettings hassignments

theorem migrate_eq_ok (h : (migrate m r text).result = .ok mig) :
    ∃ l, Migration.Layout.ofLines? m (Text.lines text) = some l ∧ l.WellFormed m ∧
      Migration.Configures (Migration.documentOf (m.payloads (Text.lines text))) mig.assignments mig.domains ∧
      mig.text = l.assemble mig.assignments mig.domains :=
  migrateBy_eq_ok h

end AnalyzerBench

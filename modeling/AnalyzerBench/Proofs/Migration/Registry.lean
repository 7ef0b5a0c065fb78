import AnalyzerBench.Proofs.Migration.Outcome
import AnalyzerBench.Proofs.Registry
import AnalyzerBench.Proofs.Yaml.Value

/-!
# What the registry has a say in

No result of a migration depends on the registry.  All that the registry decides is the level and the text of the remarks
on the listed domains, one for each in their order, which are made as soon as the list is read; so a value that cannot be
written takes none of them back (`migrateBy_registry`).
-/

namespace AnalyzerBench.Migration

open Yaml (Value)

variable {parse : String → Option Value} {m : Marker} {text : String} {payloads domains : List String} {v : Value}
  {entries : List (String × Value)} {s : Settings} {l : Layout}

/-- The payloads make up a document with string keys only, and its reserved key lists the domains. -/
def ListsDomains (parse : String → Option Value) (payloads domains : List String) : Prop :=
  (∃ p ∈ payloads, p ≠ "") ∧ ∃ v entries list, parse (documentOf payloads) = some v ∧ Maps v entries ∧
    entries.lookup "AbstractDomain" = some list ∧ Lists list domains

/-! ### Documents that list domains -/

private theorem exists_maps_of_ofValue (h : Settings.ofValue v = .ok s) : ∃ entries, Maps v entries := by
  unfold Settings.ofValue at h
  split at h
  · next es =>
    obtain ⟨entries, hentries, -⟩ := bind_eq_ok_iff.1 h
    obtain rfl := mapM_keyedEntry_eq_ok_iff.1 hentries
    exact ⟨entries, .mapping entries⟩
  · exact ⟨[], .null⟩
  · cases h

private theorem Maps.exists_ofValue_iff (h : Maps v entries) :
    (∃ s, Settings.ofValue v = .ok s ∧ s.domains = domains) ↔
      ∃ list, entries.lookup "AbstractDomain" = some list ∧ Lists list domains := by
  rw [h.ofValue_eq]
  cases entries.lookup "AbstractDomain" with
  | none => simp
  | some list =>
    simp only [Option.some.injEq, exists_eq_left', ← domainNames_eq_ok_iff]
    cases domainNames list <;> simp [Except.map]

/-- The settings of a document are read exactly if it lists domains, and have these domains. -/
private theorem exists_ofDocumentBy_iff (htrimmed : ∀ p ∈ payloads, Text.Chars.Trimmed p.toList) :
    (∃ s, Settings.ofDocumentBy parse (documentOf payloads) = .ok s ∧ s.domains = domains) ↔
      ListsDomains parse payloads domains := by
  unfold Settings.ofDocumentBy ListsDomains
  by_cases hp : ∀ p ∈ payloads, p = ""
  · have hblank : ¬ ∃ p ∈ payloads, p ≠ "" := by simpa using hp
    simp [(isAllBlank_documentOf_iff htrimmed).2 hp, hblank]
  · have hsome : ∃ p ∈ payloads, p ≠ "" := by simpa using hp
    rw [if_neg (by rwa [isAllBlank_documentOf_iff htrimmed]), and_iff_right hsome]
    cases parse (documentOf payloads) with
    | none => simp
    | some v =>
      constructor
      · rintro ⟨s, hs, hdomains⟩
        obtain ⟨entries, hv⟩ := exists_maps_of_ofValue hs
        obtain ⟨list, hlist⟩ := hv.exists_ofValue_iff.1 ⟨s, hs, hdomains⟩
        exact ⟨v, entries, list, rfl, hv, hlist⟩
      · rintro ⟨w, entries, list, hw, hv, hlist⟩
        obtain rfl := Option.some.inj hw
        exact hv.exists_ofValue_iff.2 ⟨list, hlist⟩

/-! ### The log -/

/-- The remarks of a migration come last in its log and are the only thing that the registry decides there. -/
private theorem exists_said (parse : String → Option Value) (m : Marker) (text : String) :
    ∃ said : List Event, (∀ e ∈ said, (∃ n, e = .regathered n) ∨ ∃ document, e = .document document) ∧
      ∀ r : Registry, (migrateBy parse m r text).log = said ++
        match Settings.ofDocumentBy parse (documentOf (m.payloads (Text.lines text))) with
        | .ok settings => settings.domains.map r.remark
        | .error _ => [] := by
  cases hl : Layout.ofLines? m (Text.lines text) with
  | none =>
    refine ⟨[], by simp, fun r => ?_⟩
    rw [log_migrateBy_of_none parse r hl, Layout.ofLines?_eq_none_iff.1 hl]
    rfl
  | some l =>
    refine ⟨l.regathered.toList.map .regathered ++ [.document (documentOf l.payloads)], ?_, fun r => ?_⟩
    · intro e he
      rcases List.mem_append.1 he with he | he
      · obtain ⟨n, -, rfl⟩ := List.mem_map.1 he
        exact .inl ⟨n, rfl⟩
      · exact .inr ⟨_, List.mem_singleton.1 he⟩
    · rw [log_migrateBy parse r hl, ← Layout.payloads_of_ofLines? hl, List.append_assoc]
      rfl

/-- A remark describes the domain as it was registered last, or lists the names of all that were registered. -/
private theorem record_remark (entries : List (String × String)) (n : String) :
    (((Registry.ofList entries).remark n).level, ((Registry.ofList entries).remark n).message) =
      match entries.reverse.lookup n with
      | some description => (.debug, "domain " ++ n ++ ": " ++ description)
      | none => (.warn, "unknown abstract domain " ++ Text.quoted n ++ " (known: " ++
          String.intercalate ", " (Registry.ofList entries).names ++ ")") := by
  rw [Registry.remark, Registry.lookup_ofList]
  cases entries.reverse.lookup n <;> rfl

/-- Whatever reads the document, the result of a migration is the same with any two registries.  In the log a registry
decides the remarks only: each occurrence of a listed name is described as it was registered last, or else reported with
all the names that were registered, in their order.  There is a remark on each listed name if the document lists domains,
whether or not its values can be written, and there is none if it does not. -/
theorem migrateBy_registry (parse : String → Option Value) (m : Marker) (text : String) :
    (∀ r r' : Registry, (migrateBy parse m r text).result = (migrateBy parse m r' text).result) ∧
    ∃ said : List Event, (∀ e ∈ said, (∃ n, e = .regathered n) ∨ ∃ document, e = .document document) ∧
      ∀ entries : List (String × String), ∃ known : List String,
        known.Pairwise (· < ·) ∧ (∀ n, n ∈ known ↔ n ∈ entries.map Prod.fst) ∧
        (∀ domains, ListsDomains parse (m.payloads (Text.lines text)) domains →
          ∃ remarks, (migrateBy parse m (Registry.ofList entries) text).log = said ++ remarks ∧
            remarks.map (fun e => (e.level, e.message)) = domains.map fun n =>
              match entries.reverse.lookup n with
              | some description => (.debug, "domain " ++ n ++ ": " ++ description)
              | none => (.warn, "unknown abstract domain " ++ Text.quoted n ++ " (known: " ++
                  String.intercalate ", " known ++ ")")) ∧
        ((∀ domains, ¬ ListsDomains parse (m.payloads (Text.lines text)) domains) →
          (migrateBy parse m (Registry.ofList entries) text).log = said) := by
  have htrimmed : ∀ p ∈ m.payloads (Text.lines text), Text.Chars.Trimmed p.toList :=
    fun p hp => Marker.trimmed_of_mem_payloads hp
  obtain ⟨said, hsaid, hlog⟩ := exists_said parse m text
  constructor
  · intro r r'
    rw [result_migrateBy, result_migrateBy]
  · refine ⟨said, hsaid, fun entries => ?_⟩
    refine ⟨(Registry.ofList entries).names, Registry.pairwise_names_ofList entries,
      fun n => Registry.mem_names_ofList, ?_, ?_⟩
    · intro domains hlists
      obtain ⟨s, hs, rfl⟩ := (exists_ofDocumentBy_iff htrimmed).2 hlists
      refine ⟨s.domains.map (Registry.ofList entries).remark, by rw [hlog, hs], ?_⟩
      rw [List.map_map]
      exact List.map_congr_left fun n _ => record_remark entries n
    · intro hlists
      rw [hlog]
      cases hs : Settings.ofDocumentBy parse (documentOf (m.payloads (Text.lines text))) with
      | error f => exact List.append_nil said
      | ok s => exact absurd ((exists_ofDocumentBy_iff htrimmed).1 ⟨s, hs, rfl⟩) (hlists s.domains)

/-- The list holds a known name, registered twice, and an unknown one between its two occurrences; the other value cannot
be written. -/
theorem migrateBy_registry_unwritten :
    (migrate {} {} "// CONFIG: \x7bAbstractDomain: [Z, Q, Z], a: \x7b[]: 0\x7d\x7d\n").result matches
        .error (.render _) ∧
    ∃ said remarks known, (∀ n, n ∈ known ↔ n = "Z" ∨ n = "A" ∨ n = "Z") ∧
      (migrate {} (.ofList [("Z", "old"), ("A", "affine"), ("Z", "zones")])
        "// CONFIG: \x7bAbstractDomain: [Z, Q, Z], a: \x7b[]: 0\x7d\x7d\n").log = said ++ remarks ∧
      remarks.map (fun e => (e.level, e.message)) = [
        (.debug, "domain Z: zones"),
        (.warn, "unknown abstract domain \"Q\" (known: " ++ String.intercalate ", " known ++ ")"),
        (.debug, "domain Z: zones")] := by
  have hdocument : Value.ofText? (documentOf (Marker.payloads {}
      (Text.lines "// CONFIG: \x7bAbstractDomain: [Z, Q, Z], a: \x7b[]: 0\x7d\x7d\n"))) = some (.mapping [
        (.string "AbstractDomain", .sequence [.string "Z", .string "Q", .string "Z"]),
        (.string "a", .mapping [(.sequence [], .number (.integer 0))])]) := by
    decide +kernel
  have hlists : ListsDomains Value.ofText? (Marker.payloads {}
      (Text.lines "// CONFIG: \x7bAbstractDomain: [Z, Q, Z], a: \x7b[]: 0\x7d\x7d\n")) ["Z", "Q", "Z"] :=
    ⟨by decide +kernel, _, _, _, hdocument, .mapping [
        ("AbstractDomain", .sequence [.string "Z", .string "Q", .string "Z"]),
        ("a", .mapping [(.sequence [], .number (.integer 0))])],
      rfl, .names ["Z", "Q", "Z"]⟩
  obtain ⟨-, said, -, hlog⟩ := migrateBy_registry Value.ofText? {}
    "// CONFIG: \x7bAbstractDomain: [Z, Q, Z], a: \x7b[]: 0\x7d\x7d\n"
  obtain ⟨known, -, hknown, hremarks, -⟩ := hlog [("Z", "old"), ("A", "affine"), ("Z", "zones")]
  obtain ⟨remarks, happend, hrecords⟩ := hremarks _ hlists
  refine ⟨by decide +kernel, said, remarks, known, ?_, happend, ?_⟩
  · intro n
    rw [hknown]
    simp
  · rw [hrecords]
    rfl

end AnalyzerBench.Migration

import AnalyzerBench.Proofs.Migration.Migrate

/-!
# Which fault a migration reports

Many things can be wrong with one file.  What a migration makes of the payloads (`Outcome`) and of the value that the
parser reads from them (`Reads`) is laid down in rules, one for each fault and one for success.  Every value falls under
a rule (`exists_reads`), and the rules say what is computed (`Reads.eq`); so no two of them disagree, and a migration
ends as the rules say, whatever the parser is (`migrateBy_outcome`).
-/

namespace AnalyzerBench.Migration

open Yaml (Value)

variable {parse : String → Option Value} {m : Marker} {text : String} {payloads domains : List String} {v list : Value}
  {entries : List (String × Value)} {res : Except Fault (List String × List String)}

/-- A value lists domains: it is a single name or a sequence of names. -/
inductive Lists : Value → List String → Prop
  | name (domain : String) : Lists (.string domain) [domain]
  | names (domains : List String) : Lists (.sequence (domains.map .string)) domains

/-- A value is a mapping with string keys and the given entries, or null, which is as good as an empty mapping. -/
inductive Maps : Value → List (String × Value) → Prop
  | mapping (entries : List (String × Value)) : Maps (.mapping (entries.map fun e => (.string e.1, e.2))) entries
  | null : Maps .null []

/-- The entries of the settings. -/
def ordinaryEntries (entries : List (String × Value)) : List (String × Value) :=
  entries.filter fun e => e.1 != "AbstractDomain"

/-- What the value of a document comes to: the keys of the settings and the domains, or a fault. -/
inductive Reads : Value → Except Fault (List String × List String) → Prop
  | notAMapping {v : Value} (hmapping : ∀ es, v ≠ .mapping es) (hnull : v ≠ .null) : Reads v (.error .notAMapping)
  | invalidKey {before after : List (Value × Value)} {k w : Value} (hbefore : ∀ e ∈ before, ∃ s, e.1 = .string s)
      (hk : ∀ s, k ≠ .string s) : Reads (.mapping (before ++ (k, w) :: after)) (.error (.invalidKey k))
  | missingKey {v : Value} {entries : List (String × Value)} (hv : Maps v entries)
      (habsent : ∀ e ∈ entries, e.1 ≠ "AbstractDomain") : Reads v (.error (.missingKey "AbstractDomain"))
  | invalidDomainList {v list : Value} {entries : List (String × Value)} (hv : Maps v entries)
      (hlist : entries.lookup "AbstractDomain" = some list) (hmalformed : ∀ domains, ¬ Lists list domains) :
      Reads v (.error (.invalidDomainList "AbstractDomain"))
  | render {v list : Value} {entries before after : List (String × Value)} {domains : List String}
      {e : String × Value} {reason : Yaml.JsonFault} (hv : Maps v entries)
      (hlist : entries.lookup "AbstractDomain" = some list) (hdomains : Lists list domains)
      (hordinary : ordinaryEntries entries = before ++ e :: after) (hbefore : ∀ x ∈ before, ∃ json, x.2.json = .ok json)
      (he : e.2.json = .error reason) : Reads v (.error (.render reason))
  | settings {v list : Value} {entries : List (String × Value)} {domains : List String} (hv : Maps v entries)
      (hlist : entries.lookup "AbstractDomain" = some list) (hdomains : Lists list domains)
      (hordinary : ∀ e ∈ ordinaryEntries entries, ∃ json, e.2.json = .ok json) :
      Reads v (.ok ((ordinaryEntries entries).map Prod.fst, domains))

/-- What a migration makes of payloads.  The parser has a say only if one of them is not empty. -/
inductive Outcome (parse : String → Option Value) (payloads : List String) :
    Except Fault (List String × List String) → Prop
  | empty (hp : ∀ p ∈ payloads, p = "") : Outcome parse payloads (.error (.missingKey "AbstractDomain"))
  | document (hp : ∃ p ∈ payloads, p ≠ "") (hparse : parse (documentOf payloads) = none) :
      Outcome parse payloads (.error .document)
  | value {v : Value} {res : Except Fault (List String × List String)} (hp : ∃ p ∈ payloads, p ≠ "")
      (hparse : parse (documentOf payloads) = some v) (hv : Reads v res) : Outcome parse payloads res

/-! ### Domain lists -/

private theorem domainName_eq_ok_iff {item : Value} {domain : String} :
    domainName item = .ok domain ↔ item = .string domain := by
  cases item <;> simp [domainName]

theorem domainNames_eq_ok_iff : domainNames list = .ok domains ↔ Lists list domains := by
  constructor
  · intro h
    unfold domainNames at h
    split at h
    · next domain =>
      obtain rfl := Except.ok.inj h
      exact .name domain
    · next items =>
      obtain rfl := (mapM_eq_ok_iff_map fun _ _ => domainName_eq_ok_iff).1 h
      exact .names domains
    · cases h
  · intro h
    cases h with
    | name domain => rfl
    | names domains => exact (mapM_eq_ok_iff_map fun _ _ => domainName_eq_ok_iff).2 rfl

private theorem domainNames_eq_error {f : Fault} (h : domainNames list = .error f) :
    f = .invalidDomainList "AbstractDomain" := by
  unfold domainNames at h
  split at h
  · cases h
  · next items =>
    obtain ⟨-, item, -, -, -, hitem⟩ := mapM_eq_error_iff.1 h
    unfold domainName at hitem
    split at hitem
    · cases hitem
    · exact (Except.error.inj hitem).symm
  · exact (Except.error.inj h).symm

private theorem domainNames_of_malformed (h : ∀ domains, ¬ Lists list domains) :
    domainNames list = .error (.invalidDomainList "AbstractDomain") := by
  cases hnames : domainNames list with
  | error f => rw [domainNames_eq_error hnames]
  | ok domains => exact absurd (domainNames_eq_ok_iff.1 hnames) (h domains)

/-! ### Values -/

private theorem lookup_domainKey_eq_none_iff :
    entries.lookup "AbstractDomain" = none ↔ ∀ e ∈ entries, e.1 ≠ "AbstractDomain" := by
  rw [List.lookup_eq_none_iff]
  constructor
  · intro h e he
    exact (bne_iff_ne.1 (h e he)).symm
  · intro h e he
    exact bne_iff_ne.2 (h e he).symm

private theorem exists_ofEntry_iff {e : String × Value} :
    (∃ a, Assignment.ofEntry e = .ok a) ↔ ∃ json, e.2.json = .ok json := by
  constructor
  · rintro ⟨a, ha⟩
    exact ⟨a.value, (Assignment.ofEntry_eq_ok_iff.1 ha).2⟩
  · rintro ⟨json, hjson⟩
    exact ⟨{ key := e.1, value := json }, Assignment.ofEntry_eq_ok_iff.2 ⟨rfl, hjson⟩⟩

private theorem exists_keyedEntry_iff {e : Value × Value} :
    (∃ entry, keyedEntry e = .ok entry) ↔ ∃ s, e.1 = .string s := by
  constructor
  · rintro ⟨entry, hentry⟩
    exact ⟨entry.1, by rw [keyedEntry_eq_ok_iff.1 hentry]⟩
  · rintro ⟨s, hs⟩
    exact ⟨(s, e.2), keyedEntry_eq_ok_iff.2 (by rw [← hs])⟩

/-- The keys and the domains of settings whose values can be written. -/
private def summary (s : Settings) : Except Fault (List String × List String) := do
  let assignments ← s.assignments
  return (assignments.map (·.key), s.domains)

private theorem summary_of_unwritten {s : Settings} {before after : List (String × Value)} {e : String × Value}
    {reason : Yaml.JsonFault} (hentries : s.entries = before ++ e :: after)
    (hbefore : ∀ x ∈ before, ∃ json, x.2.json = .ok json) (he : e.2.json = .error reason) :
    summary s = .error (.render reason) := by
  have hassignments : s.assignments = .error (.render reason) := by
    refine mapM_eq_error_iff.2 ⟨before, e, after, hentries, ?_, Assignment.ofEntry_eq_error_iff.2 ⟨reason, he, rfl⟩⟩
    intro x hx
    exact exists_ofEntry_iff.2 (hbefore x hx)
  rw [summary, hassignments]
  rfl

private theorem summary_of_written {s : Settings} (h : ∀ e ∈ s.entries, ∃ json, e.2.json = .ok json) :
    summary s = .ok (s.entries.map Prod.fst, s.domains) := by
  obtain ⟨assignments, hassignments⟩ : ∃ assignments, s.assignments = .ok assignments :=
    exists_mapM_eq_ok_iff.2 fun e he => exists_ofEntry_iff.2 (h e he)
  rw [summary, hassignments, ← keys_of_forall₂ (Settings.assignments_eq_ok_iff.1 hassignments)]
  rfl

theorem Maps.ofValue_eq (h : Maps v entries) :
    Settings.ofValue v =
      match entries.lookup "AbstractDomain" with
      | none => .error (.missingKey "AbstractDomain")
      | some list => (domainNames list).map fun domains => { entries := ordinaryEntries entries, domains } := by
  cases h with
  | mapping =>
    have hkeys : (entries.map fun e => (Value.string e.1, e.2)).mapM keyedEntry = .ok entries :=
      mapM_keyedEntry_eq_ok_iff.2 rfl
    simp only [Settings.ofValue, Settings.ofEntries, hkeys, ok_bind, domainKey]
    cases entries.lookup "AbstractDomain" with
    | none => rfl
    | some list => cases domainNames list <;> rfl
  | null => rfl

/-- What is computed from a value is what the rules say. -/
private theorem Reads.eq (h : Reads v res) : Settings.ofValue v >>= summary = res := by
  cases h with
  | notAMapping hmapping hnull =>
    unfold Settings.ofValue
    split
    · exact absurd rfl (hmapping _)
    · exact absurd rfl hnull
    · rfl
  | @invalidKey before after k w hbefore hk =>
    have hkeys : (before ++ (k, w) :: after).mapM keyedEntry = .error (.invalidKey k) := by
      refine mapM_eq_error_iff.2 ⟨before, (k, w), after, rfl, ?_, keyedEntry_eq_error_iff.2 ⟨hk, rfl⟩⟩
      intro e he
      exact exists_keyedEntry_iff.2 (hbefore e he)
    rw [Settings.ofValue, Settings.ofEntries, hkeys]
    rfl
  | missingKey hv habsent =>
    rw [hv.ofValue_eq, lookup_domainKey_eq_none_iff.2 habsent]
    rfl
  | invalidDomainList hv hlist hmalformed =>
    simp only [hv.ofValue_eq, hlist, domainNames_of_malformed hmalformed]
    rfl
  | render hv hlist hdomains hordinary hbefore he =>
    simp only [hv.ofValue_eq, hlist, domainNames_eq_ok_iff.2 hdomains]
    exact summary_of_unwritten hordinary hbefore he
  | settings hv hlist hdomains hordinary =>
    simp only [hv.ofValue_eq, hlist, domainNames_eq_ok_iff.2 hdomains]
    exact summary_of_written hordinary

private theorem Maps.exists_reads (h : Maps v entries) : ∃ res, Reads v res := by
  cases hlist : entries.lookup "AbstractDomain" with
  | none => exact ⟨_, .missingKey h (lookup_domainKey_eq_none_iff.1 hlist)⟩
  | some list =>
    by_cases hdomains : ∃ domains, Lists list domains
    · obtain ⟨domains, hdomains⟩ := hdomains
      cases hassignments : (ordinaryEntries entries).mapM Assignment.ofEntry with
      | error f =>
        obtain ⟨before, e, after, hordinary, hbefore, he⟩ := mapM_eq_error_iff.1 hassignments
        obtain ⟨reason, hreason, -⟩ := Assignment.ofEntry_eq_error_iff.1 he
        exact ⟨_, .render h hlist hdomains hordinary (fun x hx => exists_ofEntry_iff.1 (hbefore x hx)) hreason⟩
      | ok assignments =>
        have hordinary := exists_mapM_eq_ok_iff.1 ⟨assignments, hassignments⟩
        exact ⟨_, .settings h hlist hdomains fun e he => exists_ofEntry_iff.1 (hordinary e he)⟩
    · exact ⟨_, .invalidDomainList h hlist (not_exists.1 hdomains)⟩

/-- Every value falls under one of the rules. -/
private theorem exists_reads (v : Value) : ∃ res, Reads v res := by
  cases v with
  | null => exact Maps.null.exists_reads
  | mapping es =>
    cases hkeys : es.mapM keyedEntry with
    | error f =>
      obtain ⟨before, ⟨k, w⟩, after, rfl, hbefore, hentry⟩ := mapM_eq_error_iff.1 hkeys
      exact ⟨_, .invalidKey (fun e he => exists_keyedEntry_iff.1 (hbefore e he)) (keyedEntry_eq_error_iff.1 hentry).1⟩
    | ok entries =>
      obtain rfl := mapM_keyedEntry_eq_ok_iff.1 hkeys
      exact (Maps.mapping entries).exists_reads
  | _ => exact ⟨_, .notAMapping (by simp) (by simp)⟩

/-! ### Payloads -/

/-- A document of trimmed payloads is blank only if all of them are empty. -/
theorem isAllBlank_documentOf_iff (htrimmed : ∀ p ∈ payloads, Text.Chars.Trimmed p.toList) :
    Text.isAllBlank (documentOf payloads) = true ↔ ∀ p ∈ payloads, p = "" := by
  rw [Text.isAllBlank, documentOf, String.toList_join, List.flatMap_map, List.all_flatMap, List.all_eq_true]
  refine forall₂_congr fun p hp => ?_
  rw [String.toList_append, List.all_append, Bool.and_eq_true, List.all_eq_true]
  constructor
  · rintro ⟨hblank, -⟩
    exact String.toList_eq_nil_iff.1 ((htrimmed p hp).eq_nil hblank)
  · rintro rfl
    exact ⟨by simp, by decide⟩

private theorem Outcome.eq (htrimmed : ∀ p ∈ payloads, Text.Chars.Trimmed p.toList) (h : Outcome parse payloads res) :
    Settings.ofDocumentBy parse (documentOf payloads) >>= summary = res := by
  unfold Settings.ofDocumentBy
  cases h with
  | empty hp =>
    rw [if_pos ((isAllBlank_documentOf_iff htrimmed).2 hp)]
    rfl
  | document hp hparse =>
    rw [if_neg (by rw [isAllBlank_documentOf_iff htrimmed]; simpa using hp), hparse]
    rfl
  | value hp hparse hv =>
    rw [if_neg (by rw [isAllBlank_documentOf_iff htrimmed]; simpa using hp), hparse]
    exact hv.eq

private theorem exists_outcome (parse : String → Option Value) (payloads : List String) :
    ∃ res, Outcome parse payloads res := by
  by_cases hp : ∀ p ∈ payloads, p = ""
  · exact ⟨_, .empty hp⟩
  · have hp : ∃ p ∈ payloads, p ≠ "" := by simpa using hp
    cases hparse : parse (documentOf payloads) with
    | none => exact ⟨_, .document hp hparse⟩
    | some v =>
      obtain ⟨res, hv⟩ := exists_reads v
      exact ⟨res, .value hp hparse hv⟩

/-- Whatever reads the document, as `migrate` does or otherwise, a migration has the outcome that the rules lay down for
the payloads of its directives, and no other. -/
theorem migrateBy_outcome (parse : String → Option Value) (m : Marker) (r : Registry) (text : String)
    (res : Except Fault (List String × List String)) :
    (migrateBy parse m r text).result.map (fun mig => (mig.keys, mig.domains)) = res ↔
      Outcome parse (m.payloads (Text.lines text)) res := by
  have htrimmed : ∀ p ∈ m.payloads (Text.lines text), Text.Chars.Trimmed p.toList :=
    fun p hp => Marker.trimmed_of_mem_payloads hp
  have hresult : (migrateBy parse m r text).result.map (fun mig => (mig.keys, mig.domains)) =
      Settings.ofDocumentBy parse (documentOf (m.payloads (Text.lines text))) >>= summary :=
    map_result_migrateBy parse m r text fun assignments domains => (assignments.map Assignment.key, domains)
  rw [hresult]
  constructor
  · rintro rfl
    obtain ⟨res, hres⟩ := exists_outcome parse (m.payloads (Text.lines text))
    rwa [hres.eq htrimmed]
  · intro h
    exact h.eq htrimmed

example : (migrate {} {} "// CONFIG: \x7ba: \x7b[]: 0\x7d, 1: b, c: d\x7d\n").result matches
    .error (.invalidKey (.number (.integer 1))) := by
  decide +kernel

end AnalyzerBench.Migration

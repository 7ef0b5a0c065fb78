import AnalyzerBench.Domain
import Mathlib.Data.List.Induction

/-!
# Registries

A registration changes what is found under its own name only (`lookup_register`), keeps the names in order
(`pairwise_names_register`), and can be made before or after one of another name (`register_comm`).  So a registry that
was built by registrations finds the last one of each name (`lookup_ofList`), and its names are the registered ones, each
once and in the order of code points.  The same holds if the registrations start from the domains that the analyzer ships
with (`registerAll_last_write`).
-/

namespace AnalyzerBench

variable {d e : Domain} {ds : List Domain} {n name description : String} {entries : List (String × String)}

/-! ### Sorted lists of domains -/

namespace Domain

private theorem insert_of_eq (h : d.name = e.name) (es : List Domain) : insert d (e :: es) = d :: es := by
  rw [insert, if_pos h]

private theorem insert_of_lt (h : d.name < e.name) (es : List Domain) : insert d (e :: es) = d :: e :: es := by
  rw [insert, if_neg (String.ne_of_lt h), if_pos h]

private theorem insert_of_gt (h : e.name < d.name) (es : List Domain) : insert d (e :: es) = e :: insert d es := by
  rw [insert, if_neg (Ne.symm (String.ne_of_lt h)), if_neg (String.lt_asymm h)]

/-- A domain takes the place of the one of its name, or goes before the first one of a greater name. -/
private theorem insert_cons (d e : Domain) (es : List Domain) :
    (d.name = e.name ∧ insert d (e :: es) = d :: es) ∨
    (d.name < e.name ∧ insert d (e :: es) = d :: e :: es) ∨
    (e.name < d.name ∧ insert d (e :: es) = e :: insert d es) := by
  rcases Std.lt_trichotomy d.name e.name with hlt | hsame | hgt
  · exact .inr (.inl ⟨hlt, insert_of_lt hlt es⟩)
  · exact .inl ⟨hsame, insert_of_eq hsame es⟩
  · exact .inr (.inr ⟨hgt, insert_of_gt hgt es⟩)

private theorem find?_insert_self (d : Domain) (ds : List Domain) :
    (insert d ds).find? (·.name == d.name) = some d := by
  induction ds with
  | nil => simp [insert]
  | cons e es ih =>
    rcases insert_cons d e es with ⟨-, h⟩ | ⟨-, h⟩ | ⟨hgt, h⟩
    · simp [h]
    · simp [h]
    · have hne : e.name ≠ d.name := by
        intro hname
        rw [hname] at hgt
        exact String.lt_irrefl _ hgt
      rw [h, List.find?_cons_of_neg (by simpa), ih]

private theorem find?_insert_of_ne (ds : List Domain) (hn : d.name ≠ n) :
    (insert d ds).find? (·.name == n) = ds.find? (·.name == n) := by
  induction ds with
  | nil => simp [insert, hn]
  | cons e es ih =>
    rcases insert_cons d e es with ⟨hsame, h⟩ | ⟨-, h⟩ | ⟨-, h⟩
    · have he : e.name ≠ n := by rwa [← hsame]
      rw [h, List.find?_cons_of_neg (by simpa), List.find?_cons_of_neg (by simpa)]
    · rw [h, List.find?_cons_of_neg (by simpa)]
    · rw [h, List.find?_cons, List.find?_cons, ih]

private theorem mem_names_insert : n ∈ (insert d ds).map Domain.name ↔ n = d.name ∨ n ∈ ds.map Domain.name := by
  induction ds with
  | nil => simp [insert]
  | cons e es ih =>
    rcases insert_cons d e es with ⟨hsame, h⟩ | ⟨-, h⟩ | ⟨-, h⟩
    · simp [h, hsame]
    · simp [h]
    · rw [h, List.map_cons, List.map_cons, List.mem_cons, List.mem_cons, ih]
      exact or_left_comm

private theorem pairwise_names_insert (hds : (ds.map Domain.name).Pairwise (· < ·)) :
    ((insert d ds).map Domain.name).Pairwise (· < ·) := by
  induction ds with
  | nil => simp [insert]
  | cons e es ih =>
    obtain ⟨hhead, htail⟩ := List.pairwise_cons.1 hds
    rcases insert_cons d e es with ⟨hsame, h⟩ | ⟨hlt, h⟩ | ⟨hgt, h⟩
    · rw [h, List.map_cons, hsame]
      exact hds
    · rw [h, List.map_cons]
      refine List.pairwise_cons.2 ⟨?_, hds⟩
      intro n hn
      rcases List.mem_cons.1 hn with rfl | hn
      · exact hlt
      · exact String.lt_trans hlt (hhead n hn)
    · rw [h, List.map_cons]
      refine List.pairwise_cons.2 ⟨?_, ih htail⟩
      intro n hn
      rcases mem_names_insert.1 hn with rfl | hn
      · exact hgt
      · exact hhead n hn

private theorem insert_comm_of_lt (h : d.name < e.name) (ds : List Domain) :
    insert d (insert e ds) = insert e (insert d ds) := by
  induction ds with
  | nil =>
    show insert d [e] = insert e [d]
    rw [insert_of_lt h, insert_of_gt h, insert]
  | cons f fs ih =>
    rcases Std.lt_trichotomy d.name f.name with hdf | hdf | hfd
    · rw [insert_of_lt hdf, insert_of_gt h]
      -- Wherever the greater name goes among these, the smaller one goes before it.
      rcases insert_cons e f fs with ⟨-, he⟩ | ⟨-, he⟩ | ⟨-, he⟩
      · rw [he, insert_of_lt h]
      · rw [he, insert_of_lt h]
      · rw [he, insert_of_lt hdf]
    · have hfe : f.name < e.name := hdf ▸ h
      rw [insert_of_gt hfe, insert_of_eq hdf, insert_of_eq hdf, insert_of_gt h]
    · have hfe : f.name < e.name := String.lt_trans hfd h
      rw [insert_of_gt hfe, insert_of_gt hfd, insert_of_gt hfd, insert_of_gt hfe, ih]

/-- Domains of two names can be put in either order. -/
private theorem insert_comm (h : d.name ≠ e.name) (ds : List Domain) :
    insert d (insert e ds) = insert e (insert d ds) := by
  rcases Std.lt_trichotomy d.name e.name with hlt | hsame | hgt
  · exact insert_comm_of_lt hlt ds
  · exact absurd hsame h
  · exact (insert_comm_of_lt hgt ds).symm

end Domain

/-! ### Registrations -/

namespace Registry

variable {r : Registry}

theorem lookup_register (r : Registry) (name description n : String) :
    (r.register name description).lookup n = if n = name then some ⟨name, description⟩ else r.lookup n := by
  by_cases h : n = name
  · subst h
    rw [if_pos rfl]
    exact Domain.find?_insert_self ⟨n, description⟩ r.domains
  · rw [if_neg h]
    exact Domain.find?_insert_of_ne r.domains (Ne.symm h)

theorem mem_names_register : n ∈ (r.register name description).names ↔ n = name ∨ n ∈ r.names :=
  Domain.mem_names_insert

theorem pairwise_names_register (h : r.names.Pairwise (· < ·)) :
    (r.register name description).names.Pairwise (· < ·) :=
  Domain.pairwise_names_insert h

theorem register_comm (r : Registry) {a b : String × String} (h : a.1 ≠ b.1) :
    (r.register a.1 a.2).register b.1 b.2 = (r.register b.1 b.2).register a.1 a.2 := by
  unfold register
  rw [Domain.insert_comm (Ne.symm h)]

theorem ofList_concat (entries : List (String × String)) (entry : String × String) :
    ofList (entries ++ [entry]) = (ofList entries).register entry.1 entry.2 := by
  rw [ofList, List.foldl_append]
  rfl

/-- What is found under a name is its last registration. -/
theorem lookup_ofList (entries : List (String × String)) (n : String) :
    (ofList entries).lookup n = (entries.reverse.lookup n).map fun description => ⟨n, description⟩ := by
  induction entries using List.reverseRecOn with
  | nil => rfl
  | append_singleton entries entry ih =>
    obtain ⟨name, description⟩ := entry
    rw [ofList_concat, lookup_register, List.reverse_concat, ih]
    by_cases h : n = name
    · subst h
      simp
    · have hne : (n == name) = false := by simpa
      simp [List.lookup_cons, h, hne]

theorem mem_names_ofList : n ∈ (ofList entries).names ↔ n ∈ entries.map Prod.fst := by
  induction entries using List.reverseRecOn with
  | nil => exact Iff.rfl
  | append_singleton entries entry ih =>
    rw [ofList_concat, mem_names_register, ih, List.map_append, List.mem_append, List.map_singleton,
      List.mem_singleton]
    exact or_comm

/-- The names are in the order of code points, each once. -/
theorem pairwise_names_ofList (entries : List (String × String)) : (ofList entries).names.Pairwise (· < ·) := by
  induction entries using List.reverseRecOn with
  | nil => exact List.Pairwise.nil
  | append_singleton entries entry ih =>
    rw [ofList_concat]
    exact pairwise_names_register ih

/-- A name is found with the description of its last registration. -/
theorem lookup_ofList_eq_some_iff :
    (ofList entries).lookup n = some d ↔
      d.name = n ∧ ∃ before after, entries = before ++ (n, d.description) :: after ∧ n ∉ after.map Prod.fst := by
  rw [lookup_ofList, Option.map_eq_some_iff]
  constructor
  · rintro ⟨description, hlast, rfl⟩
    obtain ⟨after, before, hentries, hafter⟩ := List.lookup_eq_some_iff.1 hlast
    refine ⟨rfl, before.reverse, after.reverse, ?_, ?_⟩
    · simpa using congrArg List.reverse hentries
    · intro hmem
      obtain ⟨entry, hentry, rfl⟩ := List.mem_map.1 hmem
      have hne := hafter entry (List.mem_reverse.1 hentry)
      simp at hne
  · rintro ⟨rfl, before, after, rfl, hafter⟩
    refine ⟨d.description, List.lookup_eq_some_iff.2 ⟨after.reverse, before.reverse, by simp, ?_⟩, rfl⟩
    intro entry hentry
    have hne : d.name ≠ entry.1 := by
      intro hname
      exact hafter (List.mem_map.2 ⟨entry, List.mem_reverse.1 hentry, hname.symm⟩)
    simpa using hne

theorem exists_lookup_ofList_iff : (∃ d, (ofList entries).lookup n = some d) ↔ n ∈ entries.map Prod.fst := by
  rw [← Option.isSome_iff_exists, lookup_ofList, Option.isSome_map, List.lookup_isSome_iff]
  constructor
  · rintro ⟨entry, hentry, hname⟩
    exact List.mem_map.2 ⟨entry, List.mem_reverse.1 hentry, (beq_iff_eq.1 hname).symm⟩
  · intro hmem
    obtain ⟨entry, hentry, rfl⟩ := List.mem_map.1 hmem
    exact ⟨entry, List.mem_reverse.2 hentry, beq_self_eq_true _⟩

/-! ### Further registrations -/

/-- The registry after registering more names and descriptions in turn. -/
def registerAll (r : Registry) (entries : List (String × String)) : Registry :=
  entries.foldl (fun r (name, description) => r.register name description) r

theorem registerAll_ofList (earlier later : List (String × String)) :
    (ofList earlier).registerAll later = ofList (earlier ++ later) := List.foldl_append.symm

theorem registerAll_swap (r : Registry) (before after : List (String × String)) {a b : String × String}
    (h : a.1 ≠ b.1) : r.registerAll (before ++ a :: b :: after) = r.registerAll (before ++ b :: a :: after) := by
  unfold registerAll
  rw [List.foldl_append, List.foldl_append]
  show after.foldl _ (((before.foldl _ r).register a.1 a.2).register b.1 b.2) = _
  rw [register_comm _ h]
  rfl

/-- A registry is a map in which the last registration of a name holds: it finds the names that were registered, with
their last descriptions, and lists them in the order of code points, each once.  Neighbouring registrations of two names
can be exchanged.  The registrations may start from the empty registry, or from the one that the analyzer ships with,
which was itself made by registrations. -/
theorem registerAll_last_write :
    (({} : Registry) = ofList [] ∧ ∃ shipped, builtin = ofList shipped) ∧
    ∀ (start : Registry) (earlier later : List (String × String)), start = ofList earlier →
      (∀ n, (∃ d, (start.registerAll later).lookup n = some d) ↔ n ∈ (earlier ++ later).map Prod.fst) ∧
      (∀ n d, (start.registerAll later).lookup n = some d ↔
        d.name = n ∧ ∃ before after,
          earlier ++ later = before ++ (n, d.description) :: after ∧ n ∉ after.map Prod.fst) ∧
      ((start.registerAll later).names.Pairwise (· < ·) ∧
        ∀ n, n ∈ (start.registerAll later).names ↔ n ∈ (earlier ++ later).map Prod.fst) ∧
      ∀ before a b after, a.1 ≠ b.1 →
        start.registerAll (before ++ a :: b :: after) = start.registerAll (before ++ b :: a :: after) := by
  refine ⟨⟨rfl, _, rfl⟩, ?_⟩
  rintro start earlier later rfl
  rw [registerAll_ofList]
  refine ⟨?_, ?_, ⟨pairwise_names_ofList _, ?_⟩, ?_⟩
  · intro n
    exact exists_lookup_ofList_iff
  · intro n d
    exact lookup_ofList_eq_some_iff
  · intro n
    exact mem_names_ofList
  · intro before a b after h
    exact registerAll_swap _ before after h

/-- One of the domains that are shipped is registered again, twice, and a new one between. -/
theorem registerAll_last_write_builtin :
    (builtin.registerAll [("Octagon", "old"), ("Ω", "last"), ("Octagon", "new")]).lookup "Octagon" =
      some ⟨"Octagon", "new"⟩ ∧
    (builtin.registerAll [("Octagon", "old"), ("Ω", "last"), ("Octagon", "new")]).names.Pairwise (· < ·) ∧
    builtin.registerAll [("Octagon", "old"), ("Ω", "last"), ("Octagon", "new")] =
      builtin.registerAll [("Octagon", "old"), ("Octagon", "new"), ("Ω", "last")] := by
  obtain ⟨⟨-, shipped, hshipped⟩, hall⟩ := registerAll_last_write
  obtain ⟨-, hlookup, ⟨hsorted, -⟩, hswap⟩ := hall builtin shipped _ hshipped
  refine ⟨(hlookup _ _).2 ⟨rfl, shipped ++ [("Octagon", "old"), ("Ω", "last")], [], by simp, by simp⟩, hsorted, ?_⟩
  exact hswap [("Octagon", "old")] ("Ω", "last") ("Octagon", "new") [] (by decide)

end Registry

end AnalyzerBench

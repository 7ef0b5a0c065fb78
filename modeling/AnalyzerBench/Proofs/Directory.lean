import AnalyzerBench.Directory

/-!
# Replacing a file

Writing a temporary file beside a file and moving it over that file leaves the same directory as writing the file
itself, if nothing had the temporary name before (`replaceThrough_eq_put`), and there always is such a name
(`content?_freshName`).  So replacing a file changes its content and nothing else (`replaced_replace`).
-/

namespace AnalyzerBench.Directory

variable {d : Directory} {place : Place} {c : Content} {name path text : String}

/-- One file has got another content; there are the same files and folders as before, and all other files are as they
were. -/
structure Replaced (d d' : Directory) (place : Place) (c : Content) : Prop where
  places : d'.files.map (·.1) = d.files.map (·.1)
  folders : d'.folders = d.folders
  content : d'.content? place = some c
  others : ∀ p, p ≠ place → d'.content? p = d.content? p

/-! ### Files -/

theorem content?_eq_none_iff : d.content? place = none ↔ ∀ e ∈ d.files, e.1 ≠ place := by
  unfold content?
  rw [List.lookup_eq_none_iff]
  constructor
  · intro h e he heq
    exact absurd (h e he) (by simp [heq])
  · intro h e he
    simpa using Ne.symm (h e he)

private theorem lookup_update_self {es : List (Place × Content)} (h : (es.lookup place).isSome = true) (c : Content) :
    (es.map fun (p, old) => if p = place then (p, c) else (p, old)).lookup place = some c := by
  induction es with
  | nil => simp at h
  | cons e es ih =>
    obtain ⟨p, old⟩ := e
    by_cases hp : p = place
    · simp [hp]
    · have hne : (place == p) = false := by simpa using Ne.symm hp
      rw [List.lookup_cons, hne] at h
      simp only [List.map_cons, if_neg hp, List.lookup_cons, hne]
      exact ih h

private theorem lookup_update_of_ne {p : Place} (hp : p ≠ place) (es : List (Place × Content)) (c : Content) :
    (es.map fun (q, old) => if q = place then (q, c) else (q, old)).lookup p = es.lookup p := by
  induction es with
  | nil => rfl
  | cons e es ih =>
    obtain ⟨q, old⟩ := e
    by_cases hq : q = place
    · have hne : (p == q) = false := by simpa [hq] using hp
      simp only [List.map_cons, if_pos hq, List.lookup_cons, hne, ih]
    · simp only [List.map_cons, if_neg hq, List.lookup_cons, ih]

theorem content?_put_self (d : Directory) (place : Place) (c : Content) : (d.put place c).content? place = some c := by
  unfold put
  split
  · next h => exact lookup_update_self h c
  · next h =>
    have hnone : d.files.lookup place = none := Option.not_isSome_iff_eq_none.1 h
    simp [content?, List.lookup_append, hnone]

theorem content?_put_of_ne {p : Place} (hp : p ≠ place) (d : Directory) (c : Content) :
    (d.put place c).content? p = d.content? p := by
  have hne : (p == place) = false := by simpa using hp
  unfold put
  split
  · exact lookup_update_of_ne hp d.files c
  · simp [content?, List.lookup_append, List.lookup_cons, hne]

/-- Giving a file another content adds no file. -/
theorem replaced_put (h : (d.content? place).isSome = true) (c : Content) : Replaced d (d.put place c) place c where
  places := by
    have hname : ∀ e : Place × Content, (if e.1 = place then (e.1, c) else e).1 = e.1 := by
      intro e
      split <;> rfl
    simp [put, h, Function.comp_def, hname]
  folders := by simp [put, h]
  content := content?_put_self d place c
  others _ hp := content?_put_of_ne hp d c

/-! ### Temporary files -/

/-- A file that was not there is put and taken away again. -/
theorem remove_put (h : d.content? place = none) (c : Content) : (d.put place c).remove place = d := by
  have hkeep : d.files.filter (fun e => e.1 != place) = d.files := by
    rw [List.filter_eq_self]
    intro e he
    simpa using content?_eq_none_iff.1 h e he
  have hput : d.put place c = { d with files := d.files ++ [(place, c)] } := by simp [put, h]
  rw [hput]
  simp [remove, hkeep]

/-- The temporary file leaves no trace. -/
theorem replaceThrough_eq_put (h : d.content? (place.dropLast ++ [name]) = none) (text : String) :
    d.replaceThrough name place text = d.put place (.text text) := by
  simp only [replaceThrough, move, content?_put_self, remove_put h]

private theorem length_le_join {names : List String} (h : name ∈ names) :
    name.toList.length ≤ (String.join names).toList.length := by
  obtain ⟨s, t, rfl⟩ := List.append_of_mem h
  simp only [String.toList_join, List.flatMap_append, List.flatMap_cons, List.length_append]
  omega

private theorem freshName_not_mem {names : List String}
    (h : ∀ n ∈ names, n ∈ (d.files.map (·.1) ++ d.folders).flatten) : d.freshName ∉ names := by
  intro hmem
  -- The fresh name is longer than all names together.
  have hle := length_le_join (h _ hmem)
  rw [freshName, String.toList_append, List.length_append] at hle
  have hlen : ".tmp".toList.length = 4 := by decide
  omega

/-- No file has the fresh name. -/
theorem content?_freshName (d : Directory) (folder : Place) : d.content? (folder ++ [d.freshName]) = none := by
  rw [content?_eq_none_iff]
  intro e he hplace
  have hnames : ∀ n ∈ e.1, n ∈ (d.files.map (·.1) ++ d.folders).flatten :=
    fun n hn => List.mem_flatten.2 ⟨e.1, List.mem_append_left _ (List.mem_map_of_mem he), hn⟩
  have hfresh : d.freshName ∉ e.1 := freshName_not_mem hnames
  exact hfresh (by simp [hplace])

/-! ### Reading and replacing -/

theorem read_eq_ok_iff :
    d.read path = .ok text ↔ ∃ place, d.find path = .ok place ∧ d.content? place = some (.text text) := by
  unfold read
  cases hfind : d.find path with
  | error reason => simp [bind, Except.bind]
  | ok place =>
    simp only [bind, Except.bind, Except.ok.injEq, exists_eq_left']
    split
    · next s hs => simp [hs, eq_comm]
    · next octets hoctets => simp [hoctets]
    · next hnone => simp [hnone]

/-- The name of the temporary file does not matter, as long as no file has it. -/
theorem replace_eq_replaceThrough (hfind : d.find path = .ok place)
    (hname : d.content? (place.dropLast ++ [name]) = none) (text : String) :
    d.replace path text = d.replaceThrough name place text := by
  simp only [replace, hfind, replaceThrough_eq_put (content?_freshName d place.dropLast), replaceThrough_eq_put hname]

private theorem isSome_content?_iff : (d.content? place).isSome = true ↔ place ∈ d.files.map (·.1) := by
  rw [← Decidable.not_iff_not, Option.not_isSome_iff_eq_none, content?_eq_none_iff, List.mem_map]
  constructor
  · rintro h ⟨e, he, rfl⟩
    exact h e he rfl
  · intro h e he heq
    exact h ⟨e, he, heq⟩

/-- Which file a path leads to depends on the places of the files and folders only. -/
theorem follow_congr {d' : Directory} (hplaces : d'.files.map (·.1) = d.files.map (·.1))
    (hfolders : d'.folders = d.folders) (folder : Place) (steps : List String) :
    d'.follow folder steps = d.follow folder steps := by
  have hfolder : ∀ p, d'.hasFolder p = d.hasFolder p := by
    intro p
    rw [hasFolder, hasFolder, hfolders]
  have hfile : ∀ p, (d'.content? p).isSome = (d.content? p).isSome := by
    intro p
    rw [Bool.eq_iff_iff, isSome_content?_iff, isSome_content?_iff, hplaces]
  induction steps generalizing folder with
  | nil => rfl
  | cons step steps ih => simp only [follow, hfolder, hfile, ih]

/-- A replaced file is read as its new text. -/
theorem Replaced.read_eq {d' : Directory} (h : Replaced d d' place (.text text)) (hfind : d.find path = .ok place) :
    d'.read path = .ok text := by
  have hplace : d'.find path = .ok place := by
    rw [← hfind, find, find, follow_congr h.places h.folders]
  exact read_eq_ok_iff.2 ⟨place, hplace, h.content⟩

/-- Replacing a file that can be read changes the content of this file and nothing else. -/
theorem replaced_replace {old : String} (hfind : d.find path = .ok place) (hold : d.content? place = some (.text old))
    (new : String) : Replaced d (d.replace path new) place (.text new) := by
  have hsome : (d.content? place).isSome = true := by simp [hold]
  have hreplace : d.replace path new = d.put place (.text new) := by
    simp only [replace, hfind, replaceThrough_eq_put (content?_freshName d place.dropLast)]
  rw [hreplace]
  exact replaced_put hsome (.text new)

end AnalyzerBench.Directory

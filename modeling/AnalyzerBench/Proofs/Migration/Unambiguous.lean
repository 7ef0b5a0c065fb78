import AnalyzerBench.Proofs.Migration.Migrate

/-!
# When a migrated file is unambiguous

Keys are written as they are.  A key that holds a line end and, after it, the beginning of a line of the block
(`Layout.Forges`) can be read as two assignments, so two different configurations may be written as the same file
(`migrate_ambiguous`).  Nothing else can go wrong: without such keys the block determines its assignments (`chars_inj`),
and so the file determines the configuration (`migrate_unambiguous_iff`).

For the proof, two blocks are read side by side.  Where their assignments differ for the first time, the line end of the
shorter one stands inside the key of the longer one.  If that key is no forgery, it breaks off before the next line of
the shorter block has begun.  From there on each block in turn has a line end where the other one has the inside of a
key, and neither can come to its end first (`chars_ne_of_chased`).

The list of domains is written in quotes and cannot be forged at all: it is one line whatever the names are, and different
lists are different lines (`domainList_unambiguous`).
-/

namespace AnalyzerBench.Migration

open Text.Chars (Closed)

variable {m : Marker} {r : Registry} {l l₁ l₂ : Layout} {text₁ text₂ : String} {mig₁ mig₂ : Migration}

/-- The characters of an assignment after `config.`. -/
def Assignment.body (a : Assignment) : List Char := a.key.toList ++ ([' ', '=', ' '] ++ a.value.toList)

private theorem Assignment.body_inj {a b : Assignment} (ha : a.Written) (hb : b.Written) (h : a.body = b.body) :
    a = b := by
  obtain ⟨key, value⟩ := a
  obtain ⟨key', value'⟩ := b
  obtain ⟨hkey, hvalue⟩ := ha.closed.assignment_inj hb.closed h
  obtain rfl : key = key' := String.toList_inj.1 hkey
  obtain rfl : value = value' := String.toList_inj.1 hvalue
  rfl

namespace Layout

variable {a b : Assignment} {as bs : List Assignment} {p s u v w x y : List Char}

/-- The characters before the key in each line of the block. -/
def start (l : Layout) : List Char := l.opening.toList ++ " config.".toList

/-- The characters of the lines of assignments. -/
def chars (l : Layout) (as : List Assignment) : List Char := as.flatMap fun a => (l.line a).toList

/-- The key holds a line end and the beginning of another line of the block. -/
def Forges (l : Layout) (key : String) : Prop := l.lineEnd.text.toList ++ l.start <:+: key.toList

instance (l : Layout) (key : String) : Decidable (l.Forges key) :=
  inferInstanceAs (Decidable (l.lineEnd.text.toList ++ l.start <:+: key.toList))

theorem chars_cons (l : Layout) (a : Assignment) (as : List Assignment) :
    l.chars (a :: as) = l.start ++ (a.body ++ (l.lineEnd.text.toList ++ l.chars as)) := by
  simp [chars, toList_line, start, Assignment.body, Assignment.text]

private theorem start_ne_nil (l : Layout) : l.start ≠ [] := by simp [start]

private theorem not_mem_start (h : l.WellFormed m) : '\n' ∉ l.start := by simp [start, h.opening]

private theorem getLast?_start (l : Layout) : l.start.getLast? = some '.' := by
  rw [start, List.getLast?_append]
  rfl

/-! ### Line ends -/

/-- A line end and one that begins later do not overlap. -/
theorem lineEnd_apart (e : Text.LineEnd) (hu : u ≠ []) (h : e.text.toList ++ x = u ++ (e.text.toList ++ y)) :
    ∃ t, u = e.text.toList ++ t ∧ x = t ++ (e.text.toList ++ y) := by
  obtain ⟨c, u, rfl⟩ := List.exists_cons_of_ne_nil hu
  cases e with
  | lf =>
    simp only [Text.LineEnd.text, String.reduceToList, List.cons_append, List.nil_append, List.cons.injEq] at h ⊢
    exact ⟨u, ⟨h.1.symm, rfl⟩, h.2⟩
  | crlf =>
    simp only [Text.LineEnd.text, String.reduceToList, List.cons_append, List.nil_append, List.cons.injEq] at h ⊢
    cases u with
    | nil => simp at h
    | cons d u =>
      simp only [List.cons_append, List.cons.injEq] at h
      exact ⟨u, ⟨h.1.symm, by rw [h.2.1]⟩, h.2.2⟩

/-- A line end does not reach into a text without line feeds. -/
private theorem lineEnd_before (e : Text.LineEnd) (hw : '\n' ∉ w) (h : x ++ (e.text.toList ++ y) = p ++ w) :
    ∃ t, p = x ++ (e.text.toList ++ t) ∧ y = t ++ w := by
  rw [← List.append_assoc] at h
  rcases List.append_eq_append_iff.1 h with ⟨t, hp, hy⟩ | ⟨t, hx, hwt⟩
  · exact ⟨t, by rw [hp, List.append_assoc], hy⟩
  · rcases List.eq_nil_or_concat t with rfl | ⟨t, c, rfl⟩
    · exact ⟨[], by simpa using hx.symm, by simpa using hwt.symm⟩
    · have hlast := congrArg List.getLast? hx
      rw [List.getLast?_append, getLast?_lineEnd] at hlast
      obtain rfl : '\n' = c := by simpa using hlast
      exact absurd (by simp [hwt]) hw

theorem mem_lineEnd (e : Text.LineEnd) : '\n' ∈ e.text.toList := List.mem_of_getLast? (getLast?_lineEnd e)

/-- A line end that comes after the beginning of a line shares no character with it. -/
private theorem lineEnd_after_start (h : l.WellFormed m) (e : x ++ (l.lineEnd.text.toList ++ y) = l.start ++ w) :
    ∃ t, w = t ++ (l.lineEnd.text.toList ++ y) := by
  rcases List.append_eq_append_iff.1 e with ⟨t, hstart, ht⟩ | ⟨t, -, ht⟩
  · rcases List.eq_nil_or_concat t with rfl | ⟨t, c, rfl⟩
    · exact ⟨[], by simpa using ht.symm⟩
    · have hlast := congrArg List.getLast? hstart
      rw [getLast?_start] at hlast
      obtain rfl : '.' = c := by simpa using hlast
      rcases List.append_eq_append_iff.1 ht with ⟨z, hz, -⟩ | ⟨z, hz, -⟩
      · have hmem : '\n' ∈ l.start := by
          rw [hstart, hz]
          exact List.mem_append_right _ (List.mem_append_left _ (mem_lineEnd _))
        exact absurd hmem (not_mem_start h)
      · have hdot : '.' ∈ l.lineEnd.text.toList := by simp [hz]
        cases hend : l.lineEnd with
        | lf => simp [hend, Text.LineEnd.text] at hdot
        | crlf => simp [hend, Text.LineEnd.text] at hdot
  · exact ⟨t, ht⟩

/-! ### Reading two blocks side by side -/

/-- Where one line ends before the other one, its line end stands in the key of the other one. -/
private theorem lineEnd_in_key (e : Text.LineEnd) (hw : '\n' ∉ w) (hu : u ≠ []) (h : p ++ w = x ++ u)
    (hrest : e.text.toList ++ y = u ++ (e.text.toList ++ v)) :
    ∃ t, p = x ++ (e.text.toList ++ t) ∧ y = t ++ (w ++ (e.text.toList ++ v)) := by
  obtain ⟨t, rfl, hy⟩ := lineEnd_apart e hu hrest
  obtain ⟨z, hp, rfl⟩ := lineEnd_before e hw h.symm
  exact ⟨z, hp, by rw [hy, List.append_assoc]⟩

private theorem not_mem_separated (hv : Closed v) : '\n' ∉ [' ', '=', ' '] ++ v := by
  simp [hv.not_mem]

/-- No block goes on inside a line of another block after its own line has ended there. -/
private theorem chars_ne_of_chased (h : l.WellFormed m) (has : ∀ a ∈ as, a.Written ∧ ¬ l.Forges a.key)
    (hbs : ∀ b ∈ bs, b.Written ∧ ¬ l.Forges b.key) (hv : Closed v) (hs : ¬ l.start <+: s) :
    l.chars as ≠ s ++ (([' ', '=', ' '] ++ v) ++ (l.lineEnd.text.toList ++ l.chars bs)) := by
  induction hn : as.length + bs.length generalizing as bs s v with
  | zero =>
    obtain rfl : as = [] := List.length_eq_zero_iff.1 (by omega)
    simp [chars]
  | succ n ih =>
    cases as with
    | nil => simp [chars]
    | cons a as =>
      intro e
      obtain ⟨ha, hforges⟩ := has a (by simp)
      rw [chars_cons, Assignment.body] at e
      -- The line of the first block begins with `s`, so no line feed stands in what the second one adds to its line.
      have hsstart : s <+: l.start := by
        rcases List.prefix_or_prefix_of_prefix ⟨_, e.symm⟩ ⟨_, rfl⟩ with hpre | hpre
        · exact hpre
        · exact absurd hpre hs
      have hopen : '\n' ∉ s ++ ([' ', '=', ' '] ++ v) := by
        rw [List.mem_append, not_or]
        exact ⟨fun hmem => not_mem_start h (hsstart.subset hmem), not_mem_separated hv⟩
      have hsame : l.start ++ a.key.toList ++ ([' ', '=', ' '] ++ a.value.toList) ≠ s ++ ([' ', '=', ' '] ++ v) :=
        fun hline => hs ⟨_, (ha.closed.assignment_inj hv hline).1⟩
      have e' : l.start ++ a.key.toList ++ ([' ', '=', ' '] ++ a.value.toList) ++
          (l.lineEnd.text.toList ++ l.chars as) =
            s ++ ([' ', '=', ' '] ++ v) ++ (l.lineEnd.text.toList ++ l.chars bs) := by
        simpa only [List.append_assoc] using e
      rcases List.append_eq_append_iff.1 e' with ⟨u, hline, hrest⟩ | ⟨u, hline, hrest⟩
      · by_cases hu : u = []
        · exact hsame (by simpa [hu] using hline.symm)
        · obtain ⟨t, rfl, -⟩ := lineEnd_apart _ hu hrest
          rw [hline] at hopen
          exact hopen (List.mem_append_right _ (List.mem_append_left _ (mem_lineEnd _)))
      · by_cases hu : u = []
        · exact hsame (by simpa [hu] using hline)
        · obtain ⟨t, hkey, hchars⟩ := lineEnd_in_key _ (not_mem_separated ha.closed) hu hline hrest
          have ht : ¬ l.start <+: t := by
            rintro ⟨z, rfl⟩
            obtain ⟨y, hy⟩ := lineEnd_after_start h hkey.symm
            exact hforges ⟨y, z, by simp [hy]⟩
          have has' : ∀ x ∈ as, x.Written ∧ ¬ l.Forges x.key := fun x hx => has x (List.mem_cons_of_mem _ hx)
          have hlen : bs.length + as.length = n := by
            rw [List.length_cons] at hn
            omega
          exact ih hbs has' ha.closed ht hlen hchars

private theorem eq_nil_of_longer (h : l.WellFormed m) (has : ∀ a ∈ as, a.Written ∧ ¬ l.Forges a.key)
    (hbs : ∀ b ∈ bs, b.Written ∧ ¬ l.Forges b.key) (hb : b.Written ∧ ¬ l.Forges b.key) (hline : b.body = a.body ++ u)
    (hrest : l.lineEnd.text.toList ++ l.chars as = u ++ (l.lineEnd.text.toList ++ l.chars bs)) : u = [] := by
  obtain ⟨hwritten, hforges⟩ := hb
  by_contra hu
  obtain ⟨t, hkey, hchars⟩ := lineEnd_in_key _ (not_mem_separated hwritten.closed) hu hline hrest
  have ht : ¬ l.start <+: t := by
    rintro ⟨z, rfl⟩
    exact hforges ⟨a.body, z, by simp [hkey]⟩
  exact chars_ne_of_chased h has hbs hwritten.closed ht hchars

/-- Blocks without forged lines are equal only if their assignments are. -/
theorem chars_inj (h : l.WellFormed m) (has : ∀ a ∈ as, a.Written ∧ ¬ l.Forges a.key)
    (hbs : ∀ b ∈ bs, b.Written ∧ ¬ l.Forges b.key) (e : l.chars as = l.chars bs) : as = bs := by
  induction as generalizing bs with
  | nil =>
    cases bs with
    | nil => rfl
    | cons b bs =>
      rw [chars_cons] at e
      exact absurd (List.append_eq_nil_iff.1 e.symm).1 (start_ne_nil l)
  | cons a as ih =>
    cases bs with
    | nil =>
      rw [chars_cons] at e
      exact absurd (List.append_eq_nil_iff.1 e).1 (start_ne_nil l)
    | cons b bs =>
      obtain ⟨ha, has⟩ := List.forall_mem_cons.1 has
      obtain ⟨hb, hbs⟩ := List.forall_mem_cons.1 hbs
      rw [chars_cons, chars_cons] at e
      have hfirst : a.body = b.body ∧ l.chars as = l.chars bs := by
        rcases List.append_eq_append_iff.1 (List.append_cancel_left e) with ⟨u, hline, hrest⟩ | ⟨u, hline, hrest⟩
        · obtain rfl := eq_nil_of_longer h has hbs hb hline hrest
          exact ⟨by simpa using hline.symm, List.append_cancel_left hrest⟩
        · obtain rfl := eq_nil_of_longer h hbs has ha hline hrest
          exact ⟨by simpa using hline, (List.append_cancel_left hrest).symm⟩
      rw [Assignment.body_inj ha.1 hb.1 hfirst.1, ih has hbs hfirst.2]

/-! ### Migrated files -/

private theorem not_forges_of_not_mem {key : String} (h : '\n' ∉ key.toList) : ¬ l.Forges key :=
  fun hforges => h (hforges.subset (List.mem_append_left _ (mem_lineEnd _)))

theorem chars_of_assemble {ds ds' : List String} (h : l.assemble as ds = l.assemble bs ds') :
    l.chars (as ++ [Assignment.ofDomains ds]) = l.chars (bs ++ [Assignment.ofDomains ds']) := by
  have hblock : ∀ cs es, (String.join (l.block cs es)).toList = l.chars (cs ++ [Assignment.ofDomains es]) := by
    intro cs es
    rw [String.toList_join, block, List.flatMap_map, chars]
  have e := congrArg String.toList h
  simp only [assemble, String.toList_append, List.append_assoc, hblock] at e
  exact List.append_cancel_right (List.append_cancel_left e)

end Layout

/-- Of two texts that differ at most in their directives and migrate to the same text, let the first one have no key
that forges a line.  Then they say the same if and only if the second one has no such key, either. -/
theorem migrate_unambiguous_iff
    (h₁ : (migrate m r text₁).result = .ok mig₁) (h₂ : (migrate m r text₂).result = .ok mig₂)
    (hl₁ : Layout.ofLines? m (Text.lines text₁) = some l₁) (hl₂ : Layout.ofLines? m (Text.lines text₂) = some l₂)
    (hleading : l₁.leading = l₂.leading) (htrailing : l₁.trailing = l₂.trailing) (hopening : l₁.opening = l₂.opening)
    (hlineEnd : l₁.lineEnd = l₂.lineEnd) (htext : mig₁.text = mig₂.text) (hkeys : ∀ k ∈ mig₁.keys, ¬ l₁.Forges k) :
    (mig₁.assignments = mig₂.assignments ∧ mig₁.domains = mig₂.domains) ↔ ∀ k ∈ mig₂.keys, ¬ l₁.Forges k := by
  obtain ⟨l, hl, hwell, hconfigures₁, ht₁⟩ := migrate_eq_ok h₁
  obtain rfl : l = l₁ := Option.some.inj (hl.symm.trans hl₁)
  obtain ⟨l', hl', -, hconfigures₂, ht₂⟩ := migrate_eq_ok h₂
  obtain rfl : l' = l₂ := Option.some.inj (hl'.symm.trans hl₂)
  constructor
  · rintro ⟨hassignments, -⟩
    rw [Migration.keys, ← hassignments]
    exact hkeys
  · intro hkeys'
    have hframe : ∀ as ds, l'.assemble as ds = l.assemble as ds := by
      intro as ds
      have hline : l'.line = l.line := by
        funext a
        rw [Layout.line, Layout.line, hopening, hlineEnd]
      rw [Layout.assemble, Layout.assemble, Layout.block, Layout.block, hline, hleading, htrailing]
    have hdomain : ¬ l.Forges domainKey := Layout.not_forges_of_not_mem (by decide : '\n' ∉ domainKey.toList)
    have hblock₁ := hconfigures₁.forall_block hkeys hdomain
    have hblock₂ := hconfigures₂.forall_block hkeys' hdomain
    rw [ht₁, ht₂, hframe] at htext
    have hsame := Layout.chars_inj hwell hblock₁ hblock₂ (Layout.chars_of_assemble htext)
    obtain ⟨hassignments, hdomains⟩ := List.append_inj' hsame rfl
    have hlists : domainList mig₁.domains = domainList mig₂.domains :=
      congrArg Assignment.value (List.cons.inj hdomains).1
    exact ⟨hassignments, domainListBy_inj hlists⟩

theorem migrate_unambiguous_broken_key :
    ∃ mig₁ mig₂,
      (migrate {} {} "// CONFIG: \x7b\"a\\nb\": 1, AbstractDomain: []\x7d\n").result = .ok mig₁ ∧
      (migrate {} {} "// CONFIG: \x7bAbstractDomain: [],\n// CONFIG: \"a\\nb\": 0x1\x7d\n").result = .ok mig₂ ∧
      (∀ k ∈ mig₁.keys, '\n' ∈ k.toList) ∧ mig₁.assignments = mig₂.assignments ∧ mig₁.domains = mig₂.domains := by
  have h₁ : (migrate {} {} "// CONFIG: \x7b\"a\\nb\": 1, AbstractDomain: []\x7d\n").result = .ok {
      text := "// CONFIG: config.a\nb = 1\n// CONFIG: config.AbstractDomain = []\n",
      assignments := [⟨"a\nb", "1"⟩], domains := [], interleaved := false } := by
    decide +kernel
  have h₂ : (migrate {} {} "// CONFIG: \x7bAbstractDomain: [],\n// CONFIG: \"a\\nb\": 0x1\x7d\n").result = .ok {
      text := "// CONFIG: config.a\nb = 1\n// CONFIG: config.AbstractDomain = []\n",
      assignments := [⟨"a\nb", "1"⟩], domains := [], interleaved := false } := by
    decide +kernel
  have hl₁ : Layout.ofLines? {} (Text.lines "// CONFIG: \x7b\"a\\nb\": 1, AbstractDomain: []\x7d\n") = some {
      leading := [], opening := "// CONFIG:", lineEnd := .lf, trailing := [], regathered := none,
      payloads := ["\x7b\"a\\nb\": 1, AbstractDomain: []\x7d"] } := by
    decide +kernel
  have hl₂ : Layout.ofLines? {}
      (Text.lines "// CONFIG: \x7bAbstractDomain: [],\n// CONFIG: \"a\\nb\": 0x1\x7d\n") = some {
        leading := [], opening := "// CONFIG:", lineEnd := .lf, trailing := [], regathered := none,
        payloads := ["\x7bAbstractDomain: [],", "\"a\\nb\": 0x1\x7d"] } := by
    decide +kernel
  have hsame := (migrate_unambiguous_iff h₁ h₂ hl₁ hl₂ rfl rfl rfl rfl rfl (by decide +kernel)).2 (by decide +kernel)
  exact ⟨_, _, h₁, h₂, by decide, hsame⟩

/-- A key with a line feed can forge a line: two settings and a single one may be written as the same text. -/
theorem migrate_ambiguous :
    ¬ ∀ (m : Marker) (r : Registry) (text₁ text₂ : String) (mig₁ mig₂ : Migration) (l₁ l₂ : Layout),
      (migrate m r text₁).result = .ok mig₁ → (migrate m r text₂).result = .ok mig₂ →
      Layout.ofLines? m (Text.lines text₁) = some l₁ → Layout.ofLines? m (Text.lines text₂) = some l₂ →
      l₁.leading = l₂.leading → l₁.trailing = l₂.trailing → l₁.opening = l₂.opening → l₁.lineEnd = l₂.lineEnd →
      mig₁.text = mig₂.text →
      mig₁.keys = mig₂.keys ∧ mig₁.assignments = mig₂.assignments ∧ mig₁.domains = mig₂.domains := by
  have h₁ : (migrate {} {} "// CONFIG: \x7ba: 1, b: 2, AbstractDomain: []\x7d\n").result = .ok {
      text := "// CONFIG: config.a = 1\n// CONFIG: config.b = 2\n// CONFIG: config.AbstractDomain = []\n",
      assignments := [⟨"a", "1"⟩, ⟨"b", "2"⟩], domains := [], interleaved := false } := by
    decide +kernel
  have h₂ : (migrate {} {} "// CONFIG: \x7b\"a = 1\\n// CONFIG: config.b\": 2, AbstractDomain: []\x7d\n").result = .ok {
      text := "// CONFIG: config.a = 1\n// CONFIG: config.b = 2\n// CONFIG: config.AbstractDomain = []\n",
      assignments := [⟨"a = 1\n// CONFIG: config.b", "2"⟩], domains := [], interleaved := false } := by
    decide +kernel
  have hl₁ : Layout.ofLines? {} (Text.lines "// CONFIG: \x7ba: 1, b: 2, AbstractDomain: []\x7d\n") = some {
      leading := [], opening := "// CONFIG:", lineEnd := .lf, trailing := [], regathered := none,
      payloads := ["\x7ba: 1, b: 2, AbstractDomain: []\x7d"] } := by
    decide +kernel
  have hl₂ : Layout.ofLines? {}
      (Text.lines "// CONFIG: \x7b\"a = 1\\n// CONFIG: config.b\": 2, AbstractDomain: []\x7d\n") = some {
        leading := [], opening := "// CONFIG:", lineEnd := .lf, trailing := [], regathered := none,
        payloads := ["\x7b\"a = 1\\n// CONFIG: config.b\": 2, AbstractDomain: []\x7d"] } := by
    decide +kernel
  intro h
  have hkeys := (h {} {} _ _ _ _ _ _ h₁ h₂ hl₁ hl₂ rfl rfl rfl rfl rfl).1
  exact absurd hkeys (by decide)

/-! ### Domain lists -/

private theorem Layout.line_ofDomains (l : Layout) (domains : List String) :
    l.line (.ofDomains domains) =
      l.opening ++ " config.AbstractDomain = " ++ domainListBy Text.isUnprintable domains ++ l.lineEnd.text := by
  rw [← String.toList_inj, toList_line]
  simp [Assignment.text, Assignment.ofDomains, domainKey, domainList]

/-- The last line of the block, which is one line whatever the names are. -/
private theorem Layout.lines_block (h : l.WellFormed m) (assignments : List Assignment) (domains : List String) :
    Text.lines (String.join (l.block assignments domains)) =
      Text.lines (String.join (assignments.map l.line)) ++ [l.line (.ofDomains domains)] := by
  have hends : ∀ x ∈ assignments.map l.line, x.toList.getLast? = some '\n' := by
    intro x hx
    have hmem : x ∈ l.block assignments domains := by
      rw [block, List.map_append]
      exact List.mem_append_left _ hx
    exact getLast?_of_mem_block hmem
  have hline : Text.IsLine (l.line (.ofDomains domains)) :=
    isLine_line h (Assignment.written_ofDomains domains) (by decide : '\n' ∉ domainKey.toList)
  have hlast : Text.lines (String.join [l.line (.ofDomains domains)]) = [l.line (.ofDomains domains)] :=
    Text.lines_join (Text.areLines_of_isLine (List.forall_mem_singleton.2 hline))
  rw [block, List.map_append, List.map_singleton, String.join_append, Text.lines_append (Text.join_ends hends), hlast]

/-- Two domain lists are the same text exactly if they have the same names, and even lists that spell different
characters by number never agree on different names.  No control character stands in a list, so a migration writes the
list of its domains on one line, which is the last one of the block. -/
theorem domainList_unambiguous :
    (∀ (hidden : Char → Bool) (ns ms : List String), domainListBy hidden ns = domainListBy hidden ms ↔ ns = ms) ∧
    (∀ (hidden hidden' : Char → Bool) (ns ms : List String),
      domainListBy hidden ns = domainListBy hidden' ms → ns = ms) ∧
    (∀ (hidden : Char → Bool) (ns : List String), ∀ c ∈ (domainListBy hidden ns).toList, 0x20 ≤ c.toNat) ∧
    ∀ (m : Marker) (r : Registry) (text : String) (mig : Migration), (migrate m r text).result = .ok mig →
      ∃ l, Layout.ofLines? m (Text.lines text) = some l ∧
        Text.lines mig.text = l.leading ++ (Text.lines (String.join (mig.assignments.map l.line)) ++
          [l.opening ++ " config.AbstractDomain = " ++ domainListBy Text.isUnprintable mig.domains ++
            l.lineEnd.text]) ++ l.trailing := by
  refine ⟨?_, ?_, ?_, ?_⟩
  · intro hidden ns ms
    constructor
    · intro h
      exact domainListBy_inj h
    · rintro rfl
      rfl
  · intro hidden hidden' ns ms h
    exact domainListBy_inj h
  · intro hidden ns c hc
    exact le_toNat_of_mem_domainListBy hc
  · intro m r text mig h
    obtain ⟨l, hl, hwell, -, htext⟩ := migrate_eq_ok h
    refine ⟨l, hl, ?_⟩
    rw [htext, Layout.lines_assemble hwell, Layout.lines_block hwell, Layout.line_ofDomains]

/-- A name that imitates the separator of two names, and one with a line feed. -/
theorem domainList_unambiguous_separator :
    ∃ mig, (migrate {} {} "// CONFIG: \x7bAbstractDomain: [\"a\\\"], domains[\\\"b\", \"c\\nd\"]\x7d\n").result = .ok mig ∧
      Text.lines mig.text =
        ["// CONFIG: config.AbstractDomain = [domains[\"a\\\"], domains[\\\"b\"], domains[\"c\\nd\"]]\n"] ∧
      domainList mig.domains ≠ domainList ["a", "b", "c\nd"] := by
  have hrun : (migrate {} {}
      "// CONFIG: \x7bAbstractDomain: [\"a\\\"], domains[\\\"b\", \"c\\nd\"]\x7d\n").result = .ok {
        text := "// CONFIG: config.AbstractDomain = [domains[\"a\\\"], domains[\\\"b\"], domains[\"c\\nd\"]]\n",
        assignments := [], domains := ["a\"], domains[\"b", "c\nd"], interleaved := false } := by
    decide +kernel
  have hlayout : Layout.ofLines? {}
      (Text.lines "// CONFIG: \x7bAbstractDomain: [\"a\\\"], domains[\\\"b\", \"c\\nd\"]\x7d\n") = some {
        leading := [], opening := "// CONFIG:", lineEnd := .lf, trailing := [], regathered := none,
        payloads := ["\x7bAbstractDomain: [\"a\\\"], domains[\\\"b\", \"c\\nd\"]\x7d"] } := by
    decide +kernel
  obtain ⟨hsame, -, -, hlines⟩ := domainList_unambiguous
  obtain ⟨l, hl, h⟩ := hlines _ _ _ _ hrun
  obtain rfl := Option.some.inj (hlayout.symm.trans hl)
  refine ⟨_, hrun, ?_, ?_⟩
  · exact h.trans (by decide +kernel)
  · intro heq
    have hnames := (hsame Text.isUnprintable _ _).1 heq
    exact absurd hnames (by decide)

end AnalyzerBench.Migration

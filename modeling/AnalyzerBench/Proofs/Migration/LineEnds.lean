import AnalyzerBench.Proofs.Migration.Migrate
import AnalyzerBench.Proofs.Text.LineEnds

/-!
# Line ends of a migrated file

The lines of the block end like that of the first directive, and the keys of the settings stand in them as they are
(`Layout.allCrlf_line`).  So a file with CRLF line ends keeps them exactly if the line of the first directive has its
line end and no line feed stands alone in a key (`migrate_allCrlf_iff`).
-/

namespace AnalyzerBench.Migration

open Text (AllCrlf)

variable {m : Marker} {r : Registry} {l : Layout} {a : Assignment} {text : String} {mig : Migration}

namespace Layout

variable {assignments : List Assignment} {domains : List String}

private theorem allCrlf_lineEnd (e : Text.LineEnd) : AllCrlf e.text ↔ e = .crlf := by
  cases e <;> decide

theorem allCrlf_line (hopening : '\n' ∉ l.opening.toList) (ha : a.Written) :
    AllCrlf (l.line a) ↔ AllCrlf a.key ∧ l.lineEnd = .crlf := by
  have hchars : (l.line a).toList =
      (l.opening.toList ++ " config.".toList) ++ (a.key.toList ++ ((" = ".toList ++ a.value.toList) ++
        l.lineEnd.text.toList)) := by
    simp [line, Assignment.text]
  have hstart : '\n' ∉ l.opening.toList ++ " config.".toList := by simp [hopening]
  have hvalue : '\n' ∉ " = ".toList ++ a.value.toList := by simp [ha.closed.not_mem]
  have hlast : (" = ".toList ++ a.value.toList).getLast? ≠ some '\r' := by
    obtain ⟨c, hc, hblank⟩ := ha.last
    rw [List.getLast?_append, hc]
    intro hr
    obtain rfl : c = '\r' := Option.some.inj hr
    exact absurd hblank (by decide)
  have hend : Text.Chars.AllCrlf (" = ".toList ++ a.value.toList ++ l.lineEnd.text.toList) ↔ l.lineEnd = .crlf := by
    rw [Text.Chars.allCrlf_append (.inl hlast), and_iff_right (Text.Chars.allCrlf_of_not_mem hvalue)]
    exact allCrlf_lineEnd l.lineEnd
  unfold AllCrlf
  rw [hchars, Text.Chars.allCrlf_append (.inl (by simp)), and_iff_right (Text.Chars.allCrlf_of_not_mem hstart),
    Text.Chars.allCrlf_append (.inr (by simp)), hend]

theorem allCrlf_block (hopening : '\n' ∉ l.opening.toList)
    (hwritten : ∀ a ∈ assignments ++ [Assignment.ofDomains domains], a.Written) :
    AllCrlf (String.join (l.block assignments domains)) ↔
      l.lineEnd = .crlf ∧ ∀ a ∈ assignments, AllCrlf a.key := by
  have hline : ∀ a ∈ assignments ++ [Assignment.ofDomains domains],
      (AllCrlf (l.line a) ↔ AllCrlf a.key ∧ l.lineEnd = .crlf) := fun a ha => allCrlf_line hopening (hwritten a ha)
  have hdomain : AllCrlf domainKey := by decide
  rw [Text.allCrlf_join fun _ => getLast?_of_mem_block, block, List.forall_mem_map]
  constructor
  · intro h
    refine ⟨((hline _ (by simp)).1 (h (Assignment.ofDomains domains) (by simp))).2, ?_⟩
    intro a ha
    exact ((hline a (by simp [ha])).1 (h a (by simp [ha]))).1
  · rintro ⟨hend, hkeys⟩ a ha
    rw [hline a ha]
    rcases List.mem_append.1 ha with hmem | hmem
    · exact ⟨hkeys a hmem, hend⟩
    · obtain rfl := List.mem_singleton.1 hmem
      exact ⟨hdomain, hend⟩

theorem allCrlf_assemble (h : l.WellFormed m)
    (hwritten : ∀ a ∈ assignments ++ [Assignment.ofDomains domains], a.Written) :
    AllCrlf (l.assemble assignments domains) ↔
      (∀ x ∈ l.leading, AllCrlf x) ∧ (l.lineEnd = .crlf ∧ ∀ a ∈ assignments, AllCrlf a.key) ∧
        ∀ x ∈ l.trailing, AllCrlf x := by
  have hleading : ∀ x ∈ l.leading, x.toList.getLast? = some '\n' := fun x hx => (h.leading x hx).getLast?
  have hblock : ∀ x ∈ l.block assignments domains, x.toList.getLast? = some '\n' := fun _ => getLast?_of_mem_block
  rw [assemble, String.append_assoc, Text.allCrlf_append (Text.join_ends hleading),
    Text.allCrlf_append (Text.join_ends hblock), Text.allCrlf_join hleading, allCrlf_block h.opening hwritten,
    h.trailing.allCrlf_join]

end Layout

/-- A file with CRLF line ends still has no others after a migration, exactly if its first directive does not stand on
a last line without a line end and no key brings a line feed of another kind with it. -/
theorem migrate_allCrlf_iff (h : (migrate m r text).result = .ok mig) (htext : AllCrlf text) :
    AllCrlf mig.text ↔
      (∃ line, (Text.lines text).find? (fun x => (m.find? x).isSome) = some line ∧ Text.isTerminated line = true) ∧
        ∀ k ∈ mig.keys, AllCrlf k := by
  obtain ⟨l, hl, hwell, hconfigures, hmigrated⟩ := migrate_eq_ok h
  obtain ⟨line, after, d, hlines, hleading, hd, -, hend, -, htrailing⟩ := Layout.ofLines?_eq_some hl
  have hall : ∀ x ∈ Text.lines text, AllCrlf x := (Text.allCrlf_iff_forall_lines text).1 htext
  have hbefore : ∀ x ∈ l.leading, AllCrlf x := fun x hx => hall x (by simp [hlines, hx])
  have hafter : ∀ x ∈ l.trailing, AllCrlf x := by
    intro x hx
    rw [htrailing] at hx
    have hmem : x ∈ after := List.mem_of_mem_filter hx
    exact hall x (by simp [hlines, hmem])
  have hfirst : (Text.lines text).find? (fun x => (m.find? x).isSome) = some line := by
    rw [List.find?_eq_some_iff_append]
    exact ⟨by simp [hd], l.leading, after, hlines, fun x hx => by simp [hleading x hx]⟩
  have hcrlf : l.lineEnd = .crlf ↔ Text.isTerminated line = true := by
    rw [hend]
    exact (hall line (by simp [hlines])).ofLine_eq_crlf_iff
  rw [hmigrated, Layout.allCrlf_assemble hwell fun a => hconfigures.written, and_iff_right hbefore,
    and_iff_left hafter, hcrlf, hfirst, Migration.keys]
  simp

theorem migrate_allCrlf_iff_broken_key :
    ∃ mig,
      (migrate {} {} "a\r\n// CONFIG: \x7b\"b\\r\\nc\": 1, AbstractDomain: []\x7d\r\nd\r").result = .ok mig ∧
      AllCrlf "a\r\n// CONFIG: \x7b\"b\\r\\nc\": 1, AbstractDomain: []\x7d\r\nd\r" ∧ AllCrlf mig.text := by
  have hrun : (migrate {} {} "a\r\n// CONFIG: \x7b\"b\\r\\nc\": 1, AbstractDomain: []\x7d\r\nd\r").result = .ok {
      text := "a\r\n// CONFIG: config.b\r\nc = 1\r\n// CONFIG: config.AbstractDomain = []\r\nd\r",
      assignments := [⟨"b\r\nc", "1"⟩], domains := [], interleaved := false } := by
    decide +kernel
  have htext : AllCrlf "a\r\n// CONFIG: \x7b\"b\\r\\nc\": 1, AbstractDomain: []\x7d\r\nd\r" := by decide +kernel
  have hline : (Text.lines "a\r\n// CONFIG: \x7b\"b\\r\\nc\": 1, AbstractDomain: []\x7d\r\nd\r").find?
      (fun x => (Marker.find? {} x).isSome) =
        some "// CONFIG: \x7b\"b\\r\\nc\": 1, AbstractDomain: []\x7d\r\n" := by
    decide +kernel
  have hkeys : ∀ k ∈ ["b\r\nc"], AllCrlf k := by decide +kernel
  exact ⟨_, hrun, htext, (migrate_allCrlf_iff hrun htext).2 ⟨⟨_, hline, by decide +kernel⟩, hkeys⟩⟩

/-- The only directive stands on the last line, which lacks its line end; the block then ends in a line feed alone. -/
theorem migrate_breaks_crlf :
    ¬ ∀ (m : Marker) (r : Registry) (text : String) (mig : Migration),
      '\n' ∈ text.toList → AllCrlf text → (migrate m r text).result = .ok mig → AllCrlf mig.text := by
  have hrun : (migrate {} {} "head\r\n// CONFIG: \x7bAbstractDomain: []\x7d").result = .ok {
      text := "head\r\n// CONFIG: config.AbstractDomain = []\n",
      assignments := [], domains := [], interleaved := false } := by
    decide +kernel
  intro h
  have hcrlf := h {} {} _ _ (by decide) (by decide +kernel) hrun
  exact absurd hcrlf (by decide +kernel)

end AnalyzerBench.Migration

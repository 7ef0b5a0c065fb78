import AnalyzerBench.Domain
import AnalyzerBench.Proofs.Text.Quoted

/-!
# Domain lists are unambiguous

The list of the expressions that look domains up is a closed text (`closed_domainListBy`) without control characters
(`le_toNat_of_mem_domainListBy`).  It determines the names in it, whichever characters are spelled by number
(`domainListBy_inj`).
-/

namespace AnalyzerBench

open Text.Chars

variable {hidden hidden' : Char → Bool}

theorem toList_lookupExpressionBy (hidden : Char → Bool) (name : String) :
    (lookupExpressionBy hidden name).toList = "domains[".toList ++ (quote hidden name.toList ++ [']']) := by
  simp [lookupExpressionBy, Text.quotedBy]

theorem toList_domainListBy (hidden : Char → Bool) (names : List String) :
    (domainListBy hidden names).toList =
      '[' :: ([',', ' '].intercalate (names.map fun n => (lookupExpressionBy hidden n).toList) ++ [']']) := by
  simp [domainListBy, String.toList_intercalate, Function.comp_def]

/-! ### Closedness -/

theorem closed_lookupExpressionBy (hidden : Char → Bool) (name : String) :
    Closed (lookupExpressionBy hidden name).toList := by
  rw [toList_lookupExpressionBy]
  exact (Closed.literal (by decide)).append ((closed_quote hidden _).append (.literal (by decide)))

theorem closed_domainListBy (hidden : Char → Bool) (names : List String) :
    Closed (domainListBy hidden names).toList := by
  have hitems : Closed ([',', ' '].intercalate (names.map fun n => (lookupExpressionBy hidden n).toList)) := by
    induction names with
    | nil => exact .of_inert (by simp)
    | cons n ns ih =>
      cases ns with
      | nil => simpa using closed_lookupExpressionBy hidden n
      | cons m ns =>
        rw [List.map_cons, List.map_cons, List.intercalate_cons_cons]
        exact ((closed_lookupExpressionBy hidden n).append (.literal (by decide))).append ih
  have hbracket : Closed ['['] := .literal (by decide)
  rw [toList_domainListBy]
  exact hbracket.append (hitems.append (.literal (by decide)))

/-- The last character of a domain list is its bracket. -/
theorem getLast?_domainListBy (hidden : Char → Bool) (names : List String) :
    (domainListBy hidden names).toList.getLast? = some ']' := by
  rw [toList_domainListBy, ← List.cons_append, List.getLast?_concat]

/-! ### Injectivity -/

/-- The items of a domain list and the bracket after them. -/
private def listEnd (hidden : Char → Bool) (names : List String) : List Char :=
  [',', ' '].intercalate (names.map fun n => (lookupExpressionBy hidden n).toList) ++ [']']

private theorem listEnd_cons (n : String) (ns : List String) :
    listEnd hidden (n :: ns) =
      "domains[".toList ++ (quote hidden n.toList ++
        (']' :: if ns.isEmpty then [']'] else ',' :: ' ' :: listEnd hidden ns)) := by
  cases ns with
  | nil => simp [listEnd, toList_lookupExpressionBy]
  | cons m ns => simp [listEnd, toList_lookupExpressionBy]

private theorem listEnd_inj {ns ms : List String} (h : listEnd hidden ns = listEnd hidden' ms) : ns = ms := by
  induction ns generalizing ms with
  | nil =>
    cases ms with
    | nil => rfl
    | cons m ms =>
      rw [listEnd_cons] at h
      simp [listEnd] at h
  | cons n ns ih =>
    cases ms with
    | nil =>
      rw [listEnd_cons] at h
      simp [listEnd] at h
    | cons m ms =>
      rw [listEnd_cons, listEnd_cons] at h
      obtain ⟨hname, hrest⟩ := quote_append_inj (List.append_cancel_left h)
      have hnm : n = m := String.toList_inj.1 hname
      have hns : ns = ms := by
        cases ns with
        | nil =>
          cases ms with
          | nil => rfl
          | cons _ _ => simp at hrest
        | cons _ _ =>
          cases ms with
          | nil => simp at hrest
          | cons _ _ => exact ih (by simpa using hrest)
      rw [hnm, hns]

/-- Domain lists are told apart by their names alone, even if they spell different characters by number. -/
theorem domainListBy_inj {ns ms : List String} (h : domainListBy hidden ns = domainListBy hidden' ms) : ns = ms := by
  have e := congrArg String.toList h
  rw [toList_domainListBy, toList_domainListBy] at e
  exact listEnd_inj (List.cons.inj e).2

/-! ### Control characters -/

private theorem le_toNat_of_mem_lookupExpressionBy {name : String} {c : Char}
    (h : c ∈ (lookupExpressionBy hidden name).toList) : 0x20 ≤ c.toNat := by
  have hopening : ("domains[".toList.all fun x => 0x20 ≤ x.toNat) = true := by decide
  rw [toList_lookupExpressionBy] at h
  rcases List.mem_append.1 h with h | h
  · simpa using List.all_eq_true.1 hopening c h
  · rcases List.mem_append.1 h with h | h
    · exact le_toNat_of_mem_quote h
    · obtain rfl := List.mem_singleton.1 h
      decide

private theorem le_toNat_of_mem_items {names : List String} {c : Char}
    (h : c ∈ [',', ' '].intercalate (names.map fun n => (lookupExpressionBy hidden n).toList)) : 0x20 ≤ c.toNat := by
  have hcomma : ([',', ' '].all fun x => 0x20 ≤ x.toNat) = true := by decide
  induction names with
  | nil => simp at h
  | cons n ns ih =>
    cases ns with
    | nil => exact le_toNat_of_mem_lookupExpressionBy (by simpa using h)
    | cons m ns =>
      rw [List.map_cons, List.map_cons, List.intercalate_cons_cons] at h
      rcases List.mem_append.1 h with h | h
      · rcases List.mem_append.1 h with h | h
        · exact le_toNat_of_mem_lookupExpressionBy h
        · simpa using List.all_eq_true.1 hcomma c h
      · exact ih h

/-- A domain list stays on one line, whatever the names are. -/
theorem le_toNat_of_mem_domainListBy {names : List String} {c : Char}
    (h : c ∈ (domainListBy hidden names).toList) : 0x20 ≤ c.toNat := by
  rw [toList_domainListBy] at h
  rcases List.mem_cons.1 h with rfl | h
  · decide
  · rcases List.mem_append.1 h with h | h
    · exact le_toNat_of_mem_items h
    · obtain rfl := List.mem_singleton.1 h
      decide

end AnalyzerBench

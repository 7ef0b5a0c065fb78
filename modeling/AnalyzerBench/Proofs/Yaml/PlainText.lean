import AnalyzerBench.Proofs.Yaml.Plain

/-!
# Plain values are told apart by their texts

The text of a plain value can be told from what follows it, if that does not continue a numeral
(`Plain.text_append_inj`): the first character tells the kind of the value, strings end at their quote, and lists end at
their bracket.  So values are written alike exactly if JSON keeps the same of them (`Value.json_eq_json_iff`).
-/

namespace AnalyzerBench.Yaml

namespace Plain

variable {as bs xs ys : List Char}

/-- Whether a numeral ends where the text starts. -/
def EndsNumeral (cs : List Char) : Prop := ∀ c ∈ cs.head?, isNumeral c = false

private theorem endsNumeral_cons {c : Char} (h : isNumeral c = false) (cs : List Char) : EndsNumeral (c :: cs) := by
  intro d hd
  obtain rfl : c = d := Option.some.inj hd
  exact h

private theorem numeral_append_inj (has : ∀ c ∈ as, isNumeral c = true) (hbs : ∀ c ∈ bs, isNumeral c = true)
    (hxs : EndsNumeral xs) (hys : EndsNumeral ys) (h : as ++ xs = bs ++ ys) : as = bs ∧ xs = ys := by
  have hsame : as = bs := by
    rw [← (Text.takeWhile_append_of_head has hxs).1, h, (Text.takeWhile_append_of_head hbs hys).1]
  subst hsame
  exact ⟨rfl, List.append_cancel_left h⟩

/-- A character for the kind of a plain value. -/
def kind : Plain → Char
  | .null => 'n'
  | .bool _ => 't'
  | .integer _ => '0'
  | .real _ _ => '0'
  | .string _ => '"'
  | .array _ => '['
  | .object _ => '\x7b'

/-- The kind of the plain value whose text comes first. -/
def kind? (cs : List Char) : Option Char :=
  cs.head?.map fun c => if isNumeral c then '0' else if c = 'f' then 't' else c

private theorem kind?_numeral (hne : as ≠ []) (has : ∀ c ∈ as, isNumeral c = true) (xs : List Char) :
    kind? (as ++ xs) = some '0' := by
  cases as with
  | nil => exact absurd rfl hne
  | cons c cs => simp [kind?, has c]

theorem kind?_text (p : Plain) (xs : List Char) : kind? (p.text ++ xs) = some p.kind := by
  cases p with
  | null => rfl
  | bool b => cases b <;> rfl
  | integer i => exact kind?_numeral (Decimal.integerText_ne_nil i) (Decimal.isNumeral_integerText i) xs
  | real x _ => exact kind?_numeral (Decimal.write_ne_nil _ x) (Decimal.isNumeral_write _ x) xs
  | string s =>
    rw [text, Json.toList_string]
    rfl
  | array items => rfl
  | object members => rfl

private theorem kind_eq {p q : Plain} (h : p.text ++ xs = q.text ++ ys) : p.kind = q.kind := by
  have hkind := kind?_text p xs
  rw [h, kind?_text q ys] at hkind
  exact (Option.some.inj hkind).symm

/-- A list that ends is told from one that goes on. -/
private theorem bracket_ne_itemsText {separator : List Char} (hsep : separator = [] ∨ separator = [',']) (p : Plain)
    (ps : List Plain) : ']' :: xs ≠ itemsText separator (p :: ps) ++ ys := by
  intro h
  rcases hsep with rfl | rfl
  · have hkind := congrArg kind? h
    rw [itemsText, List.nil_append, List.append_assoc, kind?_text] at hkind
    have hne : p.kind ≠ ']' := by
      cases p <;> simp [kind]
    exact hne (Option.some.inj hkind).symm
  · simp [itemsText] at h

private theorem brace_ne_membersText {separator : List Char} (hsep : separator = [] ∨ separator = [','])
    (m : String × Plain) (ms : List (String × Plain)) : '\x7d' :: xs ≠ membersText separator (m :: ms) ++ ys := by
  intro h
  rcases hsep with rfl | rfl
  · simp [membersText, Json.toList_string] at h
  · simp [membersText] at h

private theorem endsNumeral_itemsText (ps : List Plain) (xs : List Char) :
    EndsNumeral (itemsText [','] ps ++ ']' :: xs) := by
  cases ps with
  | nil => exact endsNumeral_cons (by decide) _
  | cons p ps => exact endsNumeral_cons (by decide) _

private theorem endsNumeral_membersText (ms : List (String × Plain)) (xs : List Char) :
    EndsNumeral (membersText [','] ms ++ '\x7d' :: xs) := by
  cases ms with
  | nil => exact endsNumeral_cons (by decide) _
  | cons m ms => exact endsNumeral_cons (by decide) _

mutual

/-- A plain value can be told from what follows its text. -/
theorem text_append_inj : ∀ {p q : Plain} {xs ys : List Char}, EndsNumeral xs → EndsNumeral ys →
    p.text ++ xs = q.text ++ ys → p = q ∧ xs = ys
  | .null, q, xs, ys, _, _, h => by
    have hkind := kind_eq h
    cases q with
    | null => exact ⟨rfl, List.append_cancel_left h⟩
    | _ => simp [kind] at hkind
  | .bool b, q, xs, ys, _, _, h => by
    have hkind := kind_eq h
    cases q with
    | bool b' =>
      have hb : b = b' := by
        cases b <;> cases b' <;> simp [text, Json.bool] at h ⊢
      subst hb
      exact ⟨rfl, List.append_cancel_left h⟩
    | _ => simp [kind] at hkind
  | .integer i, q, xs, ys, hxs, hys, h => by
    have hkind := kind_eq h
    have hi := Decimal.isNumeral_integerText i
    cases q with
    | integer j =>
      obtain ⟨htext, hrest⟩ := numeral_append_inj hi (Decimal.isNumeral_integerText j) hxs hys h
      rw [Decimal.integerText_inj (String.toList_inj.1 htext)]
      exact ⟨rfl, hrest⟩
    | real y _ =>
      -- Both kinds are numerals, but only a real number has a point or an exponent.
      obtain ⟨htext, -⟩ := numeral_append_inj hi (Decimal.isNumeral_write _ y) hxs hys h
      exact absurd (String.toList_inj.1 htext) (Decimal.integerText_ne_write _ i y)
    | _ => simp [kind] at hkind
  | .real x hx, q, xs, ys, hxs, hys, h => by
    have hkind := kind_eq h
    have hreal := Decimal.isNumeral_write Json.reals x
    cases q with
    | integer j =>
      obtain ⟨htext, -⟩ := numeral_append_inj hreal (Decimal.isNumeral_integerText j) hxs hys h
      exact absurd (String.toList_inj.1 htext).symm (Decimal.integerText_ne_write _ j x)
    | real y hy =>
      obtain ⟨htext, hrest⟩ := numeral_append_inj hreal (Decimal.isNumeral_write _ y) hxs hys h
      obtain rfl := Decimal.write_inj _ hx hy (String.toList_inj.1 htext)
      exact ⟨rfl, hrest⟩
    | _ => simp [kind] at hkind
  | .string s, q, xs, ys, _, _, h => by
    have hkind := kind_eq h
    cases q with
    | string t =>
      obtain ⟨rfl, hrest⟩ := Json.string_append_inj h
      exact ⟨rfl, hrest⟩
    | _ => simp [kind] at hkind
  | .array items, q, xs, ys, _, _, h => by
    have hkind := kind_eq h
    cases q with
    | array items' =>
      have hbody : itemsText [] items ++ ']' :: xs = itemsText [] items' ++ ']' :: ys := by
        simpa [text] using h
      obtain ⟨rfl, hrest⟩ := itemsText_append_inj (.inl rfl) hbody
      exact ⟨rfl, hrest⟩
    | _ => simp [kind] at hkind
  | .object members, q, xs, ys, _, _, h => by
    have hkind := kind_eq h
    cases q with
    | object members' =>
      have hbody : membersText [] members ++ '\x7d' :: xs = membersText [] members' ++ '\x7d' :: ys := by
        simpa [text] using h
      obtain ⟨rfl, hrest⟩ := membersText_append_inj (.inl rfl) hbody
      exact ⟨rfl, hrest⟩
    | _ => simp [kind] at hkind

theorem itemsText_append_inj : ∀ {ps qs : List Plain} {separator xs ys : List Char},
    separator = [] ∨ separator = [','] → itemsText separator ps ++ ']' :: xs = itemsText separator qs ++ ']' :: ys →
    ps = qs ∧ xs = ys
  | [], [], _, xs, ys, _, h => ⟨rfl, (List.cons.inj h).2⟩
  | [], q :: qs, _, _, _, hsep, h => absurd h (bracket_ne_itemsText hsep q qs)
  | p :: ps, [], _, _, _, hsep, h => absurd h.symm (bracket_ne_itemsText hsep p ps)
  | p :: ps, q :: qs, separator, xs, ys, _, h => by
    have hbody : p.text ++ (itemsText [','] ps ++ ']' :: xs) = q.text ++ (itemsText [','] qs ++ ']' :: ys) := by
      simpa [itemsText] using h
    obtain ⟨rfl, hitems⟩ := text_append_inj (endsNumeral_itemsText ps xs) (endsNumeral_itemsText qs ys) hbody
    obtain ⟨rfl, hrest⟩ := itemsText_append_inj (.inr rfl) hitems
    exact ⟨rfl, hrest⟩

theorem membersText_append_inj : ∀ {ms ns : List (String × Plain)} {separator xs ys : List Char},
    separator = [] ∨ separator = [','] →
    membersText separator ms ++ '\x7d' :: xs = membersText separator ns ++ '\x7d' :: ys → ms = ns ∧ xs = ys
  | [], [], _, xs, ys, _, h => ⟨rfl, (List.cons.inj h).2⟩
  | [], n :: ns, _, _, _, hsep, h => absurd h (brace_ne_membersText hsep n ns)
  | m :: ms, [], _, _, _, hsep, h => absurd h.symm (brace_ne_membersText hsep m ms)
  | (name, p) :: ms, (name', q) :: ns, separator, xs, ys, _, h => by
    have hbody : (Json.string name).toList ++ ':' :: (p.text ++ (membersText [','] ms ++ '\x7d' :: xs)) =
        (Json.string name').toList ++ ':' :: (q.text ++ (membersText [','] ns ++ '\x7d' :: ys)) := by
      simpa [membersText] using h
    obtain ⟨rfl, hvalue⟩ := Json.string_append_inj hbody
    obtain ⟨rfl, hmembers⟩ :=
      text_append_inj (endsNumeral_membersText ms xs) (endsNumeral_membersText ns ys) (List.cons.inj hvalue).2
    obtain ⟨rfl, hrest⟩ := membersText_append_inj (.inr rfl) hmembers
    exact ⟨rfl, hrest⟩

end

theorem text_inj {p q : Plain} (h : p.text = q.text) : p = q := by
  have hnil : EndsNumeral [] := by simp [EndsNumeral]
  have hempty : p.text ++ [] = q.text ++ [] := by rw [h]
  exact (text_append_inj hnil hnil hempty).1

end Plain

/-- Values are written alike, or refused alike, exactly if JSON keeps the same of them. -/
theorem Value.json_eq_json_iff (v w : Value) : v.json = w.json ↔ v.plain = w.plain := by
  have htext : Function.Injective fun p : Plain => String.ofList p.text :=
    fun p q h => Plain.text_inj (String.ofList_injective h)
  rw [json_eq, json_eq, map_eq_map_iff htext]

end AnalyzerBench.Yaml

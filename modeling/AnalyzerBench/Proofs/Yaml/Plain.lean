import AnalyzerBench.Proofs.Decimal.Layout
import AnalyzerBench.Proofs.Yaml.Json

/-!
# What JSON keeps of a value

JSON has no tags, no real numbers that are not finite and no names of members but strings.  `Value.plain` is what is
left of a value without them: null for a number that is not finite, an object with one member for a tagged value, the
text of a boolean or of a number for a key.  A value is written as the text of its plain value (`Value.json_eq`).
Nothing is lost of a value that has none of them (`Value.eq_of_plain_eq`).
-/

namespace AnalyzerBench.Yaml

/-- A value that JSON can express. -/
inductive Plain where
  | null
  | bool (b : Bool)
  | integer (i : Int)
  | real (x : Binary64) (finite : x.isFinite = true)
  | string (s : String)
  | array (items : List Plain)
  | object (members : List (String × Plain))

/-! ### Texts -/

namespace Plain

mutual

/-- The text of a plain value. -/
def text : Plain → List Char
  | .null => ['n', 'u', 'l', 'l']
  | .bool b => (Json.bool b).toList
  | .integer i => (Decimal.integerText i).toList
  | .real x _ => (Json.reals.write x).toList
  | .string s => (Json.string s).toList
  | .array items => '[' :: (itemsText [] items ++ [']'])
  | .object members => '\x7b' :: (membersText [] members ++ ['\x7d'])

def itemsText (separator : List Char) : List Plain → List Char
  | [] => []
  | p :: ps => separator ++ p.text ++ itemsText [','] ps

def membersText (separator : List Char) : List (String × Plain) → List Char
  | [] => []
  | (name, p) :: ms => separator ++ (Json.string name).toList ++ ':' :: (p.text ++ membersText [','] ms)

end

end Plain

/-- The name that a key gives to a member. -/
def Json.name : Value → Except JsonFault String
  | .string s => .ok s
  | .bool b => .ok (Json.bool b)
  | .number (.integer i) => .ok (Decimal.integerText i)
  | .number (.real x) => if x.isFinite then .ok (reals.write x) else .error .keyNotFinite
  | _ => .error .keyNotString

namespace Value

mutual

/-- What is left of a value when it is written as JSON. -/
def plain : Value → Except JsonFault Plain
  | .null => .ok .null
  | .bool b => .ok (.bool b)
  | .number (.integer i) => .ok (.integer i)
  | .number (.real x) => .ok (if h : x.isFinite = true then .real x h else .null)
  | .string s => .ok (.string s)
  | .sequence items => do return .array (← plainItems items)
  | .mapping entries => do return .object (← plainMembers entries)
  | .tagged tag value => do return .object [(tag, ← value.plain)]

def plainItems : List Value → Except JsonFault (List Plain)
  | [] => .ok []
  | v :: vs => do
    let p ← v.plain
    let ps ← plainItems vs
    return p :: ps

def plainMembers : List (Value × Value) → Except JsonFault (List (String × Plain))
  | [] => .ok []
  | (k, v) :: es => do
    let name ← Json.name k
    let p ← v.plain
    let ms ← plainMembers es
    return (name, p) :: ms

end

/-! ### A value is written as its plain value -/

private theorem escape_of_isNumeral {c : Char} (h : isNumeral c = true) : Json.escape c = [c] := by
  rcases isNumeral_iff.1 h with h | rfl | rfl | rfl | rfl
  · have hne : ∀ d : Char, d.isDigit = false → c ≠ d := fun d => Text.ne_of_isDigit h
    have hcontrol : ¬ c.toNat < 0x20 := by
      have := (Text.toNat_of_isDigit h).1
      omega
    unfold Json.escape
    rw [if_neg (hne _ (by decide)), if_neg (hne _ (by decide)), if_neg (hne _ (by decide)), if_neg (hne _ (by decide)),
      if_neg (hne _ (by decide)), if_neg (hne _ (by decide)), if_neg (hne _ (by decide)), if_neg hcontrol]
  · decide
  · decide
  · decide
  · decide

private theorem flatMap_escape {cs : List Char} (h : ∀ c ∈ cs, isNumeral c = true) : cs.flatMap Json.escape = cs := by
  rw [List.flatMap_congr fun c hc => escape_of_isNumeral (h c hc), List.flatMap_singleton']

/-- Text between quotes that needs no escapes is a JSON string. -/
private theorem quoted_eq {s : String} (h : s.toList.flatMap Json.escape = s.toList) :
    "\"" ++ s ++ "\"" = Json.string s := by
  rw [← String.toList_inj, Json.toList_string, h]
  simp

/-- A member is named by a JSON string. -/
private theorem key_eq (k : Value) : Json.key k = (Json.name k).map Json.string := by
  cases k with
  | bool b =>
    have hescape : (Json.bool b).toList.flatMap Json.escape = (Json.bool b).toList := by
      cases b <;> decide
    rw [Json.key, Json.name, quoted_eq hescape]
    rfl
  | number n =>
    cases n with
    | integer i =>
      rw [Json.key, Json.name, quoted_eq (flatMap_escape (Decimal.isNumeral_integerText i))]
      rfl
    | real x =>
      rw [Json.key, Json.name, quoted_eq (flatMap_escape (Decimal.isNumeral_write Json.reals x))]
      split <;> rfl
  | string s => rfl
  | null => rfl
  | sequence items => rfl
  | mapping entries => rfl
  | tagged tag value => rfl

mutual

theorem json_eq : ∀ v : Value, v.json = v.plain.map fun p => String.ofList p.text
  | .null => rfl
  | .bool b => by simp [json, plain, Plain.text, Except.map]
  | .number (.integer i) => by simp [json, plain, Plain.text, Except.map, Json.number]
  | .number (.real x) => by
    by_cases h : x.isFinite = true
    · simp [json, plain, Plain.text, Except.map, Json.number, h]
    · simp [json, plain, Plain.text, Except.map, Json.number, h]
  | .string s => by simp [json, plain, Plain.text, Except.map]
  | .sequence items => by
    rw [json, plain, jsonItems_eq]
    cases plainItems items with
    | error e => rfl
    | ok ps => simp [Except.map, Plain.text, String.append_assoc]
  | .mapping entries => by
    rw [json, plain, jsonEntries_eq]
    cases plainMembers entries with
    | error e => rfl
    | ok ms => simp [Except.map, Plain.text, String.append_assoc]
  | .tagged tag value => by
    rw [json, plain, json_eq value]
    cases value.plain with
    | error e => rfl
    | ok p => simp [Except.map, Plain.text, Plain.membersText, String.append_assoc]

theorem jsonItems_eq (separator : String) : ∀ vs : List Value,
    jsonItems separator vs = (plainItems vs).map fun ps => String.ofList (Plain.itemsText separator.toList ps)
  | [] => rfl
  | v :: vs => by
    rw [jsonItems, plainItems, json_eq v, jsonItems_eq "," vs]
    cases v.plain with
    | error e => rfl
    | ok p =>
      cases plainItems vs with
      | error e => rfl
      | ok ps => simp [Except.map, Plain.itemsText, String.append_assoc]

theorem jsonEntries_eq (separator : String) : ∀ es : List (Value × Value),
    jsonEntries separator es = (plainMembers es).map fun ms => String.ofList (Plain.membersText separator.toList ms)
  | [] => rfl
  | (k, v) :: es => by
    rw [jsonEntries, plainMembers, key_eq, json_eq v, jsonEntries_eq "," es]
    cases Json.name k with
    | error e => rfl
    | ok name =>
      cases v.plain with
      | error e => rfl
      | ok p =>
        cases plainMembers es with
        | error e => rfl
        | ok ms => simp [Except.map, Plain.membersText, String.append_assoc]

end

/-! ### Values that JSON can express -/

mutual

/-- Whether a value has no tags, no numbers that are not finite and no keys but strings. -/
def isPlain : Value → Bool
  | .null | .bool _ | .string _ | .number (.integer _) => true
  | .number (.real x) => x.isFinite
  | .sequence items => arePlain items
  | .mapping entries => haveNames entries
  | .tagged _ _ => false

def arePlain : List Value → Bool
  | [] => true
  | v :: vs => v.isPlain && arePlain vs

def haveNames : List (Value × Value) → Bool
  | [] => true
  | (.string _, v) :: es => v.isPlain && haveNames es
  | _ :: _ => false

end

end Value

namespace Plain

mutual

/-- The value that a plain value is left of, if nothing was lost. -/
def value : Plain → Value
  | .null => .null
  | .bool b => .bool b
  | .integer i => .number (.integer i)
  | .real x _ => .number (.real x)
  | .string s => .string s
  | .array items => .sequence (values items)
  | .object members => .mapping (entries members)

def values : List Plain → List Value
  | [] => []
  | p :: ps => p.value :: values ps

def entries : List (String × Plain) → List (Value × Value)
  | [] => []
  | (name, p) :: ms => (.string name, p.value) :: entries ms

end

end Plain

namespace Value

mutual

/-- Nothing is lost of a value that JSON can express. -/
theorem plain_of_isPlain : ∀ {v : Value}, v.isPlain = true → ∃ p, v.plain = .ok p ∧ p.value = v
  | .null, _ => ⟨.null, rfl, rfl⟩
  | .bool b, _ => ⟨.bool b, rfl, rfl⟩
  | .string s, _ => ⟨.string s, rfl, rfl⟩
  | .number (.integer i), _ => ⟨.integer i, rfl, rfl⟩
  | .number (.real x), h => by
    have hfinite : x.isFinite = true := by rwa [isPlain] at h
    exact ⟨.real x hfinite, by rw [plain, dif_pos hfinite], rfl⟩
  | .sequence items, h => by
    obtain ⟨ps, hps, rfl⟩ := plainItems_of_arePlain h
    exact ⟨.array ps, by rw [plain, hps]; rfl, rfl⟩
  | .mapping entries, h => by
    obtain ⟨ms, hms, rfl⟩ := plainMembers_of_haveNames h
    exact ⟨.object ms, by rw [plain, hms]; rfl, rfl⟩
  | .tagged tag value, h => by cases h

theorem plainItems_of_arePlain : ∀ {vs : List Value}, arePlain vs = true →
    ∃ ps, plainItems vs = .ok ps ∧ Plain.values ps = vs
  | [], _ => ⟨[], rfl, rfl⟩
  | v :: vs, h => by
    rw [arePlain, Bool.and_eq_true] at h
    obtain ⟨p, hp, rfl⟩ := plain_of_isPlain h.1
    obtain ⟨ps, hps, rfl⟩ := plainItems_of_arePlain h.2
    exact ⟨p :: ps, by rw [plainItems, hp, hps]; rfl, rfl⟩

theorem plainMembers_of_haveNames : ∀ {es : List (Value × Value)}, haveNames es = true →
    ∃ ms, plainMembers es = .ok ms ∧ Plain.entries ms = es
  | [], _ => ⟨[], rfl, rfl⟩
  | (.string name, v) :: es, h => by
    rw [haveNames, Bool.and_eq_true] at h
    obtain ⟨p, hp, rfl⟩ := plain_of_isPlain h.1
    obtain ⟨ms, hms, rfl⟩ := plainMembers_of_haveNames h.2
    exact ⟨(name, p) :: ms, by rw [plainMembers, Json.name, hp, hms]; rfl, rfl⟩
  | (.null, _) :: _, h | (.bool _, _) :: _, h | (.number _, _) :: _, h | (.sequence _, _) :: _, h
  | (.mapping _, _) :: _, h | (.tagged _ _, _) :: _, h => by simp [haveNames] at h

end

theorem eq_of_plain_eq {v w : Value} (hv : v.isPlain = true) (hw : w.isPlain = true) (h : v.plain = w.plain) :
    v = w := by
  obtain ⟨p, hp, rfl⟩ := plain_of_isPlain hv
  obtain ⟨q, hq, rfl⟩ := plain_of_isPlain hw
  rw [hp, hq] at h
  rw [Except.ok.inj h]

end Value

end AnalyzerBench.Yaml

import AnalyzerBench.Yaml.Value

/-!
# Equality of values is decidable

Equality as values is finer than equality as keys (`Value.same`): it tells the two zeros apart, and a NaN from another.
-/

namespace AnalyzerBench.Yaml.Value

mutual

/-- Whether two values are equal. -/
def equal : Value → Value → Bool
  | .null, .null => true
  | .bool a, .bool b => a == b
  | .number a, .number b => a == b
  | .string a, .string b => a == b
  | .sequence as, .sequence bs => equalItems as bs
  | .mapping as, .mapping bs => equalEntries as bs
  | .tagged t a, .tagged u b => t == u && equal a b
  | _, _ => false

def equalItems : List Value → List Value → Bool
  | [], [] => true
  | a :: as, b :: bs => equal a b && equalItems as bs
  | _, _ => false

def equalEntries : List (Value × Value) → List (Value × Value) → Bool
  | [], [] => true
  | (k, v) :: es, (k', v') :: es' => equal k k' && equal v v' && equalEntries es es'
  | _, _ => false

end

mutual

theorem equal_iff : ∀ {v w : Value}, equal v w = true ↔ v = w
  | .null, w => by cases w <;> simp [equal]
  | .bool _, w => by cases w <;> simp [equal]
  | .number _, w => by cases w <;> simp [equal]
  | .string _, w => by cases w <;> simp [equal]
  | .sequence as, w => by cases w <;> simp [equal, @equalItems_iff as]
  | .mapping es, w => by cases w <;> simp [equal, @equalEntries_iff es]
  | .tagged _ v, w => by cases w <;> simp [equal, @equal_iff v]

theorem equalItems_iff : ∀ {as bs : List Value}, equalItems as bs = true ↔ as = bs
  | [], bs => by cases bs <;> simp [equalItems]
  | a :: as, bs => by cases bs <;> simp [equalItems, @equal_iff a, @equalItems_iff as]

theorem equalEntries_iff : ∀ {es es' : List (Value × Value)}, equalEntries es es' = true ↔ es = es'
  | [], es' => by cases es' <;> simp [equalEntries]
  | (k, v) :: es, es' => by
    cases es' <;> simp [equalEntries, Prod.ext_iff, @equal_iff k, @equal_iff v, @equalEntries_iff es]

end

instance : DecidableEq Value := fun _ _ => decidable_of_iff _ equal_iff

end AnalyzerBench.Yaml.Value

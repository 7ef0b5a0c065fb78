import AnalyzerBench.Text.Quoted

/-!
# Abstract domains

A configuration names the abstract domains to run.  The registry holds the domains that the analyzer knows, each name
once and in the order of code points; registering a name again replaces its description.
-/

namespace AnalyzerBench

/-- An abstract domain. -/
structure Domain where
  name : String
  description : String
  deriving DecidableEq, Repr

namespace Domain

/-- Puts a domain into a sorted list, in place of the domain of its name. -/
def insert (d : Domain) : List Domain → List Domain
  | [] => [d]
  | e :: es =>
    if d.name = e.name then d :: es
    else if d.name < e.name then d :: e :: es
    else e :: insert d es

end Domain

/-- The abstract domains that are known. -/
structure Registry where
  domains : List Domain := []
  deriving DecidableEq, Repr

namespace Registry

/-- Adds a domain, replacing the one of its name. -/
def register (r : Registry) (name description : String) : Registry := ⟨Domain.insert ⟨name, description⟩ r.domains⟩

/-- The domain of a name. -/
def lookup (r : Registry) (name : String) : Option Domain := r.domains.find? (·.name == name)

/-- The names of the domains, in the order of code points. -/
def names (r : Registry) : List String := r.domains.map (·.name)

/-- The registry after registering the names and descriptions in turn. -/
def ofList (entries : List (String × String)) : Registry :=
  entries.foldl (fun r (name, description) => r.register name description) {}

/-- The domains that the analyzer ships with. -/
def builtin : Registry := ofList [
  ("Interval", "interval domain for single values"),
  ("Interval/Pow2", "intervals with power-of-two bounds"),
  ("Octagon", "octagonal constraint domain (±x ± y ≤ c)"),
  ("Zones", "difference-bound zone domain (DBM)"),
  ("Equality", "equalities between pairs of values"),
  ("Affine", "relational domain of affine equalities between pairs of variables"),
  ("Congruence", "value congruence domain (x ≡ r mod m)"),
  ("SimpleConstProp", "classic constant propagation lattice"),
  ("BitMask/Single", "track possible values of bits of each variable"),
  ("BitMask/Relational", "track bit values of a difference between variables"),
  ("NumRels", "unsigned and signed numeric relational domain"),
  ("NumRels.Signed", "signed numeric relational domain"),
  ("NumRels.Unsigned", "unsigned numeric relational domain"),
  ("NumRels.Zero", "signed numeric relational domain for all available non-pointers with 0"),
  ("MemRange", "memory accesses in terms of function arguments"),
  ("MemRange/Everywhere", "memory ranges tracked at every location"),
  ("NoAlias", "pairs of pointers that never alias")]

end Registry

/-- The expression that looks a domain up when a configuration is loaded; `hidden` chooses which characters of the
name are spelled by number. -/
def lookupExpressionBy (hidden : Char → Bool) (name : String) : String :=
  "domains[" ++ Text.quotedBy hidden name ++ "]"

/-- The expression that looks a domain up when a configuration is loaded. -/
def lookupExpression (name : String) : String := lookupExpressionBy Text.isUnprintable name

/-- A list of expressions that look domains up. -/
def domainListBy (hidden : Char → Bool) (names : List String) : String :=
  "[" ++ String.intercalate ", " (names.map (lookupExpressionBy hidden)) ++ "]"

/-- A list of expressions that look domains up, as it is assigned in a migrated configuration. -/
def domainList (names : List String) : String := domainListBy Text.isUnprintable names

end AnalyzerBench
